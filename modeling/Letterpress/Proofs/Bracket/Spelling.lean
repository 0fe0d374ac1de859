import Letterpress.Proofs.Bracket.Carrying
import Letterpress.Proofs.Markup.Reference

/-!
This file compares the expression of a spelled body with that of the body itself. What is quoted in its
spelling is decoded to what is quoted as it is, but for an escape that is missing for each quote that is
spelled as a reference.
-/

namespace Letterpress.Bracket

open Markup (Decodes entity? isInReference referenced?)

/-- These characters of texts have entities. -/
def textEntities : List Char := ['&', '>', '"', '\'']

/-- A spelling writes the ampersands of a text as references to their entity. The other characters that
have an entity may be written as references too. -/
inductive Spells : List Char → List Char → Prop
  | done : Spells [] []
  | plain {character : Char} {spelled text : List Char} (notReference : character ≠ '&')
      (spells : Spells spelled text) : Spells (character :: spelled) (character :: text)
  | reference {name spelled text : List Char} {character : Char} (isListed : character ∈ textEntities)
      (isEntity : entity? name = some character) (spells : Spells spelled text) :
      Spells ('&' :: (name ++ ';' :: spelled)) (character :: text)

/-- What is written from a spelling is decoded to what is written from its text, but for one character
that is missing for each quote that is spelled as a reference. The numbers count the quotes of the
spelling and those of the text. -/
def Condenses (spelledQuotes quotes : Nat) (raw written : List Char) : Prop :=
  ∃ missing decoded, quotes = spelledQuotes + missing ∧ Decodes raw decoded ∧
    decoded.length + missing = written.length ∧ (missing = 0 → decoded = written)

/-! ### References to entities -/

section

variable {name spelled text : List Char} {character : Char}

/-- A character with an entity and its reference take no part in blanks, paths and segments. -/
structure IsForeign (name : List Char) (character : Char) : Prop where
  notBlank : Text.isBlank character = false
  notSegment : Text.isSegmentCharacter character = false
  notPoint : character ≠ '.'
  noPoint : '.' ∉ '&' :: (name ++ [';'])
  noQuote : '"' ∉ '&' :: (name ++ [';'])
  refers : referenced? name = some character
  quotedName : name.flatMap Text.quoteCharacter = name

theorem foreignEntity (isEntity : entity? name = some character) : IsForeign name character := by
  have same := isEntity
  unfold entity? at same
  split_ifs at same with isAmp isLt isGt isQuot isApos
  all_goals
    obtain rfl := Option.some.inj same
    subst name
    exact ⟨by decide, by decide, by decide, by decide, by decide, by decide, by decide⟩

theorem decodesSegment (isSegment : Text.isIdentifierSegment (String.ofList text) = true) :
    Decodes (String.ofList text).toList (String.ofList text).toList := by
  have noReference : '&' ∉ (String.ofList text).toList := by
    intro isInside
    exact absurd ((Text.segmentCharacters isSegment).2 '&' isInside) (by decide)
  simpa using Decodes.plainFront noReference .done

/-! ### Parts of spellings -/

namespace Spells

/-- The parts of a text are spelled one after the other. -/
theorem ofAppend {front back : List Char}
    (spells : Spells spelled (front ++ back)) :
    ∃ first second, spelled = first ++ second ∧ Spells first front ∧
      Spells second back := by
  induction front generalizing spelled with
  | nil => exact ⟨[], spelled, rfl, .done, spells⟩
  | cons character front inductionHypothesis =>
      cases spells with
      | plain notReference spellsRest =>
          obtain ⟨first, second, rfl, spellsFirst, spellsSecond⟩ := inductionHypothesis spellsRest
          exact ⟨character :: first, second, rfl, .plain notReference spellsFirst, spellsSecond⟩
      | @reference name _ _ _ isListed isEntity spellsRest =>
          obtain ⟨first, second, rfl, spellsFirst, spellsSecond⟩ := inductionHypothesis spellsRest
          refine ⟨'&' :: (name ++ ';' :: first), second, by simp, ?_, spellsSecond⟩
          exact .reference isListed isEntity spellsFirst

section

variable (spells : Spells spelled text)

include spells

/-- A spelling has the characters of its text, and those of references. -/
theorem characters : ∀ character ∈ spelled, character ∈ text ∨ isInReference character = true := by
  induction spells with
  | done => nofun
  | plain _ _ inductionHypothesis =>
      intro character isInside
      rcases List.mem_cons.1 isInside with rfl | isRest
      · exact .inl (List.mem_cons_self ..)
      · exact (inductionHypothesis character isRest).imp_left (List.mem_cons_of_mem _)
  | @reference name spelled _ _ _ isEntity _ inductionHypothesis =>
      have letters := Markup.entityLetters isEntity
      intro character isInside
      have isPart : character = '&' ∨ character ∈ name ∨ character = ';' ∨ character ∈ spelled := by
        simpa using isInside
      rcases isPart with rfl | isLetter | rfl | isRest
      · exact .inr (by decide)
      · exact .inr (by simp [isInReference, letters character isLetter])
      · exact .inr (by decide)
      · exact (inductionHypothesis character isRest).imp_left (List.mem_cons_of_mem _)

theorem decodes : Decodes spelled text := by
  induction spells with
  | done => exact .done
  | plain notReference _ inductionHypothesis => exact .plain notReference inductionHypothesis
  | reference _ isEntity _ inductionHypothesis =>
      exact .reference (foreignEntity isEntity).refers inductionHypothesis

/-- Blanks are spelled as they are. -/
theorem ofBlanks (blank : ∀ character ∈ text, Text.isBlank character = true) : spelled = text := by
  induction spells with
  | done => rfl
  | plain _ _ inductionHypothesis =>
      rw [inductionHypothesis (List.forall_mem_cons.1 blank).2]
  | reference isListed isEntity =>
      have isBlank := (List.forall_mem_cons.1 blank).1
      simp [(foreignEntity isEntity).notBlank] at isBlank

theorem firstNotBlank
    (first : ∀ character, text.head? = some character → Text.isBlank character = false) :
    ∀ character, spelled.head? = some character → Text.isBlank character = false := by
  intro character isFirst
  cases spells with
  | done => exact nomatch isFirst
  | plain => exact first character isFirst
  | reference =>
      obtain rfl := Option.some.inj isFirst
      decide

theorem lastNotBlank
    (last : ∀ character, text.getLast? = some character → Text.isBlank character = false) :
    ∀ character, spelled.getLast? = some character → Text.isBlank character = false := by
  intro character isLast
  rcases List.eq_nil_or_concat' text with rfl | ⟨others, ending, rfl⟩
  · cases spells
    exact nomatch isLast
  · obtain ⟨first, second, rfl, -, spellsLast⟩ := spells.ofAppend
    cases spellsLast with
    | plain _ spellsRest =>
        cases spellsRest
        rw [List.getLast?_concat] at isLast
        exact last character (by rw [List.getLast?_concat, ← isLast])
    | reference _ _ spellsRest =>
        cases spellsRest
        rw [← List.cons_append, ← List.append_assoc, List.getLast?_concat] at isLast
        obtain rfl := Option.some.inj isLast
        decide

/-- A stripped spelling spells the stripped text. -/
theorem strip : Spells (Text.stripList spelled) (Text.stripList text) := by
  obtain ⟨front, back, whole, blankFront, blankBack⟩ := Text.stripListSource text
  rw [whole] at spells
  obtain ⟨first, rest, rfl, spellsFirst, spellsRest⟩ := spells.ofAppend
  obtain ⟨middle, last, rfl, spellsMiddle, spellsLast⟩ := spellsRest.ofAppend
  obtain rfl := spellsFirst.ofBlanks blankFront
  obtain rfl := spellsLast.ofBlanks blankBack
  have stripped : Text.stripList (first ++ (middle ++ last)) = middle :=
    Text.stripListBetween blankFront blankBack
      (spellsMiddle.firstNotBlank fun _ => Text.stripListFirst)
      (spellsMiddle.lastNotBlank fun _ => Text.stripListLast)
  rwa [stripped]

/-- The segments of a path are spelled one by one. -/
theorem segments : List.Forall₂ Spells (Text.splitWhere (· = '.') spelled)
    (Text.splitWhere (· = '.') text) := by
  induction spells with
  | done => exact .cons .done .nil
  | @plain character spelled text notReference _ inductionHypothesis =>
      rw [Text.splitWhereCons, Text.splitWhereCons]
      generalize Text.splitWhere (· = '.') spelled = spelledSegments at inductionHypothesis ⊢
      generalize Text.splitWhere (· = '.') text = textSegments at inductionHypothesis ⊢
      by_cases isPoint : character = '.'
      · simp only [Text.addToSegments, isPoint, decide_true, if_true]
        exact .cons .done inductionHypothesis
      · simp only [Text.addToSegments, isPoint, decide_false, Bool.false_eq_true, if_false]
        cases inductionHypothesis with
        | nil => exact .cons (.plain notReference .done) .nil
        | cons spellsFirst spellsOthers => exact .cons (.plain notReference spellsFirst) spellsOthers
  | @reference name spelled text character isListed isEntity _ inductionHypothesis =>
      have foreign := foreignEntity isEntity
      obtain ⟨first, pieces, splits⟩ := Text.splitWhereNotEmpty (· = '.') spelled
      have noPoint : ∀ letter ∈ '&' :: (name ++ [';']), decide (letter = '.') = false := by
        intro letter isInside
        apply decide_eq_false
        rintro rfl
        exact foreign.noPoint isInside
      have splitsReference := Text.splitWhereFront noPoint splits
      simp only [List.cons_append, List.append_assoc, List.nil_append] at splitsReference
      rw [splits] at inductionHypothesis
      rw [splitsReference, Text.splitWhereCons]
      generalize Text.splitWhere (· = '.') text = textSegments at inductionHypothesis ⊢
      simp only [Text.addToSegments, foreign.notPoint, decide_false, Bool.false_eq_true, if_false]
      cases inductionHypothesis with
      | cons spellsFirst spellsOthers =>
          exact .cons (.reference isListed isEntity spellsFirst) spellsOthers

/-- A spelling is the text itself, or neither of them is a segment. -/
theorem sameOrForeign :
    spelled = text ∨ (∃ character ∈ spelled, Text.isSegmentCharacter character = false) ∧
      ∃ character ∈ text, Text.isSegmentCharacter character = false := by
  induction spells with
  | done => exact .inl rfl
  | plain _ _ inductionHypothesis =>
      rcases inductionHypothesis with rfl | ⟨⟨character, isSpelled, outside⟩, other, isInside, notInside⟩
      · exact .inl rfl
      · exact .inr ⟨⟨character, List.mem_cons_of_mem _ isSpelled, outside⟩, other,
          List.mem_cons_of_mem _ isInside, notInside⟩
  | reference isListed isEntity =>
      exact .inr ⟨⟨'&', List.mem_cons_self .., by decide⟩, _, List.mem_cons_self ..,
        (foreignEntity isEntity).notSegment⟩

/-- A segment is spelled as it is. -/
theorem ofSegment (isSegment : Text.isIdentifierSegment (String.ofList spelled) = true ∨
    Text.isIdentifierSegment (String.ofList text) = true) : spelled = text := by
  have inSegment {characters : List Char}
      (isSegment : Text.isIdentifierSegment (String.ofList characters) = true) :
      ∀ character ∈ characters, Text.isSegmentCharacter character = true := by
    simpa using (Text.segmentCharacters isSegment).2
  rcases spells.sameOrForeign with same | ⟨⟨first, isSpelled, outside⟩, other, isInside, notInside⟩
  · exact same
  · rcases isSegment with isSegment | isSegment
    · simp [inSegment isSegment first isSpelled] at outside
    · simp [inSegment isSegment other isInside] at notInside

theorem sameSegment : Text.isIdentifierSegment (String.ofList spelled) =
    Text.isIdentifierSegment (String.ofList text) := by
  rw [Bool.eq_iff_iff]
  constructor
  · intro isSegment
    exact spells.ofSegment (.inl isSegment) ▸ isSegment
  · intro isSegment
    exact spells.ofSegment (.inr isSegment) ▸ isSegment

theorem emptyIff : spelled = [] ↔ text = [] := by
  cases spells <;> simp

end

end Spells

end

/-! ### Condensed texts -/

namespace Condenses

variable {raw more written writtenMore : List Char} {first second firstQuotes secondQuotes : Nat}

theorem ofDecodes (quotes : Nat) (decodes : Decodes raw written) :
    Condenses quotes quotes raw written :=
  ⟨0, written, rfl, decodes, rfl, fun _ => rfl⟩

theorem append (condenses : Condenses first firstQuotes raw written)
    (condensesMore : Condenses second secondQuotes more writtenMore) :
    Condenses (first + second) (firstQuotes + secondQuotes) (raw ++ more) (written ++ writtenMore) := by
  obtain ⟨missing, decoded, quotes, decodes, lengths, same⟩ := condenses
  obtain ⟨missingMore, decodedMore, quotesMore, decodesMore, lengthsMore, sameMore⟩ := condensesMore
  refine ⟨missing + missingMore, decoded ++ decodedMore, by omega, decodes.append decodesMore, ?_, ?_⟩
  · rw [List.length_append, List.length_append]
    omega
  · intro noneMissing
    rw [same (by omega), sameMore (by omega)]

theorem addFront {front : List Char} (noReference : '&' ∉ front)
    (condenses : Condenses first firstQuotes raw written) :
    Condenses first firstQuotes (front ++ raw) (front ++ written) := by
  obtain ⟨missing, decoded, quotes, decodes, lengths, same⟩ := condenses
  refine ⟨missing, front ++ decoded, quotes, decodes.plainFront noReference, ?_, ?_⟩
  · rw [List.length_append, List.length_append]
    omega
  · intro noneMissing
    rw [same noneMissing]

/-- The decoded text is the written one exactly if all quotes are spelled as they are. -/
theorem sameIff {decoded : List Char} (condenses : Condenses first firstQuotes raw written)
    (decodes : Decodes raw decoded) : decoded = written ↔ first = firstQuotes := by
  obtain ⟨missing, other, quotes, decodesOther, lengths, same⟩ := condenses
  obtain rfl : decoded = other := decodes.unique decodesOther
  constructor
  · rintro rfl
    omega
  · intro sameQuotes
    exact same (by omega)

end Condenses

/-! ### Quotes -/

theorem quotesOfBlanks {blanks : List Char}
    (blank : ∀ character ∈ blanks, Text.isBlank character = true) : blanks.count '"' = 0 := by
  apply List.count_eq_zero.2
  intro isInside
  exact absurd (blank '"' isInside) (by decide)

theorem quotesOfStripped (text : List Char) : (Text.stripList text).count '"' = text.count '"' := by
  obtain ⟨front, back, whole, blankFront, blankBack⟩ := Text.stripListSource text
  have counted := congrArg (List.count '"') whole
  rw [List.count_append, List.count_append, quotesOfBlanks blankFront, quotesOfBlanks blankBack,
    Nat.zero_add, Nat.add_zero] at counted
  exact counted.symm

theorem quotesOfSegments (text : List Char) :
    (Text.splitWhere (· = '.') text).flatten.count '"' = text.count '"' := by
  induction text with
  | nil => rfl
  | cons character rest inductionHypothesis =>
      rw [Text.splitWhereCons, List.count_cons]
      generalize Text.splitWhere (· = '.') rest = segments at inductionHypothesis ⊢
      by_cases isPoint : character = '.'
      · subst isPoint
        simpa [Text.addToSegments] using inductionHypothesis
      · cases segments with
        | nil => simp [Text.addToSegments, isPoint, List.count_cons, ← inductionHypothesis]
        | cons first others =>
            simp [Text.addToSegments, isPoint, List.count_cons, ← inductionHypothesis]

/-- A reference is decoded to the quoted character, or to a quote without its escape. -/
theorem quotedReference {name : List Char} {character : Char} (isListed : character ∈ textEntities)
    (isEntity : entity? name = some character) :
    Condenses 0 (List.count '"' [character]) ('&' :: (name ++ [';'])) (Text.quoteCharacter character) := by
  have decodes : Decodes ('&' :: (name ++ [';'])) [character] :=
    .reference (foreignEntity isEntity).refers .done
  simp only [textEntities, List.mem_cons, List.not_mem_nil, or_false] at isListed
  rcases isListed with rfl | rfl | rfl | rfl
  · exact .ofDecodes 0 decodes
  · exact .ofDecodes 0 decodes
  · exact ⟨1, ['"'], rfl, decodes, rfl, by decide⟩
  · exact .ofDecodes 0 decodes

/-! ### Expressions -/

namespace Spells

variable {spelled text : List Char} (spells : Spells spelled text)

include spells

/-- What is quoted in its spelling lacks the escapes of the quotes that are spelled as references. -/
theorem quoted : Condenses (spelled.count '"') (text.count '"') (Text.quoteList spelled)
    (Text.quoteList text) := by
  have inside : Condenses (spelled.count '"') (text.count '"')
      (spelled.flatMap Text.quoteCharacter) (text.flatMap Text.quoteCharacter) := by
    induction spells with
    | done => exact .ofDecodes 0 .done
    | @plain character spelled text notReference _ inductionHypothesis =>
        have noReference : '&' ∉ Text.quoteCharacter character := by
          rcases Text.quoteCharacterWrites character with same | ⟨-, allEscapes⟩
          · rw [same, List.mem_singleton]
            exact Ne.symm notReference
          · intro isInside
            exact absurd (allEscapes '&' isInside) (by decide)
        have first : Decodes (Text.quoteCharacter character) (Text.quoteCharacter character) := by
          simpa using Decodes.plainFront noReference .done
        rw [← List.singleton_append, ← @List.singleton_append _ character text, List.count_append,
          List.count_append, List.flatMap_append, List.flatMap_append, List.flatMap_singleton]
        exact (Condenses.ofDecodes _ first).append inductionHypothesis
    | @reference name spelled text character isListed isEntity _ inductionHypothesis =>
        have foreign := foreignEntity isEntity
        have sameName : ('&' :: (name ++ [';'])).flatMap Text.quoteCharacter = '&' :: (name ++ [';']) := by
          simp [foreign.quotedName, Text.quoteCharacter]
        rw [show '&' :: (name ++ ';' :: spelled) = ('&' :: (name ++ [';'])) ++ spelled by simp,
          ← @List.singleton_append _ character text, List.count_append, List.count_append,
          List.flatMap_append, List.flatMap_append, List.flatMap_singleton, sameName,
          List.count_eq_zero.2 foreign.noQuote]
        exact (quotedReference isListed isEntity).append inductionHypothesis
  have back : Decodes ['"'] ['"'] := .plain (by decide) .done
  exact (inside.append (.ofDecodes 0 back)).addFront (show '&' ∉ ['"'] by decide)

theorem wholeField : Condenses (spelled.count '"') (text.count '"')
    (wholeField (String.ofList spelled)).toList (wholeField (String.ofList text)).toList := by
  have front : '&' ∉ "this[".toList := by decide
  have back : Decodes "]".toList "]".toList := .plain (by decide) .done
  simpa [Bracket.wholeField, Text.quote] using
    (spells.quoted.append (.ofDecodes 0 back)).addFront front

theorem segmentAccess : Condenses (spelled.count '"') (text.count '"')
    (segmentAccess (String.ofList spelled)).toList (segmentAccess (String.ofList text)).toList := by
  unfold Bracket.segmentAccess
  rw [spells.sameSegment]
  split
  case isTrue isSegment =>
    obtain rfl := spells.ofSegment (.inr isSegment)
    rw [String.toList_append]
    exact .ofDecodes _ (.plain (by decide) (decodesSegment isSegment))
  case isFalse =>
    have back : Decodes "]".toList "]".toList := .plain (by decide) .done
    simpa [Text.quote] using
      (spells.quoted.append (.ofDecodes 0 back)).addFront (show '&' ∉ ['['] by decide)

end Spells

/-- A path of spelled segments is condensed like its segments. -/
theorem condensesPath {spelledSegments segments : List (List Char)}
    (spells : List.Forall₂ Spells spelledSegments segments) {spelledQuotes quotes : Nat}
    {spelledExpression expression : String}
    (condenses : Condenses spelledQuotes quotes spelledExpression.toList expression.toList) :
    Option.Rel (fun spelledPath path : String =>
        Condenses (spelledQuotes + spelledSegments.flatten.count '"')
          (quotes + segments.flatten.count '"') spelledPath.toList path.toList)
      (pathFrom spelledExpression spelledSegments) (pathFrom expression segments) := by
  induction spells generalizing spelledExpression expression spelledQuotes quotes with
  | nil => exact .some condenses
  | @cons spelled text _ _ spellsFirst _ inductionHypothesis =>
      have stripped := spellsFirst.strip
      simp only [pathFrom, String.ofList_eq_empty_iff, stripped.emptyIff]
      split
      case isTrue => exact .none
      case isFalse =>
        have access := stripped.segmentAccess
        rw [quotesOfStripped, quotesOfStripped] at access
        rw [List.flatten_cons, List.flatten_cons, List.count_append, List.count_append,
          ← Nat.add_assoc, ← Nat.add_assoc]
        apply inductionHypothesis
        rw [String.toList_append, String.toList_append]
        exact condenses.append access

theorem condensesGetD {spelledQuotes quotes : Nat} {first second : Option String}
    {spelledOther other : String}
    (related : Option.Rel (fun spelledPath path : String =>
      Condenses spelledQuotes quotes spelledPath.toList path.toList) first second)
    (condenses : Condenses spelledQuotes quotes spelledOther.toList other.toList) :
    Condenses spelledQuotes quotes (first.getD spelledOther).toList (second.getD other).toList := by
  cases related with
  | some condensesPath => exact condensesPath
  | none => exact condenses

/-- The expression of a spelled body lacks the escapes of the quotes that are spelled as references. -/
theorem Spells.rootExpression {spelled text : List Char} (spells : Spells spelled text) :
    Condenses (spelled.count '"') (text.count '"') (toRootExpression (String.ofList spelled)).toList
      (toRootExpression (String.ofList text)).toList := by
  rcases eq_or_ne text [] with rfl | notEmpty
  · obtain rfl := spells.emptyIff.2 rfl
    exact .ofDecodes 0 .done
  · have isWhole := spells.wholeField
    have areSegments := spells.segments
    have alone : Condenses (spelled.count '"') (text.count '"')
        (if Text.isIdentifierSegment (String.ofList spelled) then String.ofList spelled
          else Bracket.wholeField (String.ofList spelled)).toList
        (if Text.isIdentifierSegment (String.ofList text) then String.ofList text
          else Bracket.wholeField (String.ofList text)).toList := by
      rw [spells.sameSegment]
      split
      case isTrue isSegment =>
        obtain rfl := spells.ofSegment (.inr isSegment)
        exact .ofDecodes _ (decodesSegment isSegment)
      case isFalse => exact isWhole
    have areQuotes := quotesOfSegments spelled
    have areQuotesText := quotesOfSegments text
    unfold toRootExpression
    simp only [String.ofList_eq_empty_iff, String.toList_ofList, spells.emptyIff, notEmpty, if_false]
    generalize Text.splitWhere (· = '.') spelled = spelledSegments at areSegments areQuotes ⊢
    generalize Text.splitWhere (· = '.') text = textSegments at areSegments areQuotesText ⊢
    cases areSegments with
    | nil => exact alone
    | @cons head _ _ _ spellsHead spellsRest =>
        cases spellsRest with
        | nil => exact alone
        | cons spellsSecond spellsOthers =>
            simp only [spellsHead.sameSegment]
            split
            case isFalse => exact isWhole
            case isTrue isSegment =>
              obtain rfl := spellsHead.ofSegment (.inr isSegment)
              rw [List.flatten_cons, List.count_append] at areQuotes areQuotesText
              have path := condensesPath (.cons spellsSecond spellsOthers)
                (.ofDecodes (head.count '"') (decodesSegment isSegment))
              rw [areQuotes, areQuotesText] at path
              exact condensesGetD path isWhole

end Letterpress.Bracket
