import Letterpress.Markup.Character
import Letterpress.Proofs.Text.Letter
import Letterpress.Proofs.Text.Splitting

/-!
This file shows that decoding works piece by piece: a character that takes no part in references
separates what stands before it from what stands after it.
-/

namespace Letterpress.Markup

/-- The name of a reference is made of these characters. -/
def isReferenceLetter (character : Char) : Bool := character.isAlphanum || character = '#'

/-- A character outside of references neither delimits one nor stands in its name. -/
def isInReference (character : Char) : Bool :=
  isReferenceLetter character || character = '&' || character = ';'

/-- A reference is decoded to one character, and any other character to itself. -/
inductive Decodes : List Char → List Char → Prop
  | done : Decodes [] []
  | plain {character : Char} {raw decoded : List Char} (notReference : character ≠ '&')
      (decodesRest : Decodes raw decoded) : Decodes (character :: raw) (character :: decoded)
  | reference {name raw decoded : List Char} {character : Char}
      (refers : referenced? name = some character) (decodesRest : Decodes raw decoded) :
      Decodes ('&' :: (name ++ ';' :: raw)) (character :: decoded)

def IsDecodable (raw : List Char) : Prop := ∃ decoded, Decodes raw decoded

theorem hexIsAlphanum {character : Char} (hex : isHex character = true) :
    character.isAlphanum = true := by
  simp only [isHex, Text.hexDigit?, Char.le_def, UInt32.le_iff_toNat_le, Char.reduceVal,
    UInt32.reduceToNat] at hex
  rw [Text.isAlphanumIff]
  unfold Char.toNat
  split_ifs at hex with isDigit isLower isUpper
  · omega
  · omega
  · omega
  · cases hex

theorem entityLetters {name : List Char} {character : Char}
    (found : entity? name = some character) :
    ∀ letter ∈ name, isReferenceLetter letter = true := by
  unfold entity? at found
  apply List.all_eq_true.1
  split_ifs at found with isAmp isLt isGt isQuot isApos
  · exact isAmp ▸ by decide
  · exact isLt ▸ by decide
  · exact isGt ▸ by decide
  · exact isQuot ▸ by decide
  · exact isApos ▸ by decide

theorem referencedLetters {name : List Char} {character : Char}
    (refers : referenced? name = some character) :
    ∀ letter ∈ name, isReferenceLetter letter = true := by
  unfold referenced? at refers
  split at refers
  case h_1 digits =>
    split at refers
    case isTrue areDigits =>
      obtain ⟨-, allHex⟩ := Bool.and_eq_true_iff.1 areDigits
      refine List.forall_mem_cons.2 ⟨by decide, List.forall_mem_cons.2 ⟨by decide, ?_⟩⟩
      intro letter isInside
      simp [isReferenceLetter, hexIsAlphanum (List.all_eq_true.1 allHex letter isInside)]
    case isFalse => exact nomatch refers
  case h_2 digits _ =>
    split at refers
    case isTrue areDigits =>
      obtain ⟨-, allDigits⟩ := Bool.and_eq_true_iff.1 areDigits
      refine List.forall_mem_cons.2 ⟨by decide, ?_⟩
      intro letter isInside
      simp [isReferenceLetter, Char.isAlphanum, List.all_eq_true.1 allDigits letter isInside]
    case isFalse => exact nomatch refers
  case h_3 => exact entityLetters refers

/-- No delimiter stands in the name of a reference. -/
theorem referencedNoDelimiter {name : List Char} {character : Char}
    (refers : referenced? name = some character) : '&' ∉ name ∧ ';' ∉ name :=
  ⟨fun isInside => absurd (referencedLetters refers _ isInside) (by decide),
    fun isInside => absurd (referencedLetters refers _ isInside) (by decide)⟩

/-! ### Decoding by pieces -/

namespace Decodes

variable {raw decoded more decodedMore : List Char}

/-- Characters without an ampersand stand for themselves. -/
theorem plainFront {front : List Char} (noReference : '&' ∉ front) (decodes : Decodes raw decoded) :
    Decodes (front ++ raw) (front ++ decoded) := by
  induction front with
  | nil => exact decodes
  | cons character rest inductionHypothesis =>
      obtain ⟨notReference, noReferenceRest⟩ := List.ne_and_not_mem_of_not_mem_cons noReference
      exact .plain (Ne.symm notReference) (inductionHypothesis noReferenceRest)

theorem append (decodes : Decodes raw decoded) (decodesMore : Decodes more decodedMore) :
    Decodes (raw ++ more) (decoded ++ decodedMore) := by
  induction decodes with
  | done => exact decodesMore
  | plain notReference _ inductionHypothesis => exact .plain notReference inductionHypothesis
  | @reference name raw _ _ refers _ inductionHypothesis =>
      rw [List.cons_append, List.append_assoc, List.cons_append]
      exact .reference refers inductionHypothesis

theorem tailOfPlain {character : Char} (notReference : character ≠ '&')
    (decodes : Decodes (character :: raw) decoded) :
    ∃ decodedRest, decoded = character :: decodedRest ∧ Decodes raw decodedRest := by
  cases decodes with
  | plain _ decodesRest => exact ⟨_, rfl, decodesRest⟩
  | reference => exact absurd rfl notReference

theorem restOfPlain {front : List Char} (noReference : '&' ∉ front)
    (decodes : Decodes (front ++ raw) decoded) :
    ∃ decodedRest, decoded = front ++ decodedRest ∧ Decodes raw decodedRest := by
  induction front generalizing decoded with
  | nil => exact ⟨decoded, rfl, decodes⟩
  | cons character front inductionHypothesis =>
      obtain ⟨notReference, noReferenceRest⟩ := List.ne_and_not_mem_of_not_mem_cons noReference
      obtain ⟨others, rfl, decodesRest⟩ := decodes.tailOfPlain (Ne.symm notReference)
      obtain ⟨decodedRest, rfl, decodesBack⟩ := inductionHypothesis noReferenceRest decodesRest
      exact ⟨decodedRest, rfl, decodesBack⟩

/-- A last character that ends no reference is decoded to itself. -/
theorem last {front : List Char} {last : Char} (notClosing : last ≠ ';')
    (decodes : Decodes (front ++ [last]) decoded) : ∃ others, decoded = others ++ [last] := by
  generalize whole : front ++ [last] = raw at decodes
  induction decodes generalizing front with
  | done => simp at whole
  | @plain first raw decoded notReference decodesRest inductionHypothesis =>
      cases front with
      | nil =>
          obtain ⟨rfl, rfl⟩ := List.cons.inj whole
          cases decodesRest
          exact ⟨[], rfl⟩
      | cons begins front =>
          obtain ⟨others, rfl⟩ := inductionHypothesis (List.cons.inj whole).2
          exact ⟨first :: others, rfl⟩
  | @reference name raw decoded character refers decodesRest inductionHypothesis =>
      rcases List.eq_nil_or_concat' raw with rfl | ⟨others, ending, rfl⟩
      · have sameLast := congrArg List.getLast? whole
        rw [List.getLast?_concat, ← List.cons_append, List.getLast?_concat] at sameLast
        exact absurd (Option.some.inj sameLast) notClosing
      · have sameLast := congrArg List.getLast? whole
        rw [List.getLast?_concat, ← List.cons_append, ← List.cons_append, ← List.append_assoc,
          List.getLast?_concat] at sameLast
        obtain rfl := Option.some.inj sameLast
        obtain ⟨more, rfl⟩ := inductionHypothesis rfl
        exact ⟨character :: more, rfl⟩

/-- A character outside of references separates what it stands between. -/
theorem split {front back : List Char} {character : Char}
    (outside : isInReference character = false)
    (decodes : Decodes (front ++ character :: back) decoded) :
    ∃ first second, Decodes front first ∧ Decodes back second ∧
      decoded = first ++ character :: second := by
  obtain ⟨⟨notLetter, notOpening⟩, notClosing⟩ : (isReferenceLetter character = false ∧
      character ≠ '&') ∧ character ≠ ';' := by simpa [isInReference] using outside
  generalize whole : front ++ character :: back = text at decodes
  induction decodes generalizing front with
  | done => simp at whole
  | @plain next raw decoded notReference decodesRest inductionHypothesis =>
      cases front with
      | nil =>
          obtain ⟨rfl, rfl⟩ := List.cons.inj whole
          exact ⟨[], _, .done, decodesRest, rfl⟩
      | cons begins front =>
          obtain ⟨rfl, wholeRest⟩ := List.cons.inj whole
          obtain ⟨first, second, decodesFront, decodesBack, rfl⟩ := inductionHypothesis wholeRest
          exact ⟨_, second, .plain notReference decodesFront, decodesBack, rfl⟩
  | @reference name raw decoded stands refers decodesRest inductionHypothesis =>
      cases front with
      | nil => exact absurd (List.cons.inj whole).1 notOpening
      | cons begins front =>
          obtain ⟨rfl, wholeRest⟩ := List.cons.inj whole
          obtain ⟨remaining, rfl, same⟩ : ∃ remaining, front = name ++ ';' :: remaining ∧
              remaining ++ character :: back = raw := by
            obtain ⟨remaining, sameName, sameBack⟩ | ⟨remaining, sameName, sameBack⟩ :=
              List.append_eq_append_iff.1 wholeRest
            · cases remaining with
              | nil => exact absurd (List.cons.inj sameBack).1 notClosing
              | cons _ _ =>
                  obtain ⟨rfl, -⟩ := List.cons.inj sameBack
                  have isLetter := referencedLetters refers character (by simp [sameName])
                  exact absurd isLetter (by simp [notLetter])
            · cases remaining with
              | nil => exact absurd (List.cons.inj sameBack).1.symm notClosing
              | cons _ remaining =>
                  obtain ⟨rfl, rfl⟩ := List.cons.inj sameBack
                  exact ⟨remaining, sameName, rfl⟩
          obtain ⟨first, second, decodesFront, decodesBack, rfl⟩ := inductionHypothesis same
          exact ⟨_, second, .reference refers decodesFront, decodesBack, rfl⟩

end Decodes

/-! ### The decoder -/

theorem decodesOfPieces {pieces : List (List Char)} {decoded : List Char}
    (noReference : ∀ piece ∈ pieces, '&' ∉ piece)
    (found : decodePieces? pieces = some decoded) :
    Decodes (pieces.flatMap ('&' :: ·)) decoded := by
  induction pieces generalizing decoded with
  | nil =>
      obtain rfl := Option.some.inj found
      exact .done
  | cons piece rest inductionHypothesis =>
      obtain ⟨noReferencePiece, noReferenceRest⟩ := List.forall_mem_cons.1 noReference
      simp only [decodePieces?] at found
      split at found
      case h_2 => exact nomatch found
      case h_1 closing data atClosing =>
        split at found
        case h_2 => exact nomatch found
        case h_1 character decodedRest refers foundRest =>
          obtain rfl := Option.some.inj found
          generalize isName : piece.takeWhile (· ≠ ';') = name at atClosing refers
          have whole : piece = name ++ closing :: data := by
            have isPrefix := List.prefix_iff_eq_append.1 (isName ▸ List.takeWhile_prefix _)
            rw [← isPrefix, atClosing]
          have closes : closing = ';' := by
            by_contra notClosing
            have taken : (closing :: data).takeWhile (· ≠ ';') = closing :: data.takeWhile (· ≠ ';') :=
              List.takeWhile_cons_of_pos (by simpa using notClosing)
            have noClosing := (referencedNoDelimiter refers).2
            rw [whole, List.takeWhile_append_of_pos, taken] at isName
            · simp at isName
            · exact fun letter isInside => decide_eq_true fun same => noClosing (same ▸ isInside)
          subst closes
          rw [List.flatMap_cons, whole, List.cons_append, List.append_assoc, List.cons_append]
          refine .reference refers (.plainFront ?_ (inductionHypothesis noReferenceRest foundRest))
          exact fun isInside => noReferencePiece (by simp [whole, isInside])

section

variable {raw decoded : List Char} {character : Char}

theorem decodeCharacter (notReference : character ≠ '&')
    (found : decodeReferences? raw = some decoded) :
    decodeReferences? (character :: raw) = some (character :: decoded) := by
  obtain ⟨first, pieces, splits⟩ := Text.splitWhereNotEmpty (· = '&') raw
  rw [decodeReferences?, splits] at found
  obtain ⟨decodedRest, foundRest, rfl⟩ := Option.map_eq_some_iff.1 found
  have splitsMore : Text.splitWhere (· = '&') (character :: raw) =
      (character :: first) :: pieces := by
    simp [Text.splitWhereCons, Text.addToSegments, splits, notReference]
  rw [decodeReferences?, splitsMore]
  simp [foundRest]

theorem decodeReference {name : List Char} (refers : referenced? name = some character)
    (found : decodeReferences? raw = some decoded) :
    decodeReferences? ('&' :: (name ++ ';' :: raw)) = some (character :: decoded) := by
  obtain ⟨first, pieces, splits⟩ := Text.splitWhereNotEmpty (· = '&') raw
  rw [decodeReferences?, splits] at found
  obtain ⟨decodedRest, foundRest, rfl⟩ := Option.map_eq_some_iff.1 found
  obtain ⟨noOpening, noClosing⟩ := referencedNoDelimiter refers
  have splitsName : Text.splitWhere (· = '&') (name ++ [';'] ++ raw) =
      (name ++ [';'] ++ first) :: pieces := by
    refine Text.splitWhereFront ?_ splits
    intro letter isInside
    simp only [List.mem_append, List.mem_singleton] at isInside
    obtain isName | rfl := isInside
    · exact decide_eq_false fun same => noOpening (same ▸ isName)
    · decide
  have splitsMore : Text.splitWhere (· = '&') ('&' :: (name ++ ';' :: raw)) =
      [] :: (name ++ ';' :: first) :: pieces := by
    rw [List.append_assoc, List.singleton_append, List.append_assoc,
      List.singleton_append] at splitsName
    rw [Text.splitWhereCons, splitsName]
    rfl
  have taken : (name ++ ';' :: first).takeWhile (· ≠ ';') = name := by
    rw [List.takeWhile_append_of_pos, List.takeWhile_cons_of_neg (by decide), List.append_nil]
    exact fun letter isInside => decide_eq_true fun same => noClosing (same ▸ isInside)
  rw [decodeReferences?, splitsMore]
  simp only [decodePieces?, taken, List.drop_left, refers, foundRest, Option.map_some,
    List.nil_append, List.cons_append]

/-- The decoder finds what the characters and references stand for. -/
theorem decodeReferencesIff : decodeReferences? raw = some decoded ↔ Decodes raw decoded := by
  constructor
  · intro found
    obtain ⟨first, pieces, splits, whole, noneInFirst, noneInPieces⟩ := Text.splitWhereSource '&' raw
    rw [decodeReferences?, splits] at found
    obtain ⟨decodedRest, foundRest, rfl⟩ := Option.map_eq_some_iff.1 found
    rw [whole]
    exact .plainFront noneInFirst (decodesOfPieces noneInPieces foundRest)
  · intro decodes
    induction decodes with
    | done => rfl
    | plain notReference _ inductionHypothesis =>
        exact decodeCharacter notReference inductionHypothesis
    | reference refers _ inductionHypothesis => exact decodeReference refers inductionHypothesis

theorem Decodes.unique {other : List Char} (decodes : Decodes raw decoded)
    (decodesOther : Decodes raw other) : decoded = other :=
  Option.some.inj ((decodeReferencesIff.2 decodes).symm.trans (decodeReferencesIff.2 decodesOther))

theorem isDecodableIff : (decodeReferences? raw).isSome ↔ IsDecodable raw := by
  simp only [Option.isSome_iff_exists, decodeReferencesIff, IsDecodable]

end

namespace IsDecodable

variable {raw more : List Char}

theorem append (decodable : IsDecodable raw) (decodableMore : IsDecodable more) :
    IsDecodable (raw ++ more) := by
  obtain ⟨decoded, decodes⟩ := decodable
  obtain ⟨decodedMore, decodesMore⟩ := decodableMore
  exact ⟨_, decodes.append decodesMore⟩

theorem ofPlain (noReference : '&' ∉ raw) : IsDecodable raw :=
  ⟨raw, by simpa using Decodes.plainFront noReference .done⟩

theorem splitIff {character : Char} (outside : isInReference character = false) :
    IsDecodable (raw ++ character :: more) ↔ IsDecodable raw ∧ IsDecodable more := by
  constructor
  · rintro ⟨decoded, decodes⟩
    obtain ⟨first, second, decodesFirst, decodesSecond, -⟩ := decodes.split outside
    exact ⟨⟨first, decodesFirst⟩, second, decodesSecond⟩
  · rintro ⟨decodable, decodableMore⟩
    have isPlain : character ≠ '&' := by
      rintro rfl
      exact nomatch outside
    have single : IsDecodable [character] := ofPlain (by simpa using Ne.symm isPlain)
    exact decodable.append (single.append decodableMore)

/-! ### Texts that are written in other characters -/

section

variable {write : Char → List Char}

/-- The characters of references are written as they are. -/
theorem writeLetters (same : ∀ character, isInReference character = true → write character = [character])
    {letters : List Char} (inReference : ∀ letter ∈ letters, isInReference letter = true) :
    letters.flatMap write = letters := by
  induction letters with
  | nil => rfl
  | cons letter rest inductionHypothesis =>
      obtain ⟨isFirst, areRest⟩ := List.forall_mem_cons.1 inReference
      rw [List.flatMap_cons, same letter isFirst, inductionHypothesis areRest, List.singleton_append]

theorem lettersInReference {name : List Char} {character : Char}
    (refers : referenced? name = some character) : ∀ letter ∈ name, isInReference letter = true :=
  fun letter isInside => by simp [isInReference, referencedLetters refers letter isInside]

/-- A text that is written in other characters is decoded to those of the decoded text. -/
theorem decodesWritten {decoded : List Char}
    (same : ∀ character, isInReference character = true → write character = [character])
    (plain : ∀ character, isInReference character = false → '&' ∉ write character)
    (decodes : Decodes raw decoded) :
    ∃ written, Decodes (raw.flatMap write) written ∧
      ∀ character ∈ written, character ∈ decoded ∨ ∃ source ∈ decoded, character ∈ write source := by
  induction decodes with
  | done => exact ⟨[], .done, nofun⟩
  | @plain character raw decoded notReference _ inductionHypothesis =>
      obtain ⟨written, decodesRest, fromRest⟩ := inductionHypothesis
      have noReference : '&' ∉ write character := by
        cases inReference : isInReference character with
        | true => simpa [same character inReference] using Ne.symm notReference
        | false => exact plain character inReference
      refine ⟨write character ++ written, Decodes.plainFront noReference decodesRest, ?_⟩
      intro other isWritten
      rcases List.mem_append.1 isWritten with isFirst | isRest
      · exact .inr ⟨character, List.mem_cons_self .., isFirst⟩
      · exact (fromRest other isRest).imp (List.mem_cons_of_mem _) fun ⟨source, isSource, isIn⟩ =>
          ⟨source, List.mem_cons_of_mem _ isSource, isIn⟩
  | @reference name raw decoded character refers _ inductionHypothesis =>
      obtain ⟨written, decodesRest, fromRest⟩ := inductionHypothesis
      rw [List.flatMap_cons, List.flatMap_append, List.flatMap_cons, same '&' (by decide),
        same ';' (by decide), writeLetters same (lettersInReference refers)]
      refine ⟨character :: written, .reference refers decodesRest, ?_⟩
      intro other isWritten
      rcases List.mem_cons.1 isWritten with rfl | isRest
      · exact .inl (List.mem_cons_self ..)
      · exact (fromRest other isRest).imp (List.mem_cons_of_mem _) fun ⟨source, isSource, isIn⟩ =>
          ⟨source, List.mem_cons_of_mem _ isSource, isIn⟩

theorem flatMap (same : ∀ character, isInReference character = true → write character = [character])
    (plain : ∀ character, isInReference character = false → '&' ∉ write character)
    (decodable : IsDecodable raw) : IsDecodable (raw.flatMap write) := by
  obtain ⟨decoded, decodes⟩ := decodable
  obtain ⟨written, decodesFlat, -⟩ := decodesWritten same plain decodes
  exact ⟨written, decodesFlat⟩

/-- Characters without an ampersand are dropped from the front. -/
theorem afterPlain {front : List Char} (noReference : '&' ∉ front)
    (decodable : IsDecodable (front ++ raw)) : IsDecodable raw := by
  obtain ⟨_, decodes⟩ := decodable
  obtain ⟨decoded, -, decodesRest⟩ := decodes.restOfPlain noReference
  exact ⟨decoded, decodesRest⟩

/-- Letters that begin a written text begin the text itself. -/
theorem lettersOfWritten
    (same : ∀ character, isInReference character = true → write character = [character])
    (outside : ∀ character, isInReference character = false → write character ≠ [] ∧
      ∀ written ∈ write character, isInReference written = false)
    {letters rest : List Char} (inReference : ∀ letter ∈ letters, isInReference letter = true)
    (whole : raw.flatMap write = letters ++ rest) :
    ∃ remaining, raw = letters ++ remaining ∧ remaining.flatMap write = rest := by
  induction letters generalizing raw with
  | nil => exact ⟨raw, rfl, whole⟩
  | cons letter letters inductionHypothesis =>
      obtain ⟨isFirst, areRest⟩ := List.forall_mem_cons.1 inReference
      cases raw with
      | nil => exact nomatch whole
      | cons character raw =>
          rw [List.flatMap_cons] at whole
          cases isLetter : isInReference character with
          | true =>
              rw [same character isLetter] at whole
              obtain ⟨rfl, wholeRest⟩ := List.cons.inj whole
              obtain ⟨remaining, rfl, sameRest⟩ := inductionHypothesis areRest wholeRest
              exact ⟨remaining, rfl, sameRest⟩
          | false =>
              obtain ⟨notEmpty, noneInside⟩ := outside character isLetter
              obtain ⟨first, others, isWritten⟩ := List.exists_cons_of_ne_nil notEmpty
              rw [isWritten] at whole noneInside
              obtain ⟨rfl, -⟩ := List.cons.inj whole
              exact absurd isFirst (by simp [noneInside])

theorem ofFlatMap
    (same : ∀ character, isInReference character = true → write character = [character])
    (outside : ∀ character, isInReference character = false → write character ≠ [] ∧
      ∀ written ∈ write character, isInReference written = false)
    (decodable : IsDecodable (raw.flatMap write)) : IsDecodable raw := by
  generalize bounded : raw.length = bound
  induction bound using Nat.strongRecOn generalizing raw with
  | _ bound inductionHypothesis =>
      cases raw with
      | nil => exact ⟨[], .done⟩
      | cons character raw =>
          rw [List.length_cons] at bounded
          rw [List.flatMap_cons] at decodable
          by_cases isReference : character = '&'
          · subst isReference
            rw [same '&' (by decide), List.singleton_append] at decodable
            obtain ⟨decoded, decodes⟩ := decodable
            generalize whole : raw.flatMap write = written at decodes
            cases decodes with
            | plain notReference => exact absurd rfl notReference
            | @reference name rest _ _ refers decodesRest =>
                have inReference : ∀ letter ∈ name ++ [';'], isInReference letter = true :=
                  List.forall_mem_append.2
                    ⟨lettersInReference refers, List.forall_mem_singleton.2 (by decide)⟩
                rw [List.append_cons] at whole
                obtain ⟨remaining, rfl, rfl⟩ := lettersOfWritten same outside inReference whole
                simp only [List.length_append] at bounded
                obtain ⟨decodedRest, decodesRemaining⟩ :=
                  inductionHypothesis _ (by omega) ⟨_, decodesRest⟩ rfl
                rw [List.append_assoc, List.singleton_append]
                exact ⟨_, .reference refers decodesRemaining⟩
          · have noReference : '&' ∉ write character := by
              cases isLetter : isInReference character with
              | true => simpa [same character isLetter] using Ne.symm isReference
              | false =>
                  exact fun isInside =>
                    absurd ((outside character isLetter).2 '&' isInside) (by decide)
            obtain ⟨decoded, decodes⟩ :=
              inductionHypothesis _ (by omega) (afterPlain noReference decodable) rfl
            exact ⟨_, .plain isReference decodes⟩

end

end IsDecodable

end Letterpress.Markup
