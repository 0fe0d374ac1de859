import Letterpress.Proofs.Bracket.Idempotence
import Letterpress.Proofs.Bracket.Part
import Letterpress.Proofs.Bracket.Spelling
import Letterpress.Proofs.Markup.Refilling
import Letterpress.Proofs.Report.WrittenCommand

/-!
This file shows what a value token in the text of a document means. The token is rewritten in its
spelling, and the document is prepared and read as one command.
-/

namespace Letterpress.Bracket

open Markup

/-- These brackets stand in the character data of a document. Nothing else in the document looks like
a token or a command, and the document is more than a row of a table. -/
structure IsPlace (front back : List Char) : Prop where
  plain : ∀ character ∈ front ++ back, isPlain character = true
  encoding : ∃ content,
    splitDeclaration? (dropMark (front ++ '[' :: ']' :: back)) = some (.utf8, content)
  data : ∃ before left right after,
    eventsOf? (String.ofList (front ++ '[' :: ']' :: back)) =
      some (before ++ .data (left ++ '[' :: ']' :: right) :: after)
  document : ∃ root, readDocument? (String.ofList (front ++ '[' :: ']' :: back)) = some root ∧
    Part.IsBare root ∧ Part.isOfKind .row root = false

/-- This text may stand in brackets as the body of a value token, and its command is one command. -/
structure IsTokenText (text : List Char) : Prop where
  legal : AllLegal text
  admitted : ∀ character ∈ text, isInBody character = true
  noBrace : Part.NoBrace text
  unmarked : text.head? ≠ some '#' ∧ text.head? ≠ some '/'
  notBlank : Text.stripList text ≠ []

/-! ### The rewritten token -/

section

variable {front back inside : List Char} {rules : AliasRules}

/-- Plain text is kept. -/
theorem rewritePlain {rest : List Char} (plain : ∀ character ∈ front, isPlain character = true)
    (stops : Text.StopsAt isPlain rest) (progress : Progress) :
    (rewritePieces rules progress (pieces (front ++ rest))).flatten =
      front ++ (rewritePieces rules progress (pieces rest)).flatten := by
  cases front with
  | nil => rfl
  | cons character front =>
      obtain ⟨isFirst, areRest⟩ := List.forall_mem_cons.1 plain
      rw [List.cons_append, piecesCons, firstPlain isFirst, Text.takeWhileOfStop areRest stops,
        Text.dropWhileOfStop areRest stops]
      rfl

theorem rewriteValue (plain : ∀ character ∈ front ++ back, isPlain character = true)
    (admitted : ∀ character ∈ inside, isInBody character = true)
    (isValue : splitMark inside = (.value, inside)) (notBlank : Text.stripList inside ≠ []) :
    (rewrite rules (String.ofList (front ++ '[' :: (inside ++ ']' :: back)))).content =
      String.ofList (front ++ '\x7b' ::
        ((toRootExpression (trimmedBody inside)).toList ++ '\x7d' :: back)) := by
  obtain ⟨plainFront, plainBack⟩ := List.forall_mem_append.1 plain
  have stopsToken : Text.StopsAt isPlain ('[' :: (inside ++ ']' :: back)) :=
    Text.stopsAtCons (by decide)
  have replaced : (Piece.token .value inside).isReplaced = true := by
    simpa [Piece.isReplaced] using notBlank
  have keptBack : (rewritePieces rules Progress.start (pieces back)).flatten = back := by
    have kept := @rewritePlain _ rules [] plainBack Text.stopsAtNil Progress.start
    rwa [List.append_nil, show pieces [] = [] from rfl, rewritePieces, List.flatten_nil,
      List.append_nil] at kept
  have isRewritten : rewritePiece rules Progress.start (.token .value inside) =
      (braced (toRootExpression (trimmedBody inside)), Progress.start) := if_pos replaced
  rw [rewrite, String.toList_ofList]
  dsimp only
  rw [rewritePlain plainFront stopsToken, piecesCons, firstToken admitted, isValue, rewritePieces,
    isRewritten]
  dsimp only
  rw [List.flatten_cons, keptBack]
  simp [braced]

end

/-! ### The text of the token -/

section

variable {left right spelled code : List Char}

/-- The command of a spelled token is decoded to the command that is held. -/
theorem commandExchanges {spelledCode : List Char} (replacement : IsReplacement spelled spelledCode)
    (legal : AllLegal spelled) (decodes : Decodes spelledCode code) :
    Exchanges ['[', ']'] ('\x7b' :: (code ++ ['\x7d'])) (left ++ '[' :: ']' :: right)
      (left ++ '\x7b' :: (spelledCode ++ '\x7d' :: right)) := by
  intro content decoded
  obtain ⟨noClosing, legalRaw, decodesRaw⟩ := decodeDataSomeIff.1 decoded
  obtain ⟨first, rest, decodesFirst, decodesRest, rfl⟩ := decodesRaw.split (by decide)
  obtain ⟨second, rfl, decodesSecond⟩ := decodesRest.tailOfPlain (by decide)
  have noneInParts := closingPasses.parts
    (show ¬ verbatimClosing <:+: left ++ ('[' :: ([] ++ ']' :: right)) from noClosing)
  have legalParts := legalPasses.parts (show AllLegal (left ++ ('[' :: ([] ++ ']' :: right))) from legalRaw)
  have decodesBack : Decodes ('\x7d' :: right) ('\x7d' :: second) := .plain (by decide) decodesSecond
  have decodesCommand := decodesFirst.append (.plain (show '\x7b' ≠ '&' by decide)
    (decodes.append decodesBack))
  refine ⟨first, second, rfl, ?_⟩
  rw [List.cons_append, List.append_assoc, List.singleton_append, decodeDataSomeIff]
  exact ⟨closingPasses.join noneInParts.1 (noClosingInCode replacement) noneInParts.2.2,
    legalPasses.join legalParts.1 (legalPasses.code replacement legal) legalParts.2.2, decodesCommand⟩

/-- A document that is bare around the brackets holds the command in their place. -/
theorem holdsOfRefills {root other : Node} (bare : Part.IsBare root)
    (refills : root.Refills ['[', ']'] ('\x7b' :: (code ++ ['\x7d'])) other) :
    Part.Holds (Part.HasCommand code) other := by
  induction refills with
  | text first second =>
      cases bare with
      | text noBrace =>
          simp only [Part.NoBrace, List.forall_mem_append] at noBrace
          exact .text ⟨_, _, noBrace.1, noBrace.2.2, by simp⟩
  | element _ inductionHypothesis =>
      cases bare with
      | element areBare =>
          obtain ⟨bareFront, bareRest⟩ := List.forall_mem_append.1 areBare
          obtain ⟨bareNode, bareBack⟩ := List.forall_mem_cons.1 bareRest
          exact .element bareFront (inductionHypothesis bareNode) bareBack

end

/-! ### The document around the token -/

section

variable {front back code : List Char}

/-- What is kept at the beginning stands before the token. -/
theorem keptBefore {kept : List Char} {others : List Edit}
    (same : keepAll front ++ .replace [] code :: keepAll back = keepAll kept ++ others) :
    ∃ rest, front = kept ++ rest ∧ others = keepAll rest ++ .replace [] code :: keepAll back := by
  induction kept generalizing front with
  | nil => exact ⟨front, rfl, same.symm⟩
  | cons character kept inductionHypothesis =>
      cases front with
      | nil => exact nomatch (List.cons.inj same).1
      | cons first front =>
          obtain ⟨sameFirst, sameRest⟩ := List.cons.inj same
          obtain rfl := Edit.keep.inj sameFirst
          obtain ⟨rest, rfl, isRest⟩ := inductionHypothesis sameRest
          exact ⟨rest, rfl, isRest⟩

theorem originalOfPlace (front back code : List Char) :
    originalOf (keepAll front ++ .replace [] code :: keepAll back) = front ++ '[' :: ']' :: back := by
  rw [originalOfAppend, originalOfCons, originalOfKeep, originalOfKeep]
  rfl

theorem editedOfPlace (front back code : List Char) :
    editedOf (keepAll front ++ .replace [] code :: keepAll back) =
      front ++ '\x7b' :: (code ++ '\x7d' :: back) := by
  rw [editedOfAppend, editedOfCons, editedOfKeep, editedOfKeep]
  simp [Edit.edited]

/-- The content of a document has the token, for a declaration has no brackets. -/
theorem contentExchanged {encoding : Encoding} {content : List Char} (code : List Char)
    (split : splitDeclaration? (dropMark (front ++ '[' :: ']' :: back)) = some (encoding, content)) :
    ∃ skipped rest, front = skipped ++ rest ∧ content = rest ++ '[' :: ']' :: back ∧
      splitDeclaration? (dropMark (front ++ '\x7b' :: (code ++ '\x7d' :: back))) =
        some (encoding, rest ++ '\x7b' :: (code ++ '\x7d' :: back)) := by
  obtain ⟨mark, afterMark, whole, markOriginal, markEdited⟩ :=
    keptMark (keepAll front ++ .replace [] code :: keepAll back)
  rw [originalOfPlace] at markOriginal
  rw [editedOfPlace] at markEdited
  rw [markOriginal] at split
  rw [markEdited]
  obtain ⟨declaration, others, rfl, rfl, splitEdited⟩ := keptDeclaration split
  have isKept : keepAll front ++ .replace [] code :: keepAll back =
      keepAll (mark ++ declaration) ++ others := by
    rw [whole, keepAll, keepAll, keepAll, List.map_append, List.append_assoc]
  obtain ⟨rest, rfl, rfl⟩ := keptBefore isKept
  rw [originalOfPlace]
  rw [editedOfPlace rest] at splitEdited
  exact ⟨mark ++ declaration, rest, rfl, rfl, splitEdited⟩

/-- The content of a document in the usual encoding is read as it is. -/
theorem eventsOfContent {text content : List Char}
    (split : splitDeclaration? (dropMark text) = some (.utf8, content)) :
    eventsOf? (String.ofList text) = Event.ofContent? (normalizeLines content) := by
  have isBody : body? (dropMark text) = some content := bodyIff.2 ⟨.utf8, content, split, rfl⟩
  rw [eventsOf?, String.toList_ofList, isBody, Option.bind_some]

/-- The brackets may be exchanged for a command in the whole text of the document. -/
theorem placeExchanged (isPlace : IsPlace front back) (areData : '<' ∉ code) (noReturn : '\r' ∉ code) :
    ∃ before left right after,
      eventsOf? (String.ofList (front ++ '[' :: ']' :: back)) =
        some (before ++ .data (left ++ '[' :: ']' :: right) :: after) ∧
      eventsOf? (String.ofList (front ++ '\x7b' :: (code ++ '\x7d' :: back))) =
        some (before ++ .data (left ++ '\x7b' :: (code ++ '\x7d' :: right)) :: after) := by
  obtain ⟨before, left, right, after, events⟩ := isPlace.data
  obtain ⟨content, split⟩ := isPlace.encoding
  obtain ⟨skipped, rest, rfl, rfl, splitExchanged⟩ := contentExchanged code split
  have noBracket : '[' ∉ (skipped ++ rest) ++ back := fun isInside =>
    absurd (isPlace.plain '[' isInside) (by decide)
  simp only [List.mem_append, not_or] at noBracket
  have notInFront := normalizedAbsent (show '[' ≠ '\n' by decide) noBracket.1.2
  have notInBack := normalizedAbsent (show '[' ≠ '\n' by decide) noBracket.2
  have inside : normalizeLines ('[' :: ']' :: back) = '[' :: ']' :: normalizeLines back :=
    normalizeLinesFront (show '\r' ∉ ['[', ']'] by decide) back
  have insideCommand : normalizeLines ('\x7b' :: (code ++ '\x7d' :: back)) =
      ('\x7b' :: (code ++ ['\x7d'])) ++ normalizeLines back := by
    rw [← normalizeLinesFront (by simp [noReturn])]
    simp
  have dataInside : ∀ character ∈ '\x7b' :: (code ++ ['\x7d']), Event.isData character = true := by
    intro character isInside
    apply decide_eq_true
    rintro rfl
    simp [areData] at isInside
  have original := events
  rw [eventsOfContent split, normalizeLinesBefore (by decide), inside] at original
  refine ⟨before, left, right, after, events, ?_⟩
  rw [eventsOfContent splitExchanged, normalizeLinesBefore (by decide), insideCommand,
    eventsExchanged notInFront notInBack (List.cons_ne_nil _ _) dataInside original]
  simp

end

/-! ### The decoded expression -/

section

variable {body : String} {code : List Char}

/-- The decoded expression is a command as it is, and it is inserted. -/
theorem decodedHeld (notEmpty : body ≠ "") (decodes : Decodes (toRootExpression body).toList code)
    (noBrace : Part.NoBrace code) :
    Report.IsHeld code ∧ Report.Command.ofText (String.ofList code) = .insert (String.ofList code) := by
  obtain ⟨front, last, ends, isEnd⟩ := rootExpressionEnds notEmpty
  obtain ⟨segment, tail, whole, segmentNotEmpty, inSegment, isTail⟩ := toRootExpressionIsAccess notEmpty
  have noReference : '&' ∉ segment := fun isInside => absurd (inSegment '&' isInside) (by decide)
  have endOutside : Text.isBlank last = false ∧ last ≠ ';' := by
    rcases isEnd with isSegment | rfl
    · refine ⟨Text.segmentCharacterNotBlank isSegment, ?_⟩
      rintro rfl
      exact absurd isSegment (by decide)
    · decide
  rw [ends] at decodes
  obtain ⟨others, endsCode⟩ := decodes.last endOutside.2
  rw [← ends, whole] at decodes
  obtain ⟨decodedTail, rfl, decodesTail⟩ := decodes.restOfPlain noReference
  have beginsTail : ∀ first, decodedTail.head? = some first → first = '.' ∨ first = '[' := by
    intro first isFirst
    cases tail with
    | nil =>
        cases decodesTail
        exact nomatch isFirst
    | cons character tail =>
        have begins := isTail.begins character rfl
        have notReference : character ≠ '&' := by
          rintro rfl
          exact absurd begins (by decide)
        obtain ⟨_, rfl, -⟩ := decodesTail.tailOfPlain notReference
        exact Option.some.inj isFirst ▸ begins
  have stripped : Text.stripList (segment ++ decodedTail) = segment ++ decodedTail := by
    apply Text.stripListOfEnds
    · intro first isFirst
      rw [List.head?_append_of_ne_nil _ segmentNotEmpty] at isFirst
      exact Text.segmentCharacterNotBlank (inSegment first (List.mem_of_head? isFirst))
    · intro final isFinal
      rw [endsCode, List.getLast?_concat] at isFinal
      exact Option.some.inj isFinal ▸ endOutside.1
  refine ⟨⟨List.append_ne_nil_of_left_ne_nil segmentNotEmpty _, stripped, noBrace⟩, ?_⟩
  exact segmentKind String.toList_ofList segmentNotEmpty inSegment beginsTail

end

section

variable {front back text spelled : List Char}

theorem referenceInBody {character : Char} (inReference : isInReference character = true) :
    isLegal character = true ∧ isInBody character = true := by
  constructor
  · simp only [isInReference, Bool.or_eq_true, decide_eq_true_eq, or_assoc] at inReference
    rcases inReference with isLetter | rfl | rfl
    · exact (letterPlain isLetter).1.1
    · decide
    · decide
  · have differs (delimiter : Char) (outside : isInReference delimiter = false) :
        character ≠ delimiter := by
      rintro rfl
      simp [inReference] at outside
    simp [isInBody, differs ']' (by decide), differs '\r' (by decide), differs '\n' (by decide),
      differs '<' (by decide)]

/-- A spelled text stands in brackets as the body of a value token. -/
theorem IsTokenText.inBrackets (isText : IsTokenText text) (spells : Spells spelled text) :
    AllLegal spelled ∧ (∀ character ∈ spelled, isInBody character = true) ∧
      splitMark spelled = (.value, spelled) ∧ Text.stripList spelled ≠ [] := by
  refine ⟨fun character isInside => ?_, fun character isInside => ?_, ?_, fun isEmpty => ?_⟩
  · rcases spells.characters character isInside with isSpelled | inReference
    · exact isText.legal character isSpelled
    · exact (referenceInBody inReference).1
  · rcases spells.characters character isInside with isSpelled | inReference
    · exact isText.admitted character isSpelled
    · exact (referenceInBody inReference).2
  · obtain ⟨notOpening, notClosing⟩ := isText.unmarked
    cases spells with
    | done => rfl
    | reference => rfl
    | @plain first spelled text =>
        have notMark : first ≠ '#' ∧ first ≠ '/' := by simpa using And.intro notOpening notClosing
        simp [splitMark, notMark]
  · exact isText.notBlank (spells.strip.emptyIff.1 isEmpty)

/-- A command that is read back has no brace in it. -/
theorem noBraceInCommand {character : Char} (inCommand : isInCommand character = true) :
    Part.isBrace character = false := by
  simp only [isInCommand, Bool.and_eq_true, decide_eq_true_eq] at inCommand
  simp [Part.isBrace, inCommand.1]

/-- The expression of a spelled body is decoded to a command. -/
theorem codeOfSpelled (isText : IsTokenText text) (spells : Spells spelled text) :
    ∃ code, Decodes (toRootExpression (trimmedBody spelled)).toList code ∧ Part.NoBrace code := by
  have filler (character : Char) (isFill : isFiller character = true) :
      Part.isBrace character = false := noBraceInCommand (fillerInCommand isFill)
  have escape (character : Char) (isEscape : Text.isEscape character = true) :
      Part.isBrace character = false := noBraceInCommand (escapeInCommand isEscape)
  apply (decodedCarries filler escape (by decide) (by decide)).rootExpression
  rw [trimmedBody, String.toList_ofList]
  exact ⟨Text.stripList text, spells.strip.decodes, fun character isInside =>
    isText.noBrace character (Text.stripListSubset _ isInside)⟩

/-- The command stands in the document in place of the token, and nothing else does. -/
theorem commandInPlace (isPlace : IsPlace front back) {code spelledCode : List Char}
    (replacement : IsReplacement spelled spelledCode) (legal : AllLegal spelled)
    (decodes : Decodes spelledCode code) :
    ∃ root, readDocument? (String.ofList (front ++ '\x7b' :: (spelledCode ++ '\x7d' :: back))) =
      some root ∧ Part.Holds (Part.HasCommand code) root ∧ Part.isOfKind .row root = false := by
  have areData : '<' ∉ spelledCode := by
    intro isInside
    rcases replacement.characters '<' isInside with isToken | inert
    · exact absurd (replacement.admitted '<' isToken) (by decide)
    · exact absurd inert (by decide)
  obtain ⟨before, left, right, after, events, eventsExchanged⟩ :=
    placeExchanged isPlace areData (noReturnInToken replacement).2
  obtain ⟨root, read, bare, notRow⟩ := isPlace.document
  obtain ⟨found, isFound, built⟩ := readDocumentIff.1 read
  obtain rfl := Option.some.inj (isFound.symm.trans events)
  have notSpaces : (left ++ '[' :: ']' :: right).all isSpace = false := by
    simp [isSpace]
  obtain ⟨other, builtOther, refills⟩ :=
    documentRefills notSpaces (commandExchanges replacement legal decodes) built
  refine ⟨other, readDocumentIff.2 ⟨_, eventsExchanged, builtOther⟩, holdsOfRefills bare refills, ?_⟩
  cases refills with
  | text => rfl
  | element => exact notRow

/-- A value token in the text of a document becomes one command, which inserts what the expression of
the token is decoded to. -/
theorem tokenInserts (isPlace : IsPlace front back) (isText : IsTokenText text)
    (spells : Spells spelled text) :
    ∃ prepared items code,
      Report.preparePart
          (rewrite .standard (String.ofList (front ++ '[' :: (spelled ++ ']' :: back)))).content =
        .ok prepared ∧
      Report.itemsOf prepared = .ok items ∧ Report.shapesOf items = [.insert code] ∧
      Decodes (toRootExpression (trimmedBody spelled)).toList code.toList := by
  obtain ⟨legal, admitted, isValue, notBlank⟩ := isText.inBrackets spells
  obtain ⟨code, decodes, noBrace⟩ := codeOfSpelled isText spells
  have notEmpty : trimmedBody spelled ≠ "" := fun isEmpty =>
    notBlank (String.ofList_eq_empty_iff.1 isEmpty)
  obtain ⟨held, kind⟩ := decodedHeld notEmpty decodes noBrace
  have replacement : IsReplacement spelled (toRootExpression (trimmedBody spelled)).toList :=
    @commandReplaces .standard [] .value spelled standardFallbackIsName nofun admitted
      (.value (trimmedBody spelled)) rfl
  obtain ⟨root, read, holds, notRow⟩ := commandInPlace isPlace replacement legal decodes
  obtain ⟨prepared, items, isPrepared, areItems, shapes⟩ :=
    Report.preparedCommand read holds notRow held kind
  rw [rewriteValue isPlace.plain admitted isValue notBlank]
  exact ⟨prepared, items, String.ofList code, isPrepared, areItems, shapes, by rwa [String.toList_ofList]⟩

/-- A value token in the text of a document becomes one command, which inserts what the expression of
the token is decoded to. This is the expression of the text exactly if each of its quotes is spelled as
it is. -/
theorem spelledTokenInserts (isPlace : IsPlace front back) (isText : IsTokenText text)
    (spells : Spells spelled text) :
    ∃ prepared items code,
      Report.preparePart
          (rewrite .standard (String.ofList (front ++ '[' :: (spelled ++ ']' :: back)))).content =
        .ok prepared ∧
      Report.itemsOf prepared = .ok items ∧ Report.shapesOf items = [.insert code] ∧
      Decodes (toRootExpression (trimmedBody spelled)).toList code.toList ∧
      (code = toRootExpression (trimmedBody text) ↔ spelled.count '"' = text.count '"') := by
  obtain ⟨prepared, items, code, isPrepared, areItems, shapes, decodes⟩ :=
    tokenInserts isPlace isText spells
  refine ⟨prepared, items, code, isPrepared, areItems, shapes, decodes, ?_⟩
  have condenses := spells.strip.rootExpression
  rw [quotesOfStripped, quotesOfStripped] at condenses
  rw [← String.toList_inj]
  exact condenses.sameIff decodes

end

/-! ### The text of a run -/

/-- This is a run before its text. -/
def runOpening : List Char := "<w:t xmlns:w=\"".toList ++ Part.wordAddress ++ "\">".toList

def runClosing : List Char := "</w:t>".toList

theorem runEvents : eventsOf? (String.ofList (runOpening ++ '[' :: ']' :: runClosing)) =
    some [.opening ⟨⟨['w'], ['t']⟩, [⟨⟨"xmlns".toList, ['w']⟩, Part.wordAddress⟩]⟩, .data ['[', ']'],
      .closing ⟨['w'], ['t']⟩] := by
  decide +kernel

theorem runIsPlace : IsPlace runOpening runClosing where
  plain := List.all_eq_true.1 (by decide +kernel)
  encoding := ⟨runOpening ++ '[' :: ']' :: runClosing, by decide +kernel⟩
  data := ⟨[_], [], [], [_], runEvents⟩
  document := by
    have bare : Part.IsBare (.text ['[', ']']) := .text (by decide)
    refine ⟨.element ⟨⟨['w'], ['t']⟩, Part.wordAddress, [(['w'], Part.wordAddress)], []⟩
      [.text ['[', ']']], readDocumentIff.2 ⟨_, runEvents, rfl⟩, ?_, by decide +kernel⟩
    exact .element (List.forall_mem_singleton.2 bare)

/-- A sign that is spelled as its entity is inserted like the sign itself. -/
theorem spelledSignIsInserted :
    IsPlace runOpening runClosing ∧ IsTokenText "a>b".toList ∧ Spells "a&gt;b".toList "a>b".toList ∧
      ∃ prepared items,
        Report.preparePart
            (rewrite .standard (String.ofList (runOpening ++ "[a&gt;b]".toList ++ runClosing))).content =
          .ok prepared ∧
        Report.itemsOf prepared = .ok items ∧ Report.shapesOf items = [.insert "this[\"a>b\"]"] := by
  have isText : IsTokenText "a>b".toList :=
    ⟨by decide, List.all_eq_true.1 (by decide), by decide, by decide, by decide⟩
  have spells : Spells "a&gt;b".toList "a>b".toList :=
    .plain (by decide) (@Spells.reference "gt".toList _ _ _ (by decide) (by decide)
      (.plain (by decide) .done))
  obtain ⟨prepared, items, code, isPrepared, areItems, shapes, -, isExpression⟩ :=
    spelledTokenInserts runIsPlace isText spells
  obtain rfl : code = "this[\"a>b\"]" := (isExpression.2 (by decide)).trans (by decide +kernel)
  exact ⟨runIsPlace, isText, spells, prepared, items, isPrepared, areItems, shapes⟩

/-- A quote that is spelled as its entity is inserted as another command than the quote itself, and
the command is no program: the expression has been quoted before the entity is decoded. -/
theorem spelledQuoteSpoilsCommand :
    (∃ prepared items,
      Report.preparePart
          (rewrite .standard (String.ofList (runOpening ++ "[a\"b]".toList ++ runClosing))).content =
        .ok prepared ∧
      Report.itemsOf prepared = .ok items ∧ Report.shapesOf items = [.insert "this[\"a\\\"b\"]"]) ∧
    (∃ prepared items,
      Report.preparePart
          (rewrite .standard (String.ofList (runOpening ++ "[a&quot;b]".toList ++ runClosing))).content =
        .ok prepared ∧
      Report.itemsOf prepared = .ok items ∧ Report.shapesOf items = [.insert "this[\"a\"b\"]"]) ∧
    (Script.parse "this[\"a\\\"b\"]").isOk = true ∧ (Script.parse "this[\"a\"b\"]").isOk = false := by
  have isText : IsTokenText "a\"b".toList :=
    ⟨by decide, List.all_eq_true.1 (by decide), by decide, by decide, by decide⟩
  have literal : Spells "a\"b".toList "a\"b".toList :=
    .plain (by decide) (.plain (by decide) (.plain (by decide) .done))
  have entity : Spells "a&quot;b".toList "a\"b".toList :=
    .plain (by decide) (@Spells.reference "quot".toList _ _ _ (by decide) (by decide)
      (.plain (by decide) .done))
  obtain ⟨prepared, items, code, isPrepared, areItems, shapes, decodes⟩ :=
    tokenInserts runIsPlace isText literal
  obtain ⟨other, otherItems, spoilt, isOther, areOthers, otherShapes, decodesOther⟩ :=
    tokenInserts runIsPlace isText entity
  obtain rfl : code = "this[\"a\\\"b\"]" :=
    String.toList_inj.1 (decodes.unique (decodeReferencesIff.1 (by decide +kernel)))
  obtain rfl : spoilt = "this[\"a\"b\"]" :=
    String.toList_inj.1 (decodesOther.unique (decodeReferencesIff.1 (by decide +kernel)))
  exact ⟨⟨prepared, items, isPrepared, areItems, shapes⟩,
    ⟨other, otherItems, isOther, areOthers, otherShapes⟩, by decide +kernel, by decide +kernel⟩

end Letterpress.Bracket
