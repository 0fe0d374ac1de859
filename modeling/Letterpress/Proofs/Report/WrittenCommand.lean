import Letterpress.Proofs.Markup.Written
import Letterpress.Proofs.Part.Structural
import Letterpress.Proofs.Report.Interspersed
import Letterpress.Report.Rendering

/-!
This file reads the commands of a document that was written. Its references are decoded to what was
written, and a document without other braces has no other commands.
-/

namespace Letterpress.Text.CharacterReference

open Markup (escapeText)

/-! ### References that were written -/

/-- The characters of a reference are passed. -/
theorem decodePassed (front rest : List Char) :
    decodeFrom front.length (front ++ rest) = decodeFrom 0 rest := by
  induction front with
  | nil => rfl
  | cons character front inductionHypothesis => exact inductionHypothesis

/-- A reference is decoded to its meaning, whatever follows it. -/
theorem decodeReference {name rest meaning decoded : List Char}
    (reads : read (name ++ rest) = .ok (meaning, name.length)) (decodes : decode rest = .ok decoded) :
    decode ('&' :: (name ++ rest)) = .ok (meaning ++ decoded) := by
  rw [decode] at decodes ⊢
  rw [decodeFrom, if_pos rfl, reads]
  change Except.bind (decodeFrom name.length (name ++ rest)) _ = _
  rw [decodePassed, decodes]
  rfl

theorem decodeCharacter {character : Char} {rest decoded : List Char} (notReference : character ≠ '&')
    (decodes : decode rest = .ok decoded) :
    decode (character :: rest) = .ok (character :: decoded) := by
  rw [decode] at decodes ⊢
  rw [decodeFrom, if_neg notReference, decodes]
  rfl

/-- A name that ends with a semicolon is read whatever follows it. -/
theorem readNamed {name rest : List Char} (notEmpty : name ≠ [])
    (areNames : ∀ character ∈ name, isNameCharacter character = true)
    (short : name.length < longestName) :
    read (name ++ ';' :: rest) = .ok (ofName (name ++ [';']), name.length + 1) := by
  have taken : ((name ++ ';' :: rest).take longestName).takeWhile isNameCharacter = name := by
    obtain ⟨left, isLeft⟩ := Nat.exists_eq_add_of_lt short
    have cut : (name ++ ';' :: rest).take longestName = name ++ ';' :: rest.take left := by
      rw [isLeft, Nat.add_assoc, List.take_length_add_append]
      rfl
    rw [cut, List.takeWhile_append_of_pos areNames, List.takeWhile_cons_of_neg (by decide),
      List.append_nil]
  have notNumber : ∀ mark others, name ++ ';' :: rest ≠ '#' :: mark :: others := by
    intro mark others same
    obtain ⟨first, more, rfl⟩ := List.exists_cons_of_ne_nil notEmpty
    obtain rfl := (List.cons.inj same).1
    exact absurd (areNames '#' (List.mem_cons_self ..)) (by decide)
  unfold read
  split
  case h_1 mark others same => exact absurd same (notNumber mark others)
  case h_2 =>
    simp only [taken, List.isEmpty_iff, notEmpty, if_false, List.drop_left, List.head?_cons, if_true,
      List.length_append, List.length_singleton]

theorem readReturn (rest : List Char) : read ("#13;".toList ++ rest) = .ok (['\r'], 4) := by
  have digits : ('1' :: '3' :: ';' :: rest).takeWhile Char.isDigit = ['1', '3'] := by
    simp [Char.isDigit]
  have code : ofCode (readDecimal ['1', '3']) = ['\r'] := by decide
  have passed : rest.length + 1 + 1 + 1 + 1 - rest.length = 4 := by omega
  change read ('#' :: '1' :: '3' :: ';' :: rest) = _
  rw [read, if_neg (by decide)]
  simp only [digits, code, List.drop, List.length_cons, dropSemicolon]
  rw [if_neg (by decide), if_neg (by decide)]
  exact congrArg (fun length => Except.ok (['\r'], length)) passed

/-- A character is written as it is or as a reference that is read back. -/
theorem escapeTextReads (character : Char) (rest : List Char) :
    (escapeText character = [character] ∧ character ≠ '&') ∨
      ∃ name, escapeText character = '&' :: name ∧
        read (name ++ rest) = .ok ([character], name.length) := by
  have named {name : List Char} (notEmpty : name ≠ [])
      (areNames : name.all isNameCharacter = true) (short : name.length < longestName) :
      read (name ++ [';'] ++ rest) = .ok (ofName (name ++ [';']), (name ++ [';']).length) := by
    rw [List.append_assoc, List.length_append]
    exact readNamed notEmpty (List.all_eq_true.1 areNames) short
  unfold escapeText
  split
  case h_1 =>
    exact .inr ⟨"amp".toList ++ [';'], rfl, named (by decide) (by decide) (by decide)⟩
  case h_2 =>
    exact .inr ⟨"lt".toList ++ [';'], rfl, named (by decide) (by decide) (by decide)⟩
  case h_3 =>
    exact .inr ⟨"gt".toList ++ [';'], rfl, named (by decide) (by decide) (by decide)⟩
  case h_4 => exact .inr ⟨"#13;".toList, rfl, readReturn rest⟩
  case h_5 notReference _ _ _ => exact .inl ⟨rfl, notReference⟩

/-- What was written as a text is decoded to the text. -/
theorem decodeWritten (text : List Char) : decode (text.flatMap escapeText) = .ok text := by
  induction text with
  | nil => rfl
  | cons character text inductionHypothesis =>
      rw [List.flatMap_cons]
      rcases escapeTextReads character (text.flatMap escapeText) with
        ⟨same, notReference⟩ | ⟨name, same, reads⟩
      · rw [same]
        exact decodeCharacter notReference inductionHypothesis
      · rw [same]
        exact decodeReference reads inductionHypothesis

end Letterpress.Text.CharacterReference

namespace Letterpress.Report

open Markup
open Letterpress.Part (NoBrace IsBare)

/-! ### Written nodes -/

section

variable {content rest text : List Char} {commands : List String} {outer : Declarations} {node : Node}

/-- A written character of a text opens no tag, and it is a brace only if the text has that brace. -/
theorem writtenFromText {character : Char} (isWritten : character ∈ text.flatMap escapeText) :
    character ≠ '<' ∧ (character ∈ text ∨ isInReference character = true) := by
  obtain ⟨source, isInside, isWritten⟩ := List.mem_flatMap.1 isWritten
  rcases escapeTextWrites source with ⟨same, notTag, -⟩ | ⟨name, same, refers⟩
  · rw [same, List.mem_singleton] at isWritten
    exact isWritten ▸ ⟨notTag, .inl isInside⟩
  · have inReference : isInReference character = true := by
      simp only [same, List.mem_cons, List.mem_append, List.not_mem_nil, or_false] at isWritten
      rcases isWritten with rfl | isLetter | rfl
      · decide
      · exact IsDecodable.lettersInReference refers character isLetter
      · decide
    refine ⟨?_, .inr inReference⟩
    rintro rfl
    exact nomatch inReference

theorem writtenNoBrace (bare : NoBrace text) : NoBrace (text.flatMap escapeText) := by
  intro character isWritten
  rcases (writtenFromText isWritten).2 with isInside | inReference
  · exact bare character isInside
  · unfold Part.isBrace
    rw [Bool.or_eq_false_iff, decide_eq_false_iff_not, decide_eq_false_iff_not]
    constructor <;> rintro rfl <;> exact nomatch inReference

namespace CutsOutside

/-- Text in which no tag and no brace opens has no command. -/
theorem front (noOpening : '\x7b' ∉ text) (noTag : '<' ∉ text) (cuts : CutsOutside rest commands) :
    CutsOutside (text ++ rest) commands := by
  induction text with
  | nil => exact cuts
  | cons character text inductionHypothesis =>
      rw [List.mem_cons, not_or] at noOpening noTag
      exact plain (Ne.symm noTag.1) (Ne.symm noOpening.1) (inductionHypothesis noOpening.2 noTag.2)

theorem written (noOpening : '\x7b' ∉ content) (cuts : CutsOutside rest commands) :
    CutsOutside (content.flatMap escapeText ++ rest) commands := by
  refine cuts.front (fun isWritten => ?_) fun isWritten => (writtenFromText isWritten).1 rfl
  rcases (writtenFromText isWritten).2 with isInside | inReference
  · exact noOpening isInside
  · exact nomatch inReference

/-- Text without braces ends outside of tags with the character that closes them. -/
theorem closed (bare : NoBrace text) (cuts : CutsOutside rest commands) (isInTag : Bool) :
    CutsWithin isInTag (text ++ '>' :: rest) commands := by
  induction text generalizing isInTag with
  | nil =>
      cases isInTag with
      | false => exact cuts.plain (by decide) (by decide)
      | true => exact ⟨[], rest, rfl, nofun, cuts⟩
  | cons character text inductionHypothesis =>
      have bareRest : NoBrace text := fun other isInside => bare other (List.mem_cons_of_mem _ isInside)
      have notBrace := bare character (List.mem_cons_self ..)
      cases isInTag with
      | false =>
          by_cases opens : character = '<'
          · obtain ⟨inside, after, same, noClosing, cutsAfter⟩ := inductionHypothesis bareRest true
            rw [opens, List.cons_append, same]
            exact tag noClosing cutsAfter
          · apply plain opens _ (inductionHypothesis bareRest false)
            rintro rfl
            exact nomatch notBrace
      | true =>
          by_cases closes : character = '>'
          · exact ⟨[], _, by rw [closes]; rfl, nofun, inductionHypothesis bareRest false⟩
          · obtain ⟨inside, after, same, noClosing, cutsAfter⟩ := inductionHypothesis bareRest true
            refine ⟨character :: inside, after, ?_, List.forall_mem_cons.2 ⟨closes, noClosing⟩, cutsAfter⟩
            rw [List.cons_append, same, List.cons_append]

end CutsOutside

theorem valueNoClosing (value : List Char) : '>' ∉ value.flatMap escapeValue := by
  intro isWritten
  obtain ⟨character, -, isWritten⟩ := List.mem_flatMap.1 isWritten
  unfold escapeValue at isWritten
  split at isWritten
  case h_1 => exact absurd isWritten (by decide)
  case h_2 => exact absurd isWritten (by decide)
  case h_3 => exact absurd isWritten (by decide)
  case h_4 =>
    rcases escapeTextWrites character with ⟨same, -, notClosing, -⟩ | ⟨name, same, refers⟩
    · rw [same, List.mem_singleton] at isWritten
      exact notClosing isWritten.symm
    · have notInName : '>' ∉ name := fun isInside =>
        absurd (referencedLetters refers '>' isInside) (by decide)
      simp [same, notInName] at isWritten

/-- The character that closes tags stands in none of them. -/
theorem headingNoClosing {heading : Heading} (sound : heading.IsSound outer) :
    '>' ∉ heading.inside := by
  rw [insideOfTag, List.mem_append, not_or]
  constructor
  · exact nameAbsent sound.name (by decide)
  · intro isWritten
    obtain ⟨found, isFound, isWritten⟩ := List.mem_flatMap.1 isWritten
    have notInName : '>' ∉ found.name.characters :=
      nameAbsent (sound.attributes found isFound).1 (by decide)
    apply valueNoClosing found.value
    simpa [writeAttribute, writeAssigned, notInName] using isWritten

namespace CutsOutside

theorem element {heading : Heading} {children : List Node} {more : List String}
    (sound : heading.IsSound outer) (cuts : CutsOutside rest commands)
    (inside : ∀ {rest}, CutsOutside rest commands → CutsOutside (Node.writeAll children ++ rest) more)
    (ofEmpty : children = [] → more = commands) :
    CutsOutside (Node.write (.element heading children) ++ rest) more := by
  have noClosing {text : List Char} (absent : '>' ∉ text) : ∀ character ∈ text, character ≠ '>' :=
    fun character isInside same => absent (same ▸ isInside)
  rw [Node.write]
  split
  case isTrue isEmpty =>
    obtain rfl := ofEmpty (List.isEmpty_iff.1 isEmpty)
    have noneInTag : '>' ∉ heading.inside ++ ['/'] := by simp [headingNoClosing sound]
    simpa using tag (noClosing noneInTag) cuts
  case isFalse =>
    have noneInName : '>' ∉ '/' :: heading.name.characters := by
      simp [nameAbsent sound.name (show continuesName '>' = false by decide)]
    have closing := tag (noClosing noneInName) cuts
    simpa using tag (noClosing (headingNoClosing sound)) (inside closing)

theorem nodes {nodes : List Node} (cuts : CutsOutside rest commands)
    (each : ∀ node ∈ nodes, ∀ {rest}, CutsOutside rest commands →
      CutsOutside (node.write ++ rest) commands) :
    CutsOutside (Node.writeAll nodes ++ rest) commands := by
  induction nodes with
  | nil => exact cuts
  | cons node others inductionHypothesis =>
      obtain ⟨ofNode, ofOthers⟩ := List.forall_mem_cons.1 each
      rw [Node.writeAll, List.append_assoc]
      exact ofNode (inductionHypothesis ofOthers)

/-- A bare node has no command. -/
theorem bare (isBare : IsBare node) (sound : node.IsSound outer) (cuts : CutsOutside rest commands) :
    CutsOutside (node.write ++ rest) commands := by
  induction isBare generalizing outer rest with
  | element _ inductionHypothesis =>
      cases sound with
      | element isHeading areChildren =>
          apply element isHeading cuts _ (fun _ => rfl)
          intro rest cuts
          exact cuts.nodes fun child isChild _ =>
            inductionHypothesis child isChild (areChildren child isChild)
  | text noBrace => exact cuts.written (Part.noOpening noBrace)
  | @comment content noBrace =>
      have noBraceAround : NoBrace ("<!--".toList ++ content ++ ['-', '-']) := by
        have noneBefore : NoBrace "<!--".toList := by simp [NoBrace, Part.isBrace]
        have noneAfter : NoBrace ['-', '-'] := by simp [NoBrace, Part.isBrace]
        exact Part.noBraceAppend.2 ⟨Part.noBraceAppend.2 ⟨noneBefore, noBrace⟩, noneAfter⟩
      have isClosed : CutsOutside _ commands := closed noBraceAround cuts false
      simpa [Node.write] using isClosed
  | @instruction target content noBraceTarget noBrace =>
      have noBraceAround : NoBrace
          ("<?".toList ++ target ++ (if content.isEmpty then [] else ' ' :: content) ++ ['?']) := by
        have noneBefore : NoBrace "<?".toList := by simp [NoBrace, Part.isBrace]
        have noneAfter : NoBrace ['?'] := by simp [NoBrace, Part.isBrace]
        have noneInside : NoBrace (if content.isEmpty then [] else ' ' :: content) := by
          split
          · exact Part.noBraceNil
          · exact List.forall_mem_cons.2 ⟨by decide, noBrace⟩
        exact Part.noBraceAppend.2 ⟨Part.noBraceAppend.2
          ⟨Part.noBraceAppend.2 ⟨noneBefore, noBraceTarget⟩, noneInside⟩, noneAfter⟩
      have isClosed : CutsOutside _ commands := closed noBraceAround cuts false
      simpa [Node.write] using isClosed

theorem bareNodes {nodes : List Node} (areBare : ∀ node ∈ nodes, IsBare node)
    (sound : ∀ node ∈ nodes, node.IsSound outer) (cuts : CutsOutside rest commands) :
    CutsOutside (Node.writeAll nodes ++ rest) commands :=
  cuts.nodes fun node isNode _ => bare (areBare node isNode) (sound node isNode)

end CutsOutside

/-- A held command stands between braces as it is. -/
structure IsHeld (code : List Char) : Prop where
  notEmpty : code ≠ []
  stripped : Text.stripList code = code
  noBrace : NoBrace code

/-- A text with one command is written so that the command is read back, without the blanks around
it. -/
theorem CutsOutside.enclosed {left code right : List Char} (bareLeft : NoBrace left)
    (bare : NoBrace code) (bareRight : NoBrace right) (notEmpty : Text.stripList code ≠ [])
    (cuts : CutsOutside rest commands) :
    CutsOutside ((left ++ '\x7b' :: (code ++ '\x7d' :: right)).flatMap escapeText ++ rest)
      (String.ofList (Text.stripList code) :: commands) := by
  have admitted : ∀ character ∈ code.flatMap escapeText,
      character ≠ '<' ∧ character ≠ '\x7b' ∧ character ≠ '\x7d' := by
    intro character isWritten
    have notBrace := writtenNoBrace bare character isWritten
    simp only [Part.isBrace, Bool.or_eq_false_iff, decide_eq_false_iff_not] at notBrace
    exact ⟨(writtenFromText isWritten).1, notBrace⟩
  have decodes : Fragment.decode (code.flatMap escapeText) =
      .ok (String.ofList (Text.stripList code)) := by
    rw [Fragment.decode, Text.CharacterReference.decodeWritten]
    rfl
  have isCommand : String.ofList (Text.stripList code) ≠ "" := fun same =>
    notEmpty (String.ofList_eq_empty_iff.1 same)
  have isDecoded := (cuts.written (Part.noOpening bareRight)).decoded admitted decodes isCommand
  have isWritten := isDecoded.written (Part.noOpening bareLeft)
  simpa [escapeText, Text.Delimited.wrap, commandPattern] using isWritten

/-! ### Texts with all the commands -/

/-- A text is written so that commands are read back, whatever follows it. No command is left open. -/
structure IsReadAs (commands : List String) (text : List Char) : Prop where
  settled : Part.leavesOpen text = false
  cuts : ∀ {rest : List Char} {more : List String}, CutsOutside rest more →
    CutsOutside (text.flatMap escapeText ++ rest) (commands ++ more)

theorem readAsCommand {left code right : List Char} (bareLeft : NoBrace left) (bare : NoBrace code)
    (bareRight : NoBrace right) (notEmpty : Text.stripList code ≠ []) :
    IsReadAs [String.ofList (Text.stripList code)] (left ++ '\x7b' :: (code ++ '\x7d' :: right)) :=
  ⟨Part.leavesOpenCommand bareLeft bareRight, fun cuts => cuts.enclosed bareLeft bare bareRight notEmpty⟩

theorem readAsPlain (noOpening : '\x7b' ∉ text) : IsReadAs [] text :=
  ⟨Part.leavesOpenPlain noOpening, fun cuts => cuts.written noOpening⟩

theorem IsReadAs.append {others : List String} (isRead : IsReadAs commands text)
    (isReadRest : IsReadAs others rest) : IsReadAs (commands ++ others) (text ++ rest) := by
  refine ⟨Part.leavesOpenAppend isRead.settled isReadRest.settled, fun cuts => ?_⟩
  rw [List.flatMap_append, List.append_assoc, List.append_assoc]
  exact isRead.cuts (isReadRest.cuts cuts)

theorem IsReadAs.unique {others : List String} (isRead : IsReadAs commands text)
    (isReadToo : IsReadAs others text) : commands = others := by
  have same := (isRead.cuts .empty).lexemes.symm.trans (isReadToo.cuts .empty).lexemes
  rw [List.append_nil, List.append_nil] at same
  exact List.map_injective_iff.2 (fun _ _ => Except.ok.inj) same

/-- A text that collapses has one command, and stripping keeps it. -/
theorem IsReadAs.stripped (isRead : IsReadAs commands text) (structural : Part.isStructural text = true) :
    IsReadAs commands (Text.stripList text) := by
  obtain ⟨front, inside, back, rfl, blankFront, blankBack, bare, starts⟩ :=
    Part.structuralIff.1 structural
  have notEmpty : Text.stripList inside ≠ [] := Part.structuralNotEmpty starts
  have readWhole := readAsCommand (Part.blanksNoBrace blankFront) bare (Part.blanksNoBrace blankBack)
    notEmpty
  rw [Part.stripAround blankFront blankBack, isRead.unique readWhole]
  exact readAsCommand Part.noBraceNil bare Part.noBraceNil notEmpty

theorem readAsLasts (commands : List String) : Part.Lasts (IsReadAs commands) where
  settled := IsReadAs.settled
  after bare isRead := (readAsPlain (Part.noOpening bare)).append isRead
  before isRead bare := by simpa using isRead.append (readAsPlain (Part.noOpening bare))
  strip isRead structural := isRead.stripped structural

theorem Embeddable.noBrace {raw : String} (embeddable : Embeddable raw) : NoBrace raw.toList := by
  intro character isInside
  obtain ⟨-, notOpening, notClosing, -⟩ := harmlessIff.1 (embeddable.harmless character isInside)
  simp [Part.isBrace, notOpening, notClosing]

theorem Embeddable.isReadAs {raw : String} (embeddable : Embeddable raw) :
    IsReadAs [raw] (commandPattern.wrap raw.toList) := by
  have stripped : Text.stripList raw.toList = raw.toList :=
    Text.stripListOfEnds embeddable.first embeddable.last
  have notEmpty : Text.stripList raw.toList ≠ [] := by
    rw [stripped]
    exact fun isEmpty => embeddable.notEmpty (String.toList_eq_nil_iff.1 isEmpty)
  have isRead := readAsCommand Part.noBraceNil embeddable.noBrace Part.noBraceNil notEmpty
  rwa [stripped, String.ofList_toList] at isRead

/-- A text without tags that is interspersed with commands is read as these. -/
theorem Interspersed.isReadAs (interspersed : Interspersed false text commands) (noTag : '<' ∉ text) :
    IsReadAs commands text := by
  generalize outside : false = isInTag at interspersed
  induction interspersed with
  | done => exact readAsPlain List.not_mem_nil
  | opening => exact absurd (List.mem_cons_self ..) noTag
  | inside => exact nomatch outside
  | closing => exact nomatch outside
  | @plain character _ _ _ noBrace _ inductionHypothesis =>
      have isPlain : IsReadAs [] [character] := readAsPlain (by simpa using Ne.symm noBrace)
      exact isPlain.append (inductionHypothesis (fun isInside => noTag (List.mem_cons_of_mem _ isInside))
        outside)
  | @command rest raw _ embeddable _ inductionHypothesis =>
      exact embeddable.isReadAs.append
        (inductionHypothesis (fun isInside => noTag (List.mem_append_right _ isInside)) outside)

/-- A node that holds a text has the commands of the text and no other ones. -/
theorem CutsOutside.held {more : List String} (holds : Part.Holds (IsReadAs commands) node)
    (sound : node.IsSound outer) (cuts : CutsOutside rest more) :
    CutsOutside (node.write ++ rest) (commands ++ more) := by
  induction holds generalizing outer rest with
  | text isRead => exact isRead.cuts cuts
  | @element heading front back child bareFront _ bareBack inductionHypothesis =>
      cases sound with
      | element isHeading areChildren =>
          apply element isHeading cuts
          · intro rest cuts
            obtain ⟨frontSound, childrenSound⟩ := List.forall_mem_append.1 areChildren
            obtain ⟨childSound, backSound⟩ := List.forall_mem_cons.1 childrenSound
            have afterChild := cuts.bareNodes bareBack backSound
            have atChild := inductionHypothesis childSound afterChild
            have whole := atChild.bareNodes bareFront frontSound
            rw [writeAllFlatMap, List.flatMap_append, List.flatMap_cons, ← writeAllFlatMap,
              ← writeAllFlatMap, List.append_assoc, List.append_assoc]
            exact whole
          · simp

/-! ### Prepared parts -/

/-- A part whose commands are in one text is prepared, and the commands are read back. -/
theorem preparedCommands {part : String} {root : Node} (read : readDocument? part = some root)
    (holds : Part.Holds (IsReadAs commands) root) (notRow : Part.isOfKind .row root = false) :
    ∃ prepared, preparePart part = .ok prepared ∧
      (Lexeme.ofMarkup prepared).filterMap Lexeme.command? = commands.map .ok := by
  obtain ⟨prepared, collapses, holdsPrepared⟩ := Part.preparedHolds (readAsLasts commands) holds notRow
  obtain ⟨isElement, sound⟩ := documentSound read
  obtain ⟨isElementGathered, soundGathered⟩ := Part.gatheredSound isElement sound
  obtain ⟨-, soundPrepared⟩ := Part.collapsedSound collapses isElementGathered soundGathered
  have cuts : CutsOutside (writeDocument prepared) commands := by
    have cutsRoot := CutsOutside.empty.held holdsPrepared soundPrepared
    have noClosing : ∀ character ∈ "?xml version='1.0' encoding='UTF-8' standalone='yes'?".toList,
        character ≠ '>' := by
      intro character isInside
      exact ne_of_mem_of_not_mem isInside (by decide)
    rw [List.append_nil, List.append_nil] at cutsRoot
    exact CutsOutside.tag noClosing (cutsRoot.plain (by decide) (by decide))
  refine ⟨writeDocument prepared, ?_, cuts.lexemes⟩
  simp only [preparePart, read, collapses]

/-- The only command of a part is inserted as it is. -/
theorem preparedCommand {part : String} {root : Node} {code : List Char}
    (read : readDocument? part = some root) (holds : Part.Holds (Part.HasCommand code) root)
    (notRow : Part.isOfKind .row root = false) (held : IsHeld code)
    (kind : Command.ofText (String.ofList code) = .insert (String.ofList code)) :
    ∃ prepared items, preparePart part = .ok prepared ∧ itemsOf prepared = .ok items ∧
      shapesOf items = [.insert (String.ofList code)] := by
  have isRead (text : List Char) (has : Part.HasCommand code text) :
      IsReadAs [String.ofList code] text := by
    obtain ⟨left, right, bareLeft, bareRight, rfl⟩ := has
    have notEmpty : Text.stripList code ≠ [] := held.stripped.symm ▸ held.notEmpty
    have enclosed := readAsCommand bareLeft held.noBrace bareRight notEmpty
    rwa [held.stripped] at enclosed
  obtain ⟨prepared, isPrepared, commands⟩ := preparedCommands read (holds.imp isRead) notRow
  have parses : Parses [.ok (String.ofList code)] [.insert (String.ofList code)] :=
    .insert .empty kind
  obtain ⟨items, derives, shapes⟩ := parses.derives _ commands
  exact ⟨prepared, items, isPrepared, (itemsOfIff _ _).2 derives, shapes⟩

end

end Letterpress.Report
