import Letterpress.Proofs.Bracket.Token
import Letterpress.Proofs.Markup.Reference

/-!
This file writes a rewriting as a script of edits. The script keeps characters and puts commands in
the place of tokens.
-/

namespace Letterpress.Bracket

open Markup (Decodes IsDecodable isInReference)

/-- An edit keeps a character, or it replaces a token by a command. The brackets and the braces around
them are left out. -/
inductive Edit
  | keep (character : Char)
  | replace (inside code : List Char)
  deriving DecidableEq, Repr

namespace Edit

def original : Edit → List Char
  | keep character => [character]
  | replace inside _ => '[' :: (inside ++ [']'])

def edited : Edit → List Char
  | keep character => [character]
  | replace _ code => '\x7b' :: (code ++ ['\x7d'])

end Edit

/-- This is the text before the edits. -/
def originalOf (script : List Edit) : List Char := script.flatMap Edit.original

/-- This is the text after the edits. -/
def editedOf (script : List Edit) : List Char := script.flatMap Edit.edited

def keepAll (text : List Char) : List Edit := text.map .keep

/-- An inert character is a printed one of ASCII that opens neither a tag nor a reference. -/
def isInert (character : Char) : Bool :=
  0x20 ≤ character.toNat && character.toNat < 0x7f && character ≠ '<' && character ≠ '&'

/-- A quote stands before every closing bracket. -/
def BracketsQuoted (text : List Char) : Prop :=
  ∀ front back, text = front ++ ']' :: back → front.getLast? = some '"'

/-- A command replaces a token if it brings nothing that takes part in markup. -/
structure IsReplacement (inside code : List Char) : Prop where
  admitted : ∀ character ∈ inside, isInBody character = true
  characters : ∀ character ∈ code, character ∈ inside ∨ isInert character = true
  quoted : BracketsQuoted code
  decodable : IsDecodable inside → IsDecodable code

def Edit.IsSound : Edit → Prop
  | keep _ => True
  | replace inside code => IsReplacement inside code

def IsSound (script : List Edit) : Prop := ∀ edit ∈ script, edit.IsSound

/-- This is what a piece has between its delimiters, if it has some. -/
def Piece.inside : Piece → List Char
  | plain text => text
  | command inside => inside
  | token mark body => mark.characters ++ body

/-- This is the script of the pieces of a content. -/
def scriptFrom (rules : AliasRules) : List String → List Piece → List Edit
  | _, [] => []
  | aliases, piece :: rest =>
      match piece.token? with
      | some token =>
          .replace piece.inside (token.command rules aliases).toList ::
            scriptFrom rules (token.aliasesAfter rules aliases) rest
      | none => keepAll piece.source ++ scriptFrom rules aliases rest

/-- This is the script of a rewriting. -/
def scriptOf (rules : AliasRules) (content : String) : List Edit :=
  scriptFrom rules [] (pieces content.toList)

/-! ### Scripts -/

section

variable {script others : List Edit}

theorem originalOfAppend : originalOf (script ++ others) = originalOf script ++ originalOf others :=
  List.flatMap_append

theorem editedOfAppend : editedOf (script ++ others) = editedOf script ++ editedOf others :=
  List.flatMap_append

theorem originalOfCons (edit : Edit) : originalOf (edit :: script) = edit.original ++ originalOf script :=
  List.flatMap_cons

theorem editedOfCons (edit : Edit) : editedOf (edit :: script) = edit.edited ++ editedOf script :=
  List.flatMap_cons

theorem originalOfKeep (text : List Char) : originalOf (keepAll text) = text := by
  simp [originalOf, keepAll, List.flatMap_map, Edit.original]

theorem editedOfKeep (text : List Char) : editedOf (keepAll text) = text := by
  simp [editedOf, keepAll, List.flatMap_map, Edit.edited]

theorem keepAllSound (text : List Char) : IsSound (keepAll text) := by
  intro edit isInside
  obtain ⟨character, -, rfl⟩ := List.mem_map.1 isInside
  trivial

theorem soundAppend : IsSound (script ++ others) ↔ IsSound script ∧ IsSound others :=
  List.forall_mem_append

theorem soundCons {edit : Edit} : IsSound (edit :: script) ↔ edit.IsSound ∧ IsSound script :=
  List.forall_mem_cons

end

/-! ### Commands replace their tokens -/

theorem fillerInert {character : Char} (isFill : isFiller character = true) :
    isInert character = true := by
  simp only [isFiller, Bool.or_eq_true, decide_eq_true_eq, or_assoc] at isFill
  obtain isWord | rfl | rfl | rfl | rfl := isFill
  · obtain ⟨lower, upper⟩ := Text.asciiWordBounds isWord
    have notTag : character ≠ '<' := by
      rintro rfl
      exact absurd isWord (by decide)
    have notReference : character ≠ '&' := by
      rintro rfl
      exact absurd isWord (by decide)
    have notDelete : character.toNat ≠ 0x7f := by
      intro same
      obtain rfl : character = '\x7f' := Char.ext (UInt32.toNat_inj.1 same)
      exact absurd isWord (by decide)
    simp only [isInert, notTag, notReference, Bool.and_eq_true, decide_eq_true_eq, ne_eq,
      not_false_eq_true, and_true]
    omega
  · decide
  · decide
  · decide
  · decide

theorem escapeInert {character : Char} (escape : Text.isEscape character = true) :
    isInert character = true := by
  simp only [Text.isEscape, Bool.or_eq_true, decide_eq_true_eq, or_assoc] at escape
  obtain isWord | rfl | rfl := escape
  · exact fillerInert (by simp [isFiller, Text.isAsciiWord, isWord])
  · decide
  · decide

/-- What is neither in a word nor a delimiter takes no part in references. -/
theorem outsideReferences {character : Char} (noWord : ¬ Text.isAsciiWord character = true)
    (noDelimiter : character ∉ ['#', '&', ';']) : isInReference character = false := by
  simp only [Text.isAsciiWord, Bool.or_eq_true, not_or, Bool.not_eq_true] at noWord
  simp only [List.mem_cons, List.not_mem_nil, or_false, not_or] at noDelimiter
  obtain ⟨notHash, notOpening, notClosing⟩ := noDelimiter
  simp [isInReference, Markup.isReferenceLetter, noWord.1, notHash, notOpening, notClosing]

theorem controlOutside {character : Char} (control : character.toNat < 0x20) :
    isInReference character = false := by
  refine outsideReferences (fun isWord => ?_) (fun isDelimiter => ?_)
  · have lower := (Text.asciiWordBounds isWord).1
    omega
  · have printed : ∀ delimiter ∈ ['#', '&', ';'], 0x20 ≤ delimiter.toNat := by simp
    exact Nat.not_le_of_lt control (printed character isDelimiter)

theorem escapedOutside {character : Char} (escaped : Text.isEscaped character = true) :
    isInReference character = false := by
  simp only [Text.isEscaped, Bool.or_eq_true, decide_eq_true_eq, or_assoc] at escaped
  obtain rfl | rfl | control := escaped
  · decide
  · decide
  · exact controlOutside control

theorem charactersCarry (inside : List Char) :
    CarriesOver (fun text => ∀ character ∈ text, character ∈ inside ∨ isInert character = true)
      (fun text => ∀ character ∈ text, character ∈ inside ∨ isInert character = true) :=
  classCarries (fun _ isFill => .inr (fillerInert isFill)) (fun _ escape => .inr (escapeInert escape))
    (.inr (by decide)) (.inr (by decide))

theorem bracketsQuotedOfAbsent {text : List Char} (absent : ']' ∉ text) : BracketsQuoted text :=
  fun _ _ whole => absurd (by simp [whole]) absent

theorem bracketsQuotedAppend {first second : List Char} (isFirst : BracketsQuoted first)
    (isSecond : BracketsQuoted second) : BracketsQuoted (first ++ second) := by
  intro front back whole
  obtain ⟨remaining, rfl, sameSecond⟩ | ⟨remaining, sameFirst⟩ := Text.inBeginningOrAfter whole
  · have quoted := isSecond remaining back sameSecond
    rw [List.getLast?_append, quoted]
    rfl
  · exact isFirst front remaining sameFirst

theorem bracketsCarry : CarriesOver (fun text => ']' ∉ text) BracketsQuoted where
  parts _ isGiven := by
    simp only [List.mem_append, List.mem_cons, not_or] at isGiven
    exact ⟨isGiven.1, isGiven.2.2⟩
  kept := bracketsQuotedOfAbsent
  empty := bracketsQuotedOfAbsent List.not_mem_nil
  append := bracketsQuotedAppend
  filler isFill := bracketsQuotedOfAbsent (by
    rw [List.mem_singleton]
    rintro rfl
    exact absurd isFill (by decide))
  quoted := by
    intro text absent
    have noneInside : ']' ∉ text.flatMap Text.quoteCharacter := by
      intro isWritten
      exact (Text.quotedFrom isWritten).elim absent (by decide)
    have noneBefore : ']' ∉ '[' :: Text.quoteList text := by
      simp [Text.quoteList, noneInside]
    intro front back whole
    obtain ⟨remaining, rfl, atEnd⟩ := Text.afterBeginning noneBefore whole
    cases remaining with
    | nil =>
        rw [List.append_nil, Text.quoteList, ← List.cons_append, ← List.cons_append,
          List.getLast?_concat]
    | cons next others => exact absurd (List.cons.inj atEnd).2 (by simp)

theorem blankOutside {character : Char} (breaks : Text.isBlank character = true ∨ character = '.') :
    isInReference character = false := by
  obtain blank | rfl := breaks
  · refine outsideReferences (fun isWord => ?_) (fun isDelimiter => ?_)
    · exact absurd blank (by simp [Text.asciiWordNotBlank isWord])
    · have notBlank : ∀ delimiter ∈ ['#', '&', ';'], Text.isBlank delimiter = false := by
        simp [Text.isBlank]
      exact absurd blank (by simp [notBlank character isDelimiter])
  · decide

theorem fillerNoReference {character : Char} (isFill : isFiller character = true) :
    '&' ∉ [character] := by
  rw [List.mem_singleton]
  rintro rfl
  exact absurd isFill (by decide)

/-- What is decoded stays in a class of characters, if commands hold only characters of the class
besides. -/
theorem decodedCarries {isAdmitted : Char → Prop}
    (filler : ∀ character, isFiller character = true → isAdmitted character)
    (escape : ∀ character, Text.isEscape character = true → isAdmitted character)
    (opening : isAdmitted '[') (closing : isAdmitted ']') :
    CarriesOver (fun raw => ∃ decoded, Decodes raw decoded ∧ ∀ character ∈ decoded, isAdmitted character)
      (fun raw => ∃ decoded, Decodes raw decoded ∧ ∀ character ∈ decoded, isAdmitted character) where
  parts := by
    rintro front back character breaks ⟨decoded, decodes, admitted⟩
    obtain ⟨first, second, decodesFirst, decodesSecond, rfl⟩ := decodes.split (blankOutside breaks)
    obtain ⟨admittedFirst, admittedRest⟩ := List.forall_mem_append.1 admitted
    exact ⟨⟨first, decodesFirst, admittedFirst⟩, second, decodesSecond,
      (List.forall_mem_cons.1 admittedRest).2⟩
  kept isGiven := isGiven
  empty := ⟨[], .done, nofun⟩
  append := by
    rintro first second ⟨decoded, decodes, admitted⟩ ⟨more, decodesMore, admittedMore⟩
    exact ⟨_, decodes.append decodesMore, List.forall_mem_append.2 ⟨admitted, admittedMore⟩⟩
  filler := by
    intro character isFill
    exact ⟨[character], by simpa using Decodes.plainFront (fillerNoReference isFill) .done,
      List.forall_mem_singleton.2 (filler _ isFill)⟩
  quoted := by
    rintro text ⟨decoded, decodes, admitted⟩
    obtain ⟨written, decodesWritten, source⟩ :
        ∃ written, Decodes (text.flatMap Text.quoteCharacter) written ∧ ∀ character ∈ written,
          character ∈ decoded ∨ ∃ source ∈ decoded, character ∈ Text.quoteCharacter source := by
      refine IsDecodable.decodesWritten (fun character inReference => ?_) (fun character outside => ?_)
        decodes
      · obtain same | ⟨escaped, -⟩ := Text.quoteCharacterWrites character
        · exact same
        · simp [escapedOutside escaped] at inReference
      · obtain same | ⟨-, allEscapes⟩ := Text.quoteCharacterWrites character
        · rw [same, List.mem_singleton]
          rintro rfl
          exact absurd outside (by decide)
        · exact fun isInside => absurd (allEscapes '&' isInside) (by decide)
    have admittedWritten : ∀ character ∈ written, isAdmitted character := by
      intro character isWritten
      rcases source character isWritten with isInside | ⟨quoted, isInside, isWritten⟩
      · exact admitted character isInside
      · rcases Text.quoteCharacterWrites quoted with same | ⟨-, allEscapes⟩
        · rw [same, List.mem_singleton] at isWritten
          exact isWritten ▸ admitted quoted isInside
        · exact escape character (allEscapes character isWritten)
    have quote : isAdmitted '"' := escape _ (by decide)
    have back : Decodes ['"', ']'] ['"', ']'] := .plain (by decide) (.plain (by decide) .done)
    have whole : Decodes (['[', '"'] ++ (text.flatMap Text.quoteCharacter ++ ['"', ']']))
        (['[', '"'] ++ (written ++ ['"', ']'])) :=
      .plainFront (by decide) (decodesWritten.append back)
    refine ⟨_, by simpa [Text.quoteList] using whole, ?_⟩
    simp only [List.forall_mem_append, List.forall_mem_cons, List.not_mem_nil, false_implies,
      implies_true, and_true]
    exact ⟨opening, quote, admittedWritten, quote, closing⟩

theorem referencesCarry : CarriesOver IsDecodable IsDecodable := by
  have carries := @decodedCarries (fun _ => True) (fun _ _ => trivial) (fun _ _ => trivial) trivial trivial
  simp only [implies_true, and_true] at carries
  exact carries

/-- The command of a token replaces it. -/
theorem commandReplaces {rules : AliasRules} {aliases : List String} {mark : Mark} {body : List Char}
    (fallback : IsName rules.fallback) (areNames : ∀ itemName ∈ aliases, IsName itemName)
    (admitted : (Piece.token mark body).Admitted) {token : Token}
    (sameBody : token.body = trimmedBody body) :
    IsReplacement (mark.characters ++ body) (token.command rules aliases).toList := by
  have bodyOf : token.body.toList = Text.stripList body := by
    rw [sameBody, trimmedBody, String.toList_ofList]
  refine ⟨admitted.inside, (charactersCarry _).command fallback areNames ?_,
    bracketsCarry.command fallback areNames ?_, fun decodable =>
    referencesCarry.command fallback areNames ?_⟩
  · rw [bodyOf]
    exact fun character isInside =>
      .inl (List.mem_append_right _ (Text.stripListSubset _ isInside))
  · rw [bodyOf]
    exact fun isInside => absurd (admitted _ (Text.stripListSubset _ isInside)) (by decide)
  · rw [bodyOf]
    refine referencesCarry.strip (IsDecodable.afterPlain ?_ decodable)
    cases mark <;> decide

/-! ### The script of a rewriting -/

section

variable {rules : AliasRules} {cut : List Piece} {aliases : List String}

theorem tokenOfPiece {piece : Piece} {token : Token} (isToken : piece.token? = some token) :
    ∃ mark body, piece = .token mark body ∧ piece.isReplaced = true ∧
      token = .ofMark mark (trimmedBody body) := by
  cases piece with
  | plain text => exact nomatch isToken
  | command inside => exact nomatch isToken
  | token mark body =>
      obtain ⟨replaced, same⟩ := Option.ite_none_right_eq_some.1 isToken
      exact ⟨mark, body, rfl, replaced, (Option.some.inj same).symm⟩

theorem bodyOfMark (mark : Mark) (body : String) : (Token.ofMark mark body).body = body := by
  cases mark <;> rfl

theorem originalOfScript : originalOf (scriptFrom rules aliases cut) = cut.flatMap Piece.source := by
  induction cut generalizing aliases with
  | nil => rfl
  | cons piece rest inductionHypothesis =>
      rw [List.flatMap_cons, scriptFrom]
      cases isToken : piece.token? with
      | none => rw [originalOfAppend, originalOfKeep, inductionHypothesis]
      | some token =>
          obtain ⟨mark, body, rfl, -⟩ := tokenOfPiece isToken
          rw [originalOfCons, inductionHypothesis]
          simp [Edit.original, Piece.source, Piece.inside]

theorem rewritePieceKept {progress : Progress} {piece : Piece} (isNone : piece.token? = none) :
    rewritePiece rules progress piece = (piece.source, progress) := by
  cases piece with
  | plain text => rfl
  | command inside => rfl
  | token mark body =>
      cases replaced : (Piece.token mark body).isReplaced with
      | false => exact if_neg (by simp [replaced])
      | true => exact nomatch (if_pos replaced).symm.trans isNone

theorem editedOfScript (fallback : IsName rules.fallback) {progress : Progress}
    (agrees : progress.Agrees aliases) :
    editedOf (scriptFrom rules aliases cut) = (rewritePieces rules progress cut).flatten := by
  induction cut generalizing aliases progress with
  | nil => rfl
  | cons piece rest inductionHypothesis =>
      rw [rewritePieces, List.flatten_cons, scriptFrom]
      cases isToken : piece.token? with
      | none =>
          rw [editedOfAppend, editedOfKeep, rewritePieceKept isToken, inductionHypothesis agrees]
      | some token =>
          obtain ⟨mark, body, rfl, replaced, rfl⟩ := tokenOfPiece isToken
          have isRewritten : rewritePiece rules progress (.token mark body) =
              rewriteToken rules progress mark (trimmedBody body) := if_pos replaced
          obtain ⟨written, agreesThen⟩ :=
            rewriteTokenAgrees fallback agrees mark (trimmedBody body)
          rw [editedOfCons, isRewritten, written, inductionHypothesis agreesThen]
          rfl

theorem scriptSound (fallback : IsName rules.fallback) (admitted : ∀ piece ∈ cut, piece.Admitted)
    {progress : Progress} (agrees : progress.Agrees aliases) :
    IsSound (scriptFrom rules aliases cut) := by
  induction cut generalizing aliases progress with
  | nil => exact nofun
  | cons piece rest inductionHypothesis =>
      obtain ⟨isAdmitted, admittedRest⟩ := List.forall_mem_cons.1 admitted
      rw [scriptFrom]
      cases isToken : piece.token? with
      | none =>
          exact soundAppend.2 ⟨keepAllSound _, inductionHypothesis admittedRest agrees⟩
      | some token =>
          obtain ⟨mark, body, rfl, -, rfl⟩ := tokenOfPiece isToken
          have agreesThen := (rewriteTokenAgrees fallback agrees mark (trimmedBody body)).2
          exact soundCons.2 ⟨commandReplaces fallback agrees.areNames isAdmitted (bodyOfMark ..),
            inductionHypothesis admittedRest agreesThen⟩

/-- The script of a rewriting takes the content to the rewritten one. -/
theorem scriptOfRewriting (fallback : IsName rules.fallback) (content : String) :
    originalOf (scriptOf rules content) = content.toList ∧
      editedOf (scriptOf rules content) = (rewrite rules content).content.toList ∧
        IsSound (scriptOf rules content) := by
  refine ⟨?_, ?_, scriptSound fallback (piecesAdmitted _) startAgrees⟩
  · rw [scriptOf, originalOfScript, piecesSource]
  · rw [scriptOf, editedOfScript fallback startAgrees, rewrite, String.toList_ofList]

end

end Letterpress.Bracket
