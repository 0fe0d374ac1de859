import Letterpress.Proofs.Bracket.Preservation
import Letterpress.Proofs.Markup.Document

/-!
This file shows which documents a rewriting preserves: the ones in which every token that is replaced
stands in a text.
-/

namespace Letterpress.Bracket

open Markup

/-- An edit of characters is an edit of what an encoding reads from them. -/
def Edit.spread (encoding : Encoding) : Edit → List Edit
  | keep character => keepAll (encoding.write character)
  | replace inside code => [replace (inside.flatMap encoding.write) (code.flatMap encoding.write)]

def spreadAll (encoding : Encoding) (script : List Edit) : List Edit :=
  script.flatMap (Edit.spread encoding)

/-- The edits of a text are edits of the text with its line ends normalized. -/
def normalizeEdits : List Edit → List Edit
  | [] => []
  | .keep character :: rest =>
      keepAll (normalizeLine character (originalOf rest).head?) ++ normalizeEdits rest
  | .replace inside code :: rest => .replace inside code :: normalizeEdits rest

/-- These are the edits of the content of a document, which begins after the declaration. -/
def contentScript? (rules : AliasRules) (text : String) : Option (List Edit) :=
  (splitDeclaration? (dropMark text.toList)).map fun (encoding, rest) =>
    normalizeEdits (spreadAll encoding ((scriptOf rules text).drop (text.length - rest.length)))

/-- A rewriting preserves a document if the rewritten text is well formed and the same document side
by side, but for the tokens that are replaced in its texts. -/
structure Preserves (rules : AliasRules) (text : String) (root : Node) : Prop where
  sideBySide : ∃ script events editedEvents, contentScript? rules text = some script ∧
    eventsOf? text = some events ∧ eventsOf? (rewrite rules text).content = some editedEvents ∧
      SideBySide script events editedEvents
  wellFormed : ∃ editedRoot, readDocument? (rewrite rules text).content = some editedRoot ∧
    editedRoot.frame = root.frame

/-! ### Encodings and line ends of edits -/

section

variable {encoding : Encoding} {script : List Edit}

/-- The text of spread edits is spread if that of each edit is. -/
theorem writtenOfSpread {written : Edit → List Char}
    (ofEdit : ∀ edit, (edit.spread encoding).flatMap written = (written edit).flatMap encoding.write) :
    (spreadAll encoding script).flatMap written = (script.flatMap written).flatMap encoding.write := by
  rw [spreadAll, List.flatMap_assoc, List.flatMap_assoc]
  simp only [ofEdit]

theorem originalOfSpread : originalOf (spreadAll encoding script) =
    (originalOf script).flatMap encoding.write := by
  refine writtenOfSpread fun edit => ?_
  cases edit with
  | keep character => exact (originalOfKeep _).trans (List.flatMap_singleton ..).symm
  | replace inside code =>
      simp [Edit.spread, Edit.original, writeAscii (show '['.toNat < 128 by decide),
        writeAscii (show ']'.toNat < 128 by decide)]

theorem editedOfSpread : editedOf (spreadAll encoding script) =
    (editedOf script).flatMap encoding.write := by
  refine writtenOfSpread fun edit => ?_
  cases edit with
  | keep character => exact (editedOfKeep _).trans (List.flatMap_singleton ..).symm
  | replace inside code =>
      simp [Edit.spread, Edit.edited, writeAscii (show '\x7b'.toNat < 128 by decide),
        writeAscii (show '\x7d'.toNat < 128 by decide)]

theorem referenceIsAscii {character : Char} (inReference : isInReference character = true) :
    character.toNat < 128 := by
  simp only [isInReference, isReferenceLetter, Bool.or_eq_true, decide_eq_true_eq, or_assoc] at inReference
  obtain isWord | rfl | rfl | rfl := inReference
  · exact (Text.asciiWordBounds (by simp [Text.isAsciiWord, isWord])).2
  · decide
  · decide
  · decide

theorem inertIsAscii {character : Char} (inert : isInert character = true) : character.toNat < 128 := by
  simp only [isInert, Bool.and_eq_true, decide_eq_true_eq] at inert
  omega

/-- What is read from a character is itself, or it is no ASCII at all. -/
theorem writtenFrom {character written : Char} (isWritten : written ∈ encoding.write character) :
    written = character ∨ 128 ≤ written.toNat := by
  obtain ascii | outside := Nat.lt_or_ge character.toNat 128
  · rw [writeAscii ascii, List.mem_singleton] at isWritten
    exact .inl isWritten
  · exact .inr ((writeOutside outside).2 written isWritten)

theorem bracketsQuotedSpread {text : List Char} (quoted : BracketsQuoted text) :
    BracketsQuoted (text.flatMap encoding.write) := by
  have source (characters front back : List Char)
      (whole : characters.flatMap encoding.write = front ++ ']' :: back) :
      ∃ before after, characters = before ++ ']' :: after ∧ front = before.flatMap encoding.write := by
    induction characters generalizing front with
    | nil => simp at whole
    | cons character others inductionHypothesis =>
        rw [List.flatMap_cons] at whole
        obtain ⟨remaining, rfl, sameRest⟩ | ⟨remaining, inFirst⟩ := Text.inBeginningOrAfter whole
        · obtain ⟨before, after, rfl, rfl⟩ := inductionHypothesis remaining sameRest
          exact ⟨character :: before, after, rfl, rfl⟩
        · have isWritten : ']' ∈ encoding.write character := by simp [inFirst]
          obtain rfl : ']' = character := (writtenFrom isWritten).resolve_right (by decide)
          rw [writeAscii (by decide)] at inFirst
          cases front with
          | nil => exact ⟨[], others, rfl, rfl⟩
          | cons => simp at inFirst
  intro front back whole
  obtain ⟨before, after, rfl, rfl⟩ := source text front back whole
  obtain ⟨others, rfl⟩ := List.getLast?_eq_some_iff.1 (quoted before after rfl)
  rw [List.flatMap_append, List.flatMap_singleton, writeAscii (by decide), List.getLast?_concat]

theorem replacementSpread {inside code : List Char} (replacement : IsReplacement inside code) :
    IsReplacement (inside.flatMap encoding.write) (code.flatMap encoding.write) := by
  have sameLetters (character : Char) (inReference : isInReference character = true) :
      encoding.write character = [character] := writeAscii (referenceIsAscii inReference)
  have outsideLetters (character : Char) (notInReference : isInReference character = false) :
      encoding.write character ≠ [] ∧
        ∀ written ∈ encoding.write character, isInReference written = false := by
    obtain ascii | outside := Nat.lt_or_ge character.toNat 128
    · rw [writeAscii ascii]
      exact ⟨List.cons_ne_nil _ _, List.forall_mem_singleton.2 notInReference⟩
    · obtain ⟨notEmpty, allOutside⟩ : encoding.write character ≠ [] ∧
          ∀ written ∈ encoding.write character, 128 ≤ written.toNat := writeOutside outside
      refine ⟨notEmpty, fun written isWritten => Bool.eq_false_iff.2 fun inReference => ?_⟩
      exact absurd (referenceIsAscii inReference) (Nat.not_lt.2 (allOutside written isWritten))
  refine ⟨fun written isWritten => ?_, fun written isWritten => ?_,
    bracketsQuotedSpread replacement.quoted, fun decodable => ?_⟩
  · obtain ⟨character, isInside, isWritten⟩ := List.mem_flatMap.1 isWritten
    obtain rfl | outside := writtenFrom isWritten
    · exact replacement.admitted written isInside
    · have notAscii (letter : Char) (ascii : letter.toNat < 128) : written ≠ letter := by
        rintro rfl
        omega
      simp [isInBody, notAscii ']' (by decide), notAscii '\r' (by decide),
        notAscii '\n' (by decide), notAscii '<' (by decide)]
  · obtain ⟨character, isInside, isWritten⟩ := List.mem_flatMap.1 isWritten
    obtain isToken | inert := replacement.characters character isInside
    · exact .inl (List.mem_flatMap.2 ⟨character, isToken, isWritten⟩)
    · rw [writeAscii (inertIsAscii inert), List.mem_singleton] at isWritten
      exact .inr (isWritten ▸ inert)
  · exact (replacement.decodable (decodable.ofFlatMap sameLetters outsideLetters)).flatMap sameLetters
      fun character notInReference isInside =>
        absurd ((outsideLetters character notInReference).2 '&' isInside) (by decide)

theorem spreadSound (sound : IsSound script) : IsSound (spreadAll encoding script) := by
  intro edit isInside
  obtain ⟨source, isSource, isSpread⟩ := List.mem_flatMap.1 isInside
  cases source with
  | keep character => exact keepAllSound _ edit isSpread
  | replace inside code =>
      obtain rfl := List.mem_singleton.1 isSpread
      exact replacementSpread (sound _ isSource)

theorem noReturnInToken {inside code : List Char} (replacement : IsReplacement inside code) :
    '\r' ∉ inside ∧ '\r' ∉ code := by
  have noneInside : '\r' ∉ inside := fun isInside =>
    absurd (replacement.admitted _ isInside) (by decide)
  exact ⟨noneInside, fun isInside =>
    (replacement.characters _ isInside).elim noneInside (by decide)⟩

/-- A carriage return has a line feed after it in both texts or in none. -/
theorem sameLineEnd (character : Char) (script : List Edit) :
    normalizeLine character (editedOf script).head? =
      normalizeLine character (originalOf script).head? := by
  cases script with
  | nil => rfl
  | cons edit rest =>
      cases edit with
      | keep kept => rfl
      | replace inside code => rfl

theorem writtenOfNormalized {written : Edit → List Char}
    (keeps : ∀ character, written (.keep character) = [character])
    (sameEnds : ∀ character script, normalizeLine character (script.flatMap written).head? =
      normalizeLine character (originalOf script).head?)
    (noReturn : ∀ inside code, IsReplacement inside code → '\r' ∉ written (.replace inside code))
    (sound : IsSound script) :
    (normalizeEdits script).flatMap written = normalizeLines (script.flatMap written) := by
  have ofKeep (text : List Char) : (keepAll text).flatMap written = text := by
    simp [keepAll, List.flatMap_map, keeps]
  induction script with
  | nil => rfl
  | cons edit rest inductionHypothesis =>
      obtain ⟨soundEdit, soundRest⟩ := soundCons.1 sound
      rw [List.flatMap_cons]
      cases edit with
      | keep character =>
          rw [normalizeEdits, List.flatMap_append, ofKeep, inductionHypothesis soundRest, keeps,
            ← sameEnds]
          exact (normalizeLinesCons ..).symm
      | replace inside code =>
          rw [normalizeEdits, List.flatMap_cons, inductionHypothesis soundRest,
            normalizeLinesFront (noReturn inside code soundEdit)]

theorem originalOfNormalized (sound : IsSound script) :
    originalOf (normalizeEdits script) = normalizeLines (originalOf script) := by
  refine writtenOfNormalized (fun _ => rfl) (fun _ _ => rfl) (fun inside code replacement => ?_) sound
  simp [Edit.original, (noReturnInToken replacement).1]

theorem editedOfNormalized (sound : IsSound script) :
    editedOf (normalizeEdits script) = normalizeLines (editedOf script) := by
  refine writtenOfNormalized (fun _ => rfl) sameLineEnd (fun inside code replacement => ?_) sound
  simp [Edit.edited, (noReturnInToken replacement).2]

theorem normalizedSound (sound : IsSound script) : IsSound (normalizeEdits script) := by
  induction script with
  | nil => exact sound
  | cons edit rest inductionHypothesis =>
      obtain ⟨soundEdit, soundRest⟩ := soundCons.1 sound
      cases edit with
      | keep character => exact soundAppend.2 ⟨keepAllSound _, inductionHypothesis soundRest⟩
      | replace inside code => exact soundCons.2 ⟨soundEdit, inductionHypothesis soundRest⟩

end

/-! ### Documents -/

section

variable {script : List Edit} {encoding : Encoding}

/-- A beginning without the delimiter of tokens or of commands is kept. -/
theorem keptFront {written : Edit → List Char} {delimiter : Char}
    (keeps : ∀ character, written (.keep character) = [character])
    (delimits : ∀ inside code, (written (.replace inside code)).head? = some delimiter)
    {front rest : List Char} (absent : delimiter ∉ front)
    (whole : script.flatMap written = front ++ rest) :
    ∃ others, script = keepAll front ++ others ∧ others.flatMap written = rest := by
  induction front generalizing script with
  | nil => exact ⟨script, rfl, whole⟩
  | cons character front inductionHypothesis =>
      obtain ⟨notDelimiter, absentRest⟩ := List.ne_and_not_mem_of_not_mem_cons absent
      cases script with
      | nil => exact nomatch whole
      | cons edit others =>
          rw [List.flatMap_cons] at whole
          cases edit with
          | keep kept =>
              rw [keeps] at whole
              obtain ⟨rfl, wholeRest⟩ := List.cons.inj whole
              obtain ⟨more, rfl, same⟩ := inductionHypothesis absentRest wholeRest
              exact ⟨more, rfl, same⟩
          | replace inside code =>
              have first := congrArg List.head? whole
              rw [List.head?_append, delimits] at first
              exact absurd (Option.some.inj first) notDelimiter

theorem dropMarkOther {first : Char} {rest : List Char} (noMark : first ≠ '\ufeff') :
    dropMark (first :: rest) = first :: rest := by
  unfold dropMark
  split
  · rename_i same
    exact absurd (List.cons.inj same).1 noMark
  · rfl

theorem keptMark (script : List Edit) :
    ∃ mark others, script = keepAll mark ++ others ∧
      dropMark (originalOf script) = originalOf others ∧
        dropMark (editedOf script) = editedOf others := by
  cases script with
  | nil => exact ⟨[], [], rfl, rfl, rfl⟩
  | cons edit rest =>
      cases edit with
      | replace inside code =>
          exact ⟨[], _, rfl, dropMarkOther (by decide), dropMarkOther (by decide)⟩
      | keep character =>
          by_cases isMark : character = '\ufeff'
          · subst isMark
            exact ⟨['\ufeff'], rest, rfl, rfl, rfl⟩
          · exact ⟨[], _, rfl, dropMarkOther isMark, dropMarkOther isMark⟩

/-- The declaration of a document is kept. -/
theorem keptDeclaration {rest : List Char}
    (split : splitDeclaration? (originalOf script) = some (encoding, rest)) :
    ∃ front others, script = keepAll front ++ others ∧ originalOf others = rest ∧
      splitDeclaration? (editedOf script) = some (encoding, editedOf others) := by
  cases declared : hasDeclaration (originalOf script) with
  | true =>
      obtain ⟨source, whole, absent, reads⟩ := sourceOfDeclared split declared
      obtain ⟨others, rfl, same⟩ := keptFront (fun _ => rfl) (fun _ _ => rfl) absent whole
      refine ⟨source, others, rfl, same, ?_⟩
      rw [editedOfAppend, editedOfKeep]
      exact reads _
  | false =>
      have notDeclared : hasDeclaration (editedOf script) = false := by
        rw [Bool.eq_false_iff]
        intro declaredEdited
        obtain ⟨space, others, isBlank, whole⟩ := declaredIff.1 declaredEdited
        have noneInOpening : '\x7b' ∉ declarationOpening ++ [space] := by
          have notBlank : '\x7b' ≠ space := by
            rintro rfl
            exact absurd isBlank (by decide)
          simp [declarationOpening, notBlank]
        obtain ⟨more, rfl, -⟩ := keptFront (fun _ => rfl) (fun _ _ => rfl) noneInOpening
          (whole.trans (List.append_cons ..))
        have declaredOriginal :
            hasDeclaration (originalOf (keepAll (declarationOpening ++ [space]) ++ more)) = true :=
          declaredIff.2 ⟨space, originalOf more, isBlank, by
            rw [originalOfAppend, originalOfKeep, ← List.append_cons]⟩
        exact absurd declaredOriginal (by simp [declared])
      simp only [splitDeclaration?, declared, Bool.false_eq_true, if_false, Option.some.injEq,
        Prod.mk.injEq] at split
      obtain ⟨rfl, rfl⟩ := split
      exact ⟨[], script, rfl, rfl, by simp [splitDeclaration?, notDeclared]⟩

/-- The edits of a content lead from the events of a document to those of the rewritten one. -/
theorem contentOfDocument {rules : AliasRules} (fallback : IsName rules.fallback) {text : String}
    {events : List Event} (read : eventsOf? text = some events) :
    ∃ script, contentScript? rules text = some script ∧ IsSound script ∧
      Event.ofContent? (originalOf script) = some events ∧
        eventsOf? (rewrite rules text).content = Event.ofContent? (editedOf script) := by
  obtain ⟨isOriginal, isEdited, sound⟩ := scriptOfRewriting fallback text
  obtain ⟨body, isBody, areEvents⟩ := Option.bind_eq_some_iff.1 read
  obtain ⟨encoding, rest, split, reread⟩ := bodyIff.1 isBody
  obtain ⟨mark, afterMark, wholeMark, markOriginal, markEdited⟩ := keptMark (scriptOf rules text)
  have splitAfterMark : splitDeclaration? (originalOf afterMark) = some (encoding, rest) := by
    rwa [← markOriginal, isOriginal]
  obtain ⟨declaration, script, wholeDeclaration, rfl, splitEdited⟩ := keptDeclaration splitAfterMark
  obtain ⟨ascii, rfl⟩ := rereadIff.1 reread
  have whole : scriptOf rules text = keepAll (mark ++ declaration) ++ script := by
    rw [wholeMark, wholeDeclaration, keepAll, keepAll, keepAll, List.map_append, List.append_assoc]
  have soundScript : IsSound script := by
    rw [whole] at sound
    exact (soundAppend.1 sound).2
  have dropped : (scriptOf rules text).drop (text.length - (originalOf script).length) = script := by
    have sameLength : text.length = (mark ++ declaration).length + (originalOf script).length := by
      rw [← String.length_toList, ← isOriginal, whole, originalOfAppend, originalOfKeep,
        List.length_append]
    rw [sameLength, Nat.add_sub_cancel, whole]
    exact List.drop_left' (List.length_map ..)
  have soundSpread : IsSound (spreadAll encoding script) := spreadSound soundScript
  refine ⟨normalizeEdits (spreadAll encoding script), ?_, normalizedSound soundSpread, ?_, ?_⟩
  · rw [contentScript?, ← isOriginal, markOriginal, splitAfterMark, Option.map_some]
    exact congrArg (fun edits => some (normalizeEdits (spreadAll encoding edits))) dropped
  · rw [originalOfNormalized soundSpread, originalOfSpread]
    exact areEvents
  · have asciiAfter (isAscii : encoding = .ascii) :
        ∀ character ∈ editedOf script, character.toNat < 128 :=
      PassesEdits.edited (classPasses fun _ => inertIsAscii) soundScript (ascii isAscii)
    have isBodyEdited : body? (editedOf afterMark) =
        some ((editedOf script).flatMap encoding.write) :=
      bodyIff.2 ⟨encoding, editedOf script, splitEdited, rereadIff.2 ⟨asciiAfter, rfl⟩⟩
    rw [eventsOf?, ← isEdited, markEdited, isBodyEdited, Option.bind_some,
      editedOfNormalized soundSpread, editedOfSpread]

/-- A rewriting preserves a well-formed document exactly if the tokens that it replaces stand in the
texts of the document. -/
theorem documentPreservedIff {text : String} {root : Node} (wellFormed : readDocument? text = some root) :
    Preserves .standard text root ↔
      ∃ script, contentScript? .standard text = some script ∧ InTexts script := by
  obtain ⟨events, read, built⟩ := readDocumentIff.1 wellFormed
  obtain ⟨script, isScript, sound, readOriginal, readEdited⟩ :=
    contentOfDocument standardFallbackIsName read
  constructor
  · rintro ⟨⟨found, _, _, isFound, -, -, sideBySide⟩, -⟩
    exact ⟨found, isFound, inTextsOfSideBySide sideBySide⟩
  · rintro ⟨found, isFound, inTexts⟩
    obtain rfl := Option.some.inj (isScript.symm.trans isFound)
    obtain ⟨others, editedEvents, sideBySide, standFor⟩ := sideBySideOfInTexts sound inTexts
    obtain ⟨contents, contentsEdited⟩ := sideBySide.contents
    obtain rfl := Option.some.inj (readOriginal.symm.trans contents)
    obtain ⟨editedRoot, builtEdited, sameFrame⟩ := frameOfStands standFor built
    have eventsEdited := readEdited.trans contentsEdited
    exact ⟨⟨script, events, editedEvents, isScript, read, eventsEdited, sideBySide⟩,
      editedRoot, readDocumentIff.2 ⟨editedEvents, eventsEdited, builtEdited⟩, sameFrame⟩

/-- A token in a text leaves its document as it is. -/
theorem textTokenPreserves :
    ∃ root, readDocument? "<a>[b]</a>" = some root ∧ Preserves .standard "<a>[b]</a>" root := by
  obtain ⟨root, wellFormed⟩ :=
    Option.isSome_iff_exists.1 (show (readDocument? "<a>[b]</a>").isSome = true by decide +kernel)
  have isScript : contentScript? .standard "<a>[b]</a>" =
      some (keepAll "<a>".toList ++ ([.replace ['b'] ['b']] ++ (keepAll "</a>".toList ++ []))) := by
    decide +kernel
  have inTexts : InTexts
      (keepAll "<a>".toList ++ ([.replace ['b'] ['b']] ++ (keepAll "</a>".toList ++ []))) := by
    have opening : Event.read? ("<a>".toList ++ "[b]</a>".toList) =
        some (.opening ⟨⟨[], ['a']⟩, []⟩, "[b]</a>".toList) := by decide +kernel
    have text : Event.read? ("[b]".toList ++ "</a>".toList) =
        some (.data "[b]".toList, "</a>".toList) := by decide +kernel
    have closing : Event.read? ("</a>".toList ++ []) = some (.closing ⟨[], ['a']⟩, []) := by
      decide +kernel
    exact .markup opening rfl (.data text (.markup closing rfl .done))
  exact ⟨root, wellFormed, (documentPreservedIff wellFormed).2 ⟨_, isScript, inTexts⟩⟩

/-- A token in the value of an attribute spoils its document, for the command has quotes. -/
theorem valueTokenSpoils :
    ∃ root, readDocument? "<a b=\"[%1]\"/>" = some root ∧
      ¬ Preserves .standard "<a b=\"[%1]\"/>" root := by
  obtain ⟨root, wellFormed⟩ := Option.isSome_iff_exists.1
    (show (readDocument? "<a b=\"[%1]\"/>").isSome = true by decide +kernel)
  refine ⟨root, wellFormed, fun preserves => ?_⟩
  obtain ⟨editedRoot, wellFormedEdited, -⟩ := preserves.wellFormed
  have spoilt : (readDocument? (rewrite .standard "<a b=\"[%1]\"/>").content).isSome = false := by
    decide +kernel
  simp [wellFormedEdited] at spoilt

end

end Letterpress.Bracket
