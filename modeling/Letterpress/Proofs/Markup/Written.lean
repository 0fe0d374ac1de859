import Letterpress.Proofs.Markup.Passage
import Letterpress.Proofs.Markup.Soundness

/-!
This file shows that sound documents are well formed when they are written.
-/

namespace Letterpress.Markup

/-! ### Characters -/

section

variable {outline : Outline} {character : Char}

/-- A character of a text is written as it is, or as a reference to it. -/
theorem escapeTextWrites (character : Char) :
    (escapeText character = [character] ∧ character ≠ '<' ∧ character ≠ '>' ∧ character ≠ '&' ∧
        character ≠ '\r') ∨
      ∃ name, escapeText character = '&' :: (name ++ [';']) ∧ referenced? name = some character := by
  unfold escapeText
  split
  case h_1 => exact .inr ⟨"amp".toList, rfl, rfl⟩
  case h_2 => exact .inr ⟨"lt".toList, rfl, rfl⟩
  case h_3 => exact .inr ⟨"gt".toList, rfl, rfl⟩
  case h_4 => exact .inr ⟨"#13".toList, rfl, rfl⟩
  case h_5 notAmpersand notOpening notClosing notReturn =>
    exact .inl ⟨rfl, notOpening, notClosing, notAmpersand, notReturn⟩

/-- A character of a value is written as it is, or as a reference to it. -/
theorem escapeValueWrites (character : Char) :
    (escapeValue character = [character] ∧ character ≠ '<' ∧ character ≠ '&' ∧ character ≠ '"' ∧
        character ≠ '\r' ∧ blankToSpace character = character) ∨
      ∃ name, escapeValue character = '&' :: (name ++ [';']) ∧
        referenced? name = some character := by
  unfold escapeValue
  split
  case h_1 => exact .inr ⟨"quot".toList, rfl, rfl⟩
  case h_2 => exact .inr ⟨"#10".toList, rfl, rfl⟩
  case h_3 => exact .inr ⟨"#9".toList, rfl, rfl⟩
  case h_4 notQuote notFeed notTab =>
    refine (escapeTextWrites character).imp_left fun ⟨same, notOpening, _, notReference, notReturn⟩ =>
      ⟨same, notOpening, notReference, notQuote, notReturn, ?_⟩
    unfold blankToSpace
    split
    case isFalse => rfl
    case isTrue isBlank =>
      simp only [isSpace, Bool.or_eq_true, decide_eq_true_eq] at isBlank
      obtain ((isBlank | isTab) | isFeed) | isReturn := isBlank
      · exact isBlank.symm
      · exact absurd isTab notTab
      · exact absurd isFeed notFeed
      · exact absurd isReturn notReturn

theorem textPasses {content : List Char} (inside : outline.opened ≠ []) (legal : AllLegal content) :
    Passes outline (content.flatMap escapeText) outline := by
  refine .flatMap fun character isInside => ?_
  obtain ⟨same, notOpening, notClosing, notReference, -⟩ | ⟨name, same, refers⟩ :=
    escapeTextWrites character
  · rw [same]
    exact .plain inside ⟨legal character isInside, notOpening, notClosing, notReference⟩ .done
  · rw [same]
    exact .reference inside refers .done

end

/-! ### Values -/

section

variable {value : List Char}

/-- This is how the characters of a value are written. -/
structure IsValueSource (value raw : List Char) : Prop where
  noTag : '<' ∉ raw
  noQuote : '"' ∉ raw
  noReturn : '\r' ∉ raw
  legal : AllLegal raw
  decodes : Decodes (raw.map blankToSpace) value

theorem letterNotBlank {letter : Char} (isLetter : isReferenceLetter letter = true) :
    blankToSpace letter = letter := by
  refine if_neg fun isBlank => ?_
  simp only [isSpace, Bool.or_eq_true, decide_eq_true_eq, or_assoc] at isBlank
  obtain rfl | rfl | rfl | rfl := isBlank <;> exact absurd isLetter (by decide)

theorem valueSource (legal : AllLegal value) : IsValueSource value (value.flatMap escapeValue) := by
  induction value with
  | nil => exact ⟨List.not_mem_nil, List.not_mem_nil, List.not_mem_nil, nofun, .done⟩
  | cons character rest inductionHypothesis =>
      obtain ⟨isLegal, legalRest⟩ := List.forall_mem_cons.1 legal
      obtain ⟨noTag, noQuote, noReturn, legalSource, decodes⟩ := inductionHypothesis legalRest
      rw [List.flatMap_cons]
      obtain ⟨same, notTag, notReference, notQuote, notReturn, notBlank⟩ | ⟨name, same, refers⟩ :=
        escapeValueWrites character
      · rw [same, List.singleton_append]
        refine ⟨by simp [Ne.symm notTag, noTag], by simp [Ne.symm notQuote, noQuote],
          by simp [Ne.symm notReturn, noReturn], List.forall_mem_cons.2 ⟨isLegal, legalSource⟩, ?_⟩
        rw [List.map_cons, notBlank]
        exact .plain notReference decodes
      · have letters := referencedLetters refers
        have absent {other : Char} (notLetter : isReferenceLetter other = false) : other ∉ name :=
          fun isInside => by simp [letters other isInside] at notLetter
        have notBlank : name.map blankToSpace = name :=
          (List.map_congr_left fun letter isInside => letterNotBlank (letters letter isInside)).trans
            (List.map_id name)
        have legalName : AllLegal name := fun letter isInside =>
          (letterPlain (letters letter isInside)).1.1
        have noneOf {other : Char} (notLetter : isReferenceLetter other = false)
            (notEnds : other ≠ '&' ∧ other ≠ ';') (notInRest : other ∉ rest.flatMap escapeValue) :
            other ∉ '&' :: (name ++ [';']) ++ rest.flatMap escapeValue := by
          simp [absent notLetter, notEnds.1, notEnds.2, notInRest]
        rw [same]
        refine ⟨noneOf (by decide) (by decide) noTag, noneOf (by decide) (by decide) noQuote,
          noneOf (by decide) (by decide) noReturn, ?_, ?_⟩
        · exact List.forall_mem_append.2 ⟨List.forall_mem_cons.2 ⟨by decide,
            List.forall_mem_append.2 ⟨legalName, List.forall_mem_singleton.2 (by decide)⟩⟩,
              legalSource⟩
        · have blank : ('&' :: (name ++ [';']) ++ rest.flatMap escapeValue).map blankToSpace =
              '&' :: (name ++ ';' :: (rest.flatMap escapeValue).map blankToSpace) := by
            simp [notBlank, show blankToSpace '&' = '&' by decide,
              show blankToSpace ';' = ';' by decide]
          rw [blank]
          exact .reference refers decodes

end

/-! ### Tags -/

def writeAttribute (found : Attribute) : List Char :=
  writeAssigned found.name.characters found.value

section

variable {outer : Declarations} {heading : Heading}

theorem insideOfTag (heading : Heading) :
    heading.inside = heading.name.characters ++ heading.tag.attributes.flatMap writeAttribute := by
  have same : writeDeclaration = fun declaration =>
      writeAttribute (declarationAttribute declaration) := by
    funext declaration
    unfold writeDeclaration writeAttribute declarationAttribute Declarations.nameOf
    cases declaration.1 <;> rfl
  rw [Heading.inside, Heading.tag, List.flatMap_append, List.flatMap_map, List.append_assoc, same]
  rfl

/-- The end of a tag tells whether it is empty. -/
def tagEnd (isEmpty : Bool) : List Char := if isEmpty then ['/', '>'] else ['>']

theorem attributesSource {attributes : List Attribute}
    (writable : ∀ found ∈ attributes, found.IsWritable) (isEmpty : Bool) :
    AttributesSource attributes isEmpty (attributes.flatMap writeAttribute ++ tagEnd isEmpty) := by
  induction attributes with
  | nil =>
      have noSpaces : AllSpaces [] := nofun
      cases isEmpty with
      | true => exact .empty noSpaces
      | false => exact .closing noSpaces
  | cons found rest inductionHypothesis =>
      obtain ⟨⟨isWritten, legal⟩, writableRest⟩ := List.forall_mem_cons.1 writable
      have source := valueSource legal
      have isAssignment : IsAssignment (found.value.flatMap escapeValue)
          ('=' :: '"' :: (found.value.flatMap escapeValue ++ ['"'])) :=
        ⟨[], [], '"', rfl, nofun, nofun, .inl rfl, source.noQuote⟩
      have decoded : decodeValue? (found.value.flatMap escapeValue) = some found.value :=
        decodeValueIff.2 ⟨source.noTag, source.legal, source.decodes⟩
      have isSource : found.IsSource (found.name.characters ++
          '=' :: '"' :: (found.value.flatMap escapeValue ++ ['"'])) :=
        ⟨_, _, rfl, isWritten, isAssignment, decoded⟩
      have space : AllSpaces [' '] := List.forall_mem_singleton.2 (by decide)
      have written := AttributesSource.another (List.cons_ne_nil _ _) space isSource
        (inductionHypothesis writableRest)
      simpa [writeAttribute, writeAssigned] using written

theorem Heading.IsSound.tagSource (sound : heading.IsSound outer) (isEmpty : Bool) :
    heading.tag.IsSource isEmpty (heading.inside ++ tagEnd isEmpty) := by
  refine ⟨_, ?_, sound.name, attributesSource sound.attributes isEmpty⟩
  rw [insideOfTag, List.append_assoc]
  rfl

theorem Heading.IsSound.noReturn (sound : heading.IsSound outer) (isEmpty : Bool) :
    '\r' ∉ heading.inside ++ tagEnd isEmpty := by
  have inName {name : QualifiedName} (isWritten : name.IsWritten) : '\r' ∉ name.characters :=
    nameAbsent isWritten (by decide)
  have inEnd : '\r' ∉ tagEnd isEmpty := by cases isEmpty <;> decide
  have inAttributes : '\r' ∉ heading.tag.attributes.flatMap writeAttribute := by
    simp only [List.mem_flatMap, not_exists, not_and]
    intro found isInside
    obtain ⟨isWritten, legal⟩ := sound.attributes found isInside
    simp [writeAttribute, writeAssigned, inName isWritten, (valueSource legal).noReturn]
  rw [insideOfTag]
  simp [inName sound.name, inAttributes, inEnd]

end

/-! ### Nodes -/

section

variable {outer : Declarations} {outline opened after : Outline} {heading : Heading}

theorem writeAllFlatMap (nodes : List Node) : Node.writeAll nodes = nodes.flatMap Node.write := by
  induction nodes with
  | nil => rw [Node.writeAll, List.flatMap_nil]
  | cons node rest inductionHypothesis =>
      rw [Node.writeAll, List.flatMap_cons, inductionHypothesis]

/-- A sound element can be opened where its name is resolved. -/
theorem Heading.IsSound.opens (sound : heading.IsSound outer) (agree : outer.Agree outline.declarations)
    (notSecond : (outline.opened.isEmpty && outline.isComplete) = false) :
    ∃ inner, (heading.inner outer).Agree inner ∧
      outline.open? heading.tag = some ⟨⟨heading.name, inner⟩ :: outline.opened, outline.isComplete⟩ := by
  obtain ⟨again, headed⟩ := (sound.agree agree).headed
  refine ⟨heading.inner outline.declarations, agree.append _, ?_⟩
  rw [Outline.open?, headed]
  exact if_neg (by simp [notSecond])

/-- An element whose children pass is written as tags around them. -/
theorem elementPasses {children : List Node} (sound : heading.IsSound outer)
    (opens : outline.open? heading.tag = some opened) (closes : opened.close? heading.name = some after)
    (passes : Passes opened (Node.writeAll children) opened) :
    Passes outline (Node.write (.element heading children)) after := by
  rw [Node.write]
  split
  case isTrue noChildren =>
    have stepped : outline.step? (.empty heading.tag) = some after :=
      Option.bind_eq_some_iff.2 ⟨opened, opens, closes⟩
    have written := Passes.markup (.empty (sound.tagSource true)) (sound.noReturn true) stepped .done
    rwa [List.append_nil] at written
  case isFalse =>
    have noReturn : '\r' ∉ '/' :: (heading.name.characters ++ ['>']) := by
      simp [nameAbsent sound.name (show continuesName '\r' = false by decide)]
    have isSource : (Event.closing heading.name).IsSource
        ('/' :: (heading.name.characters ++ ['>'])) := .closing ⟨[], rfl, sound.name, nofun⟩
    have closing := Passes.markup isSource noReturn (show opened.step? _ = _ from closes) .done
    have written := Passes.markup (.opening (sound.tagSource false)) (sound.noReturn false)
      (show outline.step? _ = _ from opens) (passes.append closing)
    simpa [tagEnd] using written

theorem elementEnds (heading : Heading) (children : List Node) :
    ∃ front, Node.write (.element heading children) = front ++ ['>'] := by
  rw [Node.write]
  split
  · exact ⟨'<' :: (heading.inside ++ ['/']), by simp⟩
  · exact ⟨'<' :: (heading.inside ++ '>' :: (Node.writeAll children ++
      '<' :: '/' :: heading.name.characters)), by simp⟩

theorem commentPasses {content : List Char} (ends : EndsBefore ['-', '-'] content)
    (legal : AllLegal content) (noReturn : '\r' ∉ content) :
    Passes outline (Node.write (.comment content)) outline := by
  have isSource : (Event.comment content).IsSource _ := .comment ends legal
  have stepped : outline.step? (.comment content) = some outline := rfl
  have written := Passes.markup isSource (by simp [noReturn]) stepped .done
  simpa [Node.write] using written

theorem instructionPasses {target content : List Char} (isPart : IsPart target)
    (notReserved : Event.isReserved target = false) (stops : Text.StopsAt isSpace content)
    (ends : EndsBefore ['?', '>'] content) (legal : AllLegal content) (noReturn : '\r' ∉ content) :
    Passes outline (Node.write (.instruction target content)) outline := by
  have noReturnInTarget : '\r' ∉ target := fun isInside =>
    absurd (isPart.continues _ isInside) (by decide)
  have stepped : outline.step? (.instruction target content) = some outline := rfl
  cases content with
  | nil =>
      have noSpaces : AllSpaces [] := nofun
      have isSource : (Event.instruction target []).IsSource _ :=
        .instruction isPart notReserved noSpaces stops (fun _ => rfl) ends legal
      have written := Passes.markup isSource (by simp [noReturnInTarget]) stepped .done
      simpa [Node.write] using written
  | cons first others =>
      have space : AllSpaces [' '] := List.forall_mem_singleton.2 (by decide)
      have endsAfterSpace : EndsBefore ['?', '>'] ([' '] ++ first :: others) :=
        (endsBeforeCons []).2 ⟨by simp, ends⟩
      have isSource : (Event.instruction target (first :: others)).IsSource _ :=
        .instruction isPart notReserved space stops nofun endsAfterSpace
          (List.forall_mem_cons.2 ⟨by decide, legal⟩)
      have written := Passes.markup isSource
        (by simp [noReturnInTarget, List.ne_and_not_mem_of_not_mem_cons noReturn]) stepped .done
      simpa [Node.write] using written

/-- A sound node inside of an element leads back to its outline when it is written. -/
theorem Node.IsSound.passes {node : Node} (sound : node.IsSound outer)
    (agree : outer.Agree outline.declarations) (inside : outline.opened ≠ []) :
    Passes outline node.write outline := by
  induction sound generalizing outline with
  | element isHeading _ inductionHypothesis =>
      obtain ⟨inner, agreeInner, opens⟩ := isHeading.opens agree (by simp [inside])
      refine elementPasses isHeading opens ?_ ?_
      · rw [closeInside inside, if_pos rfl]
      · rw [writeAllFlatMap]
        exact .flatMap fun child isChild =>
          inductionHypothesis child isChild agreeInner (List.cons_ne_nil _ _)
  | text legal =>
      rw [Node.write]
      exact textPasses inside legal
  | comment ends legal noReturn => exact commentPasses ends legal noReturn
  | instruction isPart notReserved stops ends legal noReturn =>
      exact instructionPasses isPart notReserved stops ends legal noReturn

end

/-- A sound root is a document when it is written. -/
theorem writtenReaches {root : Node} (isElement : root.IsElement) (sound : root.IsSound .standard) :
    Reaches (writeDocument root) .complete ∧ (writeDocument root).getLast? = some '>' := by
  obtain ⟨heading, children, rfl⟩ := isElement
  cases sound with
  | element isHeading areChildren =>
      have agreeStart : Declarations.Agree .standard Outline.start.declarations := fun _ => rfl
      obtain ⟨inner, agree, opens⟩ := isHeading.opens agreeStart rfl
      refine ⟨⟨_, rfl, elementPasses isHeading opens ?_ ?_⟩, ?_⟩
      · simp [Outline.close?, Outline.start, Outline.complete]
      · rw [writeAllFlatMap]
        exact .flatMap fun child isChild =>
          (areChildren child isChild).passes agree (List.cons_ne_nil _ _)
      · obtain ⟨front, same⟩ := elementEnds heading children
        rw [writeDocument, same, ← List.append_assoc, List.getLast?_concat]

end Letterpress.Markup
