import Letterpress.Markup.Document
import Letterpress.Proofs.Markup.Heading

/-!
This file reduces the building of documents to the elements that are open. Whether an event fits
depends on them alone, and balanced content leaves them as they are.
-/

namespace Letterpress.Markup

/-- An open element is known by its name and by the declarations inside of it. -/
structure OpenElement where
  name : QualifiedName
  declarations : Declarations

/-- The outline of a document has its open elements, the innermost first, and tells whether the
root has been closed. -/
structure Outline where
  opened : List OpenElement
  isComplete : Bool

def Pending.element (pending : Pending) : OpenElement :=
  ⟨pending.heading.name, pending.declarations⟩

def Building.outline (building : Building) : Outline :=
  ⟨building.pending.map Pending.element, building.root.isSome⟩

namespace Outline

def start : Outline := ⟨[], false⟩

def complete : Outline := ⟨[], true⟩

def declarations (outline : Outline) : Declarations :=
  match outline.opened with
  | innermost :: _ => innermost.declarations
  | [] => Declarations.standard

def open? (outline : Outline) (tag : Tag) : Option Outline :=
  match Heading.ofTag? outline.declarations tag with
  | some (_, inner) =>
      if outline.opened.isEmpty && outline.isComplete then none
      else some { outline with opened := ⟨tag.name, inner⟩ :: outline.opened }
  | none => none

/-- The root is complete when no element is left open. There is only one. -/
def close? (outline : Outline) (name : QualifiedName) : Option Outline :=
  match outline.opened with
  | innermost :: outer =>
      if innermost.name = name then
        if outer.isEmpty && outline.isComplete then none
        else some ⟨outer, outer.isEmpty || outline.isComplete⟩
      else none
  | [] => none

/-- Only blanks stand outside of the root. -/
def admitsData (outline : Outline) (raw : List Char) : Bool :=
  if outline.opened.isEmpty then raw.all isSpace else (Event.decodeData? raw).isSome

def step? (outline : Outline) : Event → Option Outline
  | .opening tag => outline.open? tag
  | .empty tag => (outline.open? tag).bind fun opened => opened.close? tag.name
  | .closing name => outline.close? name
  | .data raw => if outline.admitsData raw then some outline else none
  | .verbatim _ => if outline.opened.isEmpty then none else some outline
  | .comment _ => some outline
  | .instruction .. => some outline

def steps? (outline : Outline) (events : List Event) : Option Outline :=
  events.foldlM step? outline

end Outline

/-- The names of the elements that are open inside of a content, given those before an event. -/
def Event.nest? (opened : List QualifiedName) : Event → Option (List QualifiedName)
  | opening tag => some (tag.name :: opened)
  | closing name =>
      match opened with
      | innermost :: outer => if innermost = name then some outer else none
      | [] => none
  | _ => some opened

/-- A balanced content closes what it opens and nothing else. -/
def IsBalanced (content : List Char) : Prop :=
  ∃ events, Event.ofContent? (normalizeLines content) = some events ∧
    events.foldlM Event.nest? [] = some []

/-! ### Building keeps to the outline -/

section

variable (building : Building)

theorem outlineDeclarations : building.outline.declarations = building.declarations := by
  obtain ⟨pending, root⟩ := building
  cases pending <;> rfl

theorem outlineEmpty : building.outline.opened.isEmpty = building.pending.isEmpty :=
  List.isEmpty_map

theorem openOutline (tag : Tag) :
    (building.open? tag).map Building.outline = building.outline.open? tag := by
  rw [Building.open?, Outline.open?, outlineDeclarations, outlineEmpty]
  cases headed : Heading.ofTag? building.declarations tag with
  | none => rfl
  | some result =>
      obtain ⟨heading, inner⟩ := result
      have sameName := headingName headed
      by_cases isSecond : (building.pending.isEmpty && building.root.isSome) = true
      · exact (congrArg _ (if_pos isSecond)).trans (if_pos isSecond).symm
      · refine (congrArg _ (if_neg isSecond)).trans (Eq.trans ?_ (if_neg isSecond).symm)
        simp [Building.outline, Pending.element, sameName]

theorem closeOutline (name : QualifiedName) :
    (building.close? name).map Building.outline = building.outline.close? name := by
  obtain ⟨pending, root⟩ := building
  cases pending with
  | nil => rfl
  | cons innermost outer =>
      simp only [Building.close?, Outline.close?, Building.outline, List.map_cons, Pending.element]
      split
      · cases outer with
        | nil => cases root <;> rfl
        | cons next others => rfl
      · rfl

theorem dataOutline (raw : List Char) :
    (building.addData? raw).map Building.outline = building.outline.step? (.data raw) := by
  obtain ⟨pending, root⟩ := building
  cases pending with
  | nil =>
      change Option.map Building.outline (if raw.all isSpace then some ⟨[], root⟩ else none) =
        if raw.all isSpace then some ⟨[], root.isSome⟩ else none
      split <;> rfl
  | cons innermost outer =>
      change Option.map Building.outline ((Event.decodeData? raw).bind fun content => _) =
        if (Event.decodeData? raw).isSome then _ else none
      cases Event.decodeData? raw <;> rfl

theorem leafOutline {node : Node} (isLeaf : ∀ heading children, node ≠ .element heading children)
    (notText : ∀ content, node ≠ .text content) :
    (building.add? node).map Building.outline = some building.outline := by
  obtain ⟨pending, root⟩ := building
  cases pending with
  | cons innermost outer => rfl
  | nil =>
      cases node with
      | element heading children => exact absurd rfl (isLeaf _ _)
      | text content => exact absurd rfl (notText _)
      | comment content => rfl
      | instruction target content => rfl

/-- One event changes the outline of what is built like the outline alone. -/
theorem stepOutline (event : Event) :
    (building.step? event).map Building.outline = building.outline.step? event := by
  cases event with
  | opening tag => exact openOutline building tag
  | empty tag =>
      simp only [Building.step?, Outline.step?, ← openOutline, Option.map_bind, Option.bind_map]
      exact congrArg _ (funext fun opened => closeOutline opened tag.name)
  | closing name => exact closeOutline building name
  | data raw => exact dataOutline building raw
  | verbatim content =>
      obtain ⟨pending, root⟩ := building
      cases pending <;> rfl
  | comment content => exact leafOutline building (by simp) (by simp)
  | instruction target content => exact leafOutline building (by simp) (by simp)

theorem stepsOutline (events : List Event) :
    (building.steps? events).map Building.outline = building.outline.steps? events := by
  induction events generalizing building with
  | nil => rfl
  | cons event rest inductionHypothesis =>
      rw [Building.steps?, Outline.steps?, List.foldlM_cons, ← stepOutline]
      cases building.step? event with
      | none => rfl
      | some next => exact inductionHypothesis next

end

/-! ### Names that are resolved -/

/-- The declarations inside of an element resolve its name and the qualifier of the notation. -/
structure OpenElement.Resolves (element : OpenElement) : Prop where
  name : (element.declarations.resolve? element.name.qualifier).isSome = true
  markup : (element.declarations.resolve? "xml".toList).isSome = true

def Outline.Resolves (outline : Outline) : Prop :=
  ∀ element ∈ outline.opened, element.Resolves

section

variable {outline next : Outline}

theorem resolvesOuter {own outer : Declarations}
    (resolves : (outer.resolve? "xml".toList).isSome = true) :
    (Declarations.resolve? (own ++ outer) "xml".toList).isSome = true := by
  unfold Declarations.resolve? at resolves ⊢
  rw [List.lookup_append]
  cases own.lookup "xml".toList with
  | some address => rfl
  | none => exact resolves

theorem Outline.Resolves.declarations (resolves : outline.Resolves) :
    (outline.declarations.resolve? "xml".toList).isSome = true := by
  obtain ⟨opened, isComplete⟩ := outline
  cases opened with
  | nil => rfl
  | cons innermost outer => exact (resolves innermost (by simp)).markup

theorem resolvesOpen {tag : Tag} (resolves : outline.Resolves)
    (opened : outline.open? tag = some next) : next.Resolves := by
  unfold Outline.open? at opened
  split at opened
  case h_2 => exact nomatch opened
  case h_1 heading inner headed =>
    obtain ⟨-, same⟩ := Option.ite_none_left_eq_some.1 opened
    obtain rfl := Option.some.inj same
    obtain ⟨rfl, address, _, resolved, -⟩ := ofTagIff.1 headed
    refine List.forall_mem_cons.2 ⟨⟨?_, resolvesOuter resolves.declarations⟩, resolves⟩
    exact Option.isSome_of_eq_some resolved

theorem resolvesClose {name : QualifiedName} (resolves : outline.Resolves)
    (closed : outline.close? name = some next) : next.Resolves := by
  obtain ⟨opened, isComplete⟩ := outline
  cases opened with
  | nil => exact nomatch closed
  | cons innermost outer =>
      obtain ⟨-, closedOne⟩ := Option.ite_none_right_eq_some.1 closed
      obtain ⟨-, same⟩ := Option.ite_none_left_eq_some.1 closedOne
      obtain rfl := Option.some.inj same
      exact fun element isInside => resolves element (List.mem_cons_of_mem _ isInside)

theorem resolvesStep {event : Event} (resolves : outline.Resolves)
    (stepped : outline.step? event = some next) : next.Resolves := by
  cases event with
  | opening tag => exact resolvesOpen resolves stepped
  | empty tag =>
      obtain ⟨opened, isOpened, closed⟩ := Option.bind_eq_some_iff.1 stepped
      exact resolvesClose (resolvesOpen resolves isOpened) closed
  | closing name => exact resolvesClose resolves stepped
  | data raw =>
      obtain ⟨-, same⟩ := Option.ite_none_right_eq_some.1 stepped
      exact Option.some.inj same ▸ resolves
  | verbatim content =>
      obtain ⟨-, same⟩ := Option.ite_none_left_eq_some.1 stepped
      exact Option.some.inj same ▸ resolves
  | comment content => exact Option.some.inj stepped ▸ resolves
  | instruction target content => exact Option.some.inj stepped ▸ resolves

end

/-- Events that complete the outline build a document. -/
theorem documentOfOutline {events : List Event}
    (completes : Outline.start.steps? events = some .complete) :
    (Node.ofEvents? events).isSome = true := by
  have built := stepsOutline Building.start events
  rw [show Building.start.outline = Outline.start from rfl, completes] at built
  obtain ⟨⟨pending, root⟩, isBuilt, isOutline⟩ := Option.map_eq_some_iff.1 built
  obtain ⟨noPending, isRoot⟩ := Outline.mk.inj isOutline
  obtain rfl := List.map_eq_nil_iff.1 noPending
  obtain ⟨node, rfl⟩ := Option.isSome_iff_exists.1 isRoot
  rw [Node.ofEvents?, isBuilt]
  rfl

/-! ### Balanced content -/

section

variable {front base : List OpenElement} {isComplete : Bool} {names : List QualifiedName}
  {after : Outline}

theorem closeInside {innermost : OpenElement} {outer : List OpenElement} (notEmpty : outer ≠ [])
    (isComplete : Bool) (name : QualifiedName) :
    Outline.close? ⟨innermost :: outer, isComplete⟩ name =
      if innermost.name = name then some ⟨outer, isComplete⟩ else none := by
  simp only [Outline.close?, List.isEmpty_eq_false_iff.2 notEmpty, Bool.false_and, Bool.false_or,
    Bool.false_eq_true, if_false]

/-- One event of a content changes the elements that are open inside of the content only. -/
theorem nestStep {event : Event} (notEmpty : base ≠ [])
    (nests : event.nest? (front.map OpenElement.name) = some names)
    (stepped : Outline.step? ⟨front ++ base, isComplete⟩ event = some after) :
    ∃ inside, after = ⟨inside ++ base, isComplete⟩ ∧ names = inside.map OpenElement.name := by
  have opens {tag : Tag} {opened : Outline}
      (isOpened : Outline.open? ⟨front ++ base, isComplete⟩ tag = some opened) :
      ∃ inner, opened = ⟨⟨tag.name, inner⟩ :: (front ++ base), isComplete⟩ := by
    unfold Outline.open? at isOpened
    split at isOpened
    case h_1 inner _ =>
      obtain ⟨-, same⟩ := Option.ite_none_left_eq_some.1 isOpened
      exact ⟨inner, (Option.some.inj same).symm⟩
    case h_2 => exact nomatch isOpened
  cases event with
  | opening tag =>
      obtain ⟨inner, rfl⟩ := opens stepped
      exact ⟨⟨tag.name, inner⟩ :: front, rfl, (Option.some.inj nests).symm⟩
  | empty tag =>
      obtain ⟨opened, isOpened, closed⟩ := Option.bind_eq_some_iff.1 stepped
      obtain ⟨inner, rfl⟩ := opens isOpened
      rw [closeInside (List.append_ne_nil_of_right_ne_nil front notEmpty), if_pos rfl] at closed
      exact ⟨front, (Option.some.inj closed).symm, (Option.some.inj nests).symm⟩
  | closing name =>
      cases front with
      | nil => exact nomatch nests
      | cons innermost outer =>
          simp only [List.map_cons, Event.nest?, Option.ite_none_right_eq_some,
            Option.some.injEq] at nests
          rw [Outline.step?, List.cons_append,
            closeInside (List.append_ne_nil_of_right_ne_nil outer notEmpty)] at stepped
          obtain ⟨-, same⟩ := Option.ite_none_right_eq_some.1 stepped
          exact ⟨outer, (Option.some.inj same).symm, nests.2.symm⟩
  | data raw =>
      obtain ⟨-, same⟩ := Option.ite_none_right_eq_some.1 stepped
      exact ⟨front, (Option.some.inj same).symm, (Option.some.inj nests).symm⟩
  | verbatim content =>
      obtain ⟨-, same⟩ := Option.ite_none_left_eq_some.1 stepped
      exact ⟨front, (Option.some.inj same).symm, (Option.some.inj nests).symm⟩
  | comment content => exact ⟨front, (Option.some.inj stepped).symm, (Option.some.inj nests).symm⟩
  | instruction target content =>
      exact ⟨front, (Option.some.inj stepped).symm, (Option.some.inj nests).symm⟩

theorem nestSteps {events : List Event} (notEmpty : base ≠ [])
    (nests : events.foldlM Event.nest? (front.map OpenElement.name) = some names)
    (stepped : Outline.steps? ⟨front ++ base, isComplete⟩ events = some after) :
    ∃ inside, after = ⟨inside ++ base, isComplete⟩ ∧ names = inside.map OpenElement.name := by
  induction events generalizing front with
  | nil => exact ⟨front, (Option.some.inj stepped).symm, (Option.some.inj nests).symm⟩
  | cons event rest inductionHypothesis =>
      obtain ⟨between, nestsFirst, nestsRest⟩ := Option.bind_eq_some_iff.1 nests
      obtain ⟨middle, steppedFirst, steppedRest⟩ := Option.bind_eq_some_iff.1 stepped
      obtain ⟨inside, rfl, rfl⟩ := nestStep notEmpty nestsFirst steppedFirst
      exact inductionHypothesis nestsRest steppedRest

/-- Balanced content inside of an element leaves the outline as it is. -/
theorem balancedStays {events : List Event} {outline : Outline} (inside : outline.opened ≠ [])
    (nests : events.foldlM Event.nest? [] = some [])
    (stepped : outline.steps? events = some after) : after = outline := by
  have nestsFront : events.foldlM Event.nest? (List.map OpenElement.name []) = some [] := nests
  obtain ⟨names, rfl, isEmpty⟩ := nestSteps inside nestsFront stepped
  rw [List.map_eq_nil_iff.1 isEmpty.symm, List.nil_append]

end

end Letterpress.Markup
