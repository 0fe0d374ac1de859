import Letterpress.Markup.Node
import Mathlib.Data.List.Forall2

/-!
This file compares documents up to their texts. What is built from events has the same frame when the
texts of the events are exchanged.
-/

namespace Letterpress.Markup

/-- The frame of an event is all of it but the characters of a text. -/
def Event.frame : Event → Event
  | data _ => data []
  | verbatim _ => verbatim []
  | event => event

/-- Character data is one kind of text, and verbatim data is the other one. -/
def Event.isText : Event → Bool
  | data _ => true
  | verbatim _ => true
  | _ => false

mutual

/-- The frame of a node is all of it but the characters of its texts. -/
def Node.frame : Node → Node
  | .element heading children => .element heading (Node.framesOf children)
  | .text _ => .text []
  | .comment content => .comment content
  | .instruction target content => .instruction target content

def Node.framesOf : List Node → List Node
  | [] => []
  | node :: rest => node.frame :: Node.framesOf rest

end

/-- An event stands for another one if both are the same markup, or if both are texts and the second
one is fit for the place of the first. -/
inductive Event.StandsFor : Event → Event → Prop
  | data {raw other : List Char} (spaces : raw.all isSpace = true → other.all isSpace = true)
      (decodable : (decodeData? raw).isSome = true → (decodeData? other).isSome = true) :
      StandsFor (.data other) (.data raw)
  | verbatim (content other : List Char) : StandsFor (.verbatim other) (.verbatim content)
  | markup (event : Event) : StandsFor event event

def Pending.frame (pending : Pending) : Pending :=
  { pending with children := pending.children.map Node.frame }

def Building.frame (building : Building) : Building :=
  ⟨building.pending.map Pending.frame, building.root.map Node.frame⟩

theorem framesOfMap (nodes : List Node) : Node.framesOf nodes = nodes.map Node.frame := by
  induction nodes with
  | nil => rw [Node.framesOf, List.map_nil]
  | cons node rest inductionHypothesis => rw [Node.framesOf, inductionHypothesis, List.map_cons]

/-! ### Building -/

section

variable {building other next : Building} {node otherNode : Node}

theorem Event.StandsFor.sameFrame {event stand : Event} (standsFor : stand.StandsFor event) :
    stand.frame = event.frame := by
  cases standsFor <;> rfl

/-- Markup that is no text is determined by its frame. -/
theorem eventOfFrame {event other : Event} (noText : event.isText = false)
    (same : other.frame = event.frame) : other = event := by
  cases event <;> cases other <;> simp_all [Event.isText, Event.frame]

theorem addChildFrame (child : Node) (children : List Node) :
    (addChild child children).map Node.frame = addChild child.frame (children.map Node.frame) := by
  cases child with
  | text second =>
      cases children with
      | nil => rfl
      | cons first rest => cases first <;> simp [addChild, Node.frame]
  | element heading inner => simp [addChild, Node.frame]
  | comment content => simp [addChild, Node.frame]
  | instruction target content => simp [addChild, Node.frame]

/-- Pending elements with the same frame differ in the texts of their children only. -/
theorem pendingOfFrame {first second : Pending} (same : first.frame = second.frame) :
    first.heading = second.heading ∧ first.declarations = second.declarations ∧
      first.children.map Node.frame = second.children.map Node.frame := by
  obtain ⟨heading, declarations, children⟩ := first
  obtain ⟨otherHeading, otherDeclarations, otherChildren⟩ := second
  simpa [Pending.frame] using same

theorem addSimulates (same : other.frame = building.frame) (sameNode : otherNode.frame = node.frame)
    (fits : ∀ content, building.pending = [] → otherNode = .text content →
      content.all isSpace = true) (added : building.add? node = some next) :
    ∃ otherNext, other.add? otherNode = some otherNext ∧ otherNext.frame = next.frame := by
  obtain ⟨pending, root⟩ := building
  obtain ⟨otherPending, otherRoot⟩ := other
  obtain ⟨samePending, sameRoot⟩ : otherPending.map Pending.frame = pending.map Pending.frame ∧
      otherRoot.map Node.frame = root.map Node.frame := by simpa [Building.frame] using same
  cases pending with
  | cons innermost outer =>
      cases otherPending with
      | nil => exact nomatch samePending
      | cons otherInnermost otherOuter =>
          obtain ⟨sameInnermost, sameOuter⟩ := List.cons.inj samePending
          obtain ⟨sameHeading, sameDeclarations, sameChildren⟩ := pendingOfFrame sameInnermost
          obtain rfl := Option.some.inj added
          refine ⟨_, rfl, ?_⟩
          simp only [Building.frame, List.map_cons, Pending.frame, addChildFrame, sameHeading,
            sameDeclarations, sameChildren, sameNode, sameRoot, sameOuter]
  | nil =>
      obtain rfl := List.map_eq_nil_iff.1 samePending
      cases node with
      | element heading children =>
          cases root with
          | some _ => exact nomatch added
          | none =>
              obtain rfl := Option.map_eq_none_iff.1 sameRoot
              obtain rfl := Option.some.inj added
              cases otherNode <;> simp only [Node.frame, reduceCtorEq] at sameNode
              exact ⟨_, rfl, by simp [Building.frame, Node.frame, sameNode]⟩
      | text content =>
          obtain ⟨-, sameNext⟩ := Option.ite_none_right_eq_some.1 added
          obtain rfl := Option.some.inj sameNext
          cases otherNode <;> simp only [Node.frame, reduceCtorEq] at sameNode
          exact ⟨_, if_pos (fits _ rfl rfl), same⟩
      | comment content =>
          obtain rfl := Option.some.inj added
          cases otherNode <;> simp only [Node.frame, reduceCtorEq] at sameNode
          exact ⟨_, rfl, same⟩
      | instruction target content =>
          obtain rfl := Option.some.inj added
          cases otherNode <;> simp only [Node.frame, reduceCtorEq] at sameNode
          exact ⟨_, rfl, same⟩

theorem pendingEmpty (same : other.frame = building.frame) :
    other.pending.isEmpty = building.pending.isEmpty := by
  have sameLength := congrArg (List.length ∘ Building.pending) same
  simp only [Function.comp_apply, Building.frame, List.length_map] at sameLength
  rw [Bool.eq_iff_iff, List.isEmpty_iff_length_eq_zero, List.isEmpty_iff_length_eq_zero, sameLength]

theorem sameDeclarations (same : other.frame = building.frame) :
    other.declarations = building.declarations := by
  obtain ⟨pending, root⟩ := building
  obtain ⟨otherPending, otherRoot⟩ := other
  have samePending : otherPending.map Pending.frame = pending.map Pending.frame :=
    congrArg Building.pending same
  cases pending with
  | nil =>
      obtain rfl := List.map_eq_nil_iff.1 samePending
      rfl
  | cons innermost outer =>
      cases otherPending with
      | nil => exact nomatch samePending
      | cons otherInnermost otherOuter =>
          exact (pendingOfFrame (List.cons.inj samePending).1).2.1

theorem openSimulates (same : other.frame = building.frame) {tag : Tag}
    (opened : building.open? tag = some next) :
    ∃ otherNext, other.open? tag = some otherNext ∧ otherNext.frame = next.frame := by
  have sameRoot : other.root.isSome = building.root.isSome := by
    have sameFrame := congrArg (Option.isSome ∘ Building.root) same
    simpa [Building.frame] using sameFrame
  unfold Building.open? at opened ⊢
  rw [sameDeclarations same, pendingEmpty same, sameRoot]
  cases headed : Heading.ofTag? building.declarations tag with
  | none =>
      rw [headed] at opened
      exact nomatch opened
  | some result =>
      simp only [headed, Option.ite_none_left_eq_some] at opened ⊢
      obtain ⟨notSecond, sameNext⟩ := opened
      obtain rfl := Option.some.inj sameNext
      refine ⟨_, ⟨notSecond, rfl⟩, ?_⟩
      have samePending : other.pending.map Pending.frame = building.pending.map Pending.frame :=
        congrArg Building.pending same
      have sameRootFrame : other.root.map Node.frame = building.root.map Node.frame :=
        congrArg Building.root same
      simp [Building.frame, samePending, sameRootFrame]

theorem closeSimulates (same : other.frame = building.frame) {name : QualifiedName}
    (closed : building.close? name = some next) :
    ∃ otherNext, other.close? name = some otherNext ∧ otherNext.frame = next.frame := by
  obtain ⟨pending, root⟩ := building
  obtain ⟨otherPending, otherRoot⟩ := other
  obtain ⟨samePending, sameRoot⟩ : otherPending.map Pending.frame = pending.map Pending.frame ∧
      otherRoot.map Node.frame = root.map Node.frame := by simpa [Building.frame] using same
  cases pending with
  | nil => exact nomatch closed
  | cons innermost outer =>
      cases otherPending with
      | nil => exact nomatch samePending
      | cons otherInnermost otherOuter =>
          obtain ⟨sameInnermost, sameOuter⟩ := List.cons.inj samePending
          obtain ⟨sameHeading, -, sameChildren⟩ := pendingOfFrame sameInnermost
          obtain ⟨sameName, added⟩ := Option.ite_none_right_eq_some.1 closed
          have sameElement : (Node.element otherInnermost.heading otherInnermost.children.reverse).frame =
              (Node.element innermost.heading innermost.children.reverse).frame := by
            simp only [Node.frame, framesOfMap, List.map_reverse, sameHeading, sameChildren]
          have sameOutside : (Building.mk otherOuter otherRoot).frame =
              (Building.mk outer root).frame := by
            simp only [Building.frame, sameOuter, sameRoot]
          obtain ⟨otherNext, otherAdded, sameNext⟩ :=
            addSimulates sameOutside sameElement (fun _ _ => nofun) added
          exact ⟨otherNext, by simpa [Building.close?, sameHeading, sameName] using otherAdded, sameNext⟩

theorem addDataSimulates (same : other.frame = building.frame) {raw otherRaw : List Char}
    (spaces : raw.all isSpace = true → otherRaw.all isSpace = true)
    (decodable : (Event.decodeData? raw).isSome = true → (Event.decodeData? otherRaw).isSome = true)
    (added : building.addData? raw = some next) :
    ∃ otherNext, other.addData? otherRaw = some otherNext ∧ otherNext.frame = next.frame := by
  unfold Building.addData? at added ⊢
  rw [pendingEmpty same]
  split at added
  case isTrue outside =>
    have allSpaces : raw.all isSpace = true := by
      obtain ⟨pending, root⟩ := building
      obtain rfl := List.isEmpty_iff.1 outside
      exact (Option.ite_none_right_eq_some.1 added).1
    have sameText : (Node.text otherRaw).frame = (Node.text raw).frame := by simp only [Node.frame]
    rw [if_pos outside]
    refine addSimulates same sameText (fun content _ sameContent => ?_) added
    exact Node.text.inj sameContent ▸ spaces allSpaces
  case isFalse inside =>
    obtain ⟨content, decoded, addedText⟩ := Option.bind_eq_some_iff.1 added
    obtain ⟨otherContent, otherDecoded⟩ :=
      Option.isSome_iff_exists.1 (decodable (Option.isSome_of_eq_some decoded))
    have sameText : (Node.text otherContent).frame = (Node.text content).frame := by
      simp only [Node.frame]
    rw [if_neg inside, otherDecoded, Option.bind_some]
    refine addSimulates same sameText (fun _ empty => ?_) addedText
    exact absurd (List.isEmpty_iff.2 empty) inside

theorem addVerbatimSimulates (same : other.frame = building.frame) {content : List Char}
    (otherContent : List Char) (stepped : building.step? (.verbatim content) = some next) :
    ∃ otherNext, other.step? (.verbatim otherContent) = some otherNext ∧
      otherNext.frame = next.frame := by
  have sameText : (Node.text otherContent).frame = (Node.text content).frame := by
    simp only [Node.frame]
  simp only [Building.step?, pendingEmpty same, Option.ite_none_left_eq_some] at stepped ⊢
  obtain ⟨inside, added⟩ := stepped
  obtain ⟨otherNext, otherAdded, sameNext⟩ := addSimulates same sameText
    (fun _ empty => absurd (List.isEmpty_iff.2 empty) inside) added
  exact ⟨otherNext, ⟨inside, otherAdded⟩, sameNext⟩

theorem stepSimulates {event stand : Event} (same : other.frame = building.frame)
    (standsFor : stand.StandsFor event) (stepped : building.step? event = some next) :
    ∃ otherNext, other.step? stand = some otherNext ∧ otherNext.frame = next.frame := by
  cases standsFor with
  | data spaces decodable => exact addDataSimulates same spaces decodable stepped
  | verbatim content otherContent => exact addVerbatimSimulates same otherContent stepped
  | markup =>
      cases event with
      | opening tag => exact openSimulates same stepped
      | empty tag =>
          obtain ⟨opened, isOpened, closed⟩ := Option.bind_eq_some_iff.1 stepped
          obtain ⟨otherOpened, isOtherOpened, sameOpened⟩ := openSimulates same isOpened
          obtain ⟨otherNext, otherClosed, sameNext⟩ := closeSimulates sameOpened closed
          exact ⟨otherNext, Option.bind_eq_some_iff.2 ⟨_, isOtherOpened, otherClosed⟩, sameNext⟩
      | closing name => exact closeSimulates same stepped
      | data raw => exact addDataSimulates same id id stepped
      | verbatim content => exact addVerbatimSimulates same content stepped
      | comment content => exact addSimulates same rfl (fun _ _ => nofun) stepped
      | instruction target content => exact addSimulates same rfl (fun _ _ => nofun) stepped

theorem stepsSimulate {events stands : List Event} (same : other.frame = building.frame)
    (standFor : List.Forall₂ Event.StandsFor stands events)
    (stepped : building.steps? events = some next) :
    ∃ otherNext, other.steps? stands = some otherNext ∧ otherNext.frame = next.frame := by
  induction standFor generalizing building other with
  | nil =>
      obtain rfl := Option.some.inj stepped
      exact ⟨other, rfl, same⟩
  | @cons stand event stands events standsFor _ inductionHypothesis =>
      rw [Building.steps?] at stepped
      cases stepFirst : building.step? event with
      | none =>
          rw [stepFirst] at stepped
          exact nomatch stepped
      | some middle =>
          rw [stepFirst] at stepped
          obtain ⟨otherMiddle, otherFirst, sameMiddle⟩ := stepSimulates same standsFor stepFirst
          obtain ⟨otherNext, otherRest, sameNext⟩ := inductionHypothesis sameMiddle stepped
          exact ⟨otherNext, by simp only [Building.steps?, otherFirst, otherRest], sameNext⟩

/-- Events that stand for the events of a document build a document of the same frame. -/
theorem frameOfStands {events stands : List Event} {root : Node}
    (standFor : List.Forall₂ Event.StandsFor stands events)
    (built : Node.ofEvents? events = some root) :
    ∃ otherRoot, Node.ofEvents? stands = some otherRoot ∧ otherRoot.frame = root.frame := by
  unfold Node.ofEvents? at built
  split at built
  case h_2 => exact nomatch built
  case h_1 complete stepped =>
    obtain rfl := Option.some.inj built
    obtain ⟨⟨pending, otherRoot⟩, otherStepped, sameNext⟩ := stepsSimulate rfl standFor stepped
    obtain ⟨samePending, sameRoot⟩ : pending.map Pending.frame = [] ∧
        otherRoot.map Node.frame = some complete.frame := by simpa [Building.frame] using sameNext
    obtain rfl := List.map_eq_nil_iff.1 samePending
    obtain ⟨otherComplete, rfl, sameComplete⟩ := Option.map_eq_some_iff.1 sameRoot
    exact ⟨otherComplete, by simp only [Node.ofEvents?, otherStepped], sameComplete⟩

end

end Letterpress.Markup
