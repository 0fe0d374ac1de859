import Letterpress.Proofs.Markup.Document
import Letterpress.Proofs.Markup.Event

/-!
This file shows that a document stays the same around a part of one text that is exchanged.
-/

namespace Letterpress.Markup

/-- Two nodes are alike but for a part of one text. -/
inductive Node.Refills (old new : List Char) : Node → Node → Prop
  | text (left right : List Char) :
      Refills old new (.text (left ++ (old ++ right))) (.text (left ++ (new ++ right)))
  | element {heading : Heading} {front back : List Node} {node other : Node}
      (refills : Refills old new node other) :
      Refills old new (.element heading (front ++ node :: back))
        (.element heading (front ++ other :: back))

def ChildrenRefill (old new : List Char) (children others : List Node) : Prop :=
  ∃ front node other back, children = front ++ node :: back ∧ others = front ++ other :: back ∧
    node.Refills old new other

/-- The part of the text is in the root, or in a child of an open element. -/
inductive Building.Refills (old new : List Char) : Building → Building → Prop
  | root {root other : Node} (refills : root.Refills old new other) :
      Refills old new ⟨[], some root⟩ ⟨[], some other⟩
  | pending (inner : List Pending) {outer : List Pending} {heading : Heading}
      {declarations : Declarations} {children others : List Node} {root : Option Node}
      (refill : ChildrenRefill old new children others) :
      Refills old new ⟨inner ++ ⟨heading, declarations, children⟩ :: outer, root⟩
        ⟨inner ++ ⟨heading, declarations, others⟩ :: outer, root⟩

/-- Other character data is decoded to the same text but for one part. -/
def Exchanges (old new raw otherRaw : List Char) : Prop :=
  ∀ content, Event.decodeData? raw = some content →
    ∃ left right, content = left ++ (old ++ right) ∧
      Event.decodeData? otherRaw = some (left ++ (new ++ right))

section

variable {old new : List Char} {children others : List Node} {node other : Node}
  {building next otherBuilding : Building}

/-! ### Children -/

theorem addChildSame (node : Node) (refill : ChildrenRefill old new children others) :
    ChildrenRefill old new (addChild node children) (addChild node others) := by
  obtain ⟨front, child, otherChild, back, rfl, rfl, refills⟩ := refill
  cases node with
  | text second =>
      cases front with
      | nil =>
          cases refills with
          | text left right =>
              refine ⟨[], _, _, back, ?_, ?_, .text left (right ++ second)⟩ <;> simp [addChild]
          | element refills => exact ⟨[.text second], _, _, back, rfl, rfl, .element refills⟩
      | cons first rest =>
          cases first with
          | text content => exact ⟨.text (content ++ second) :: rest, _, _, back, rfl, rfl, refills⟩
          | element => exact ⟨.text second :: _ :: rest, _, _, back, rfl, rfl, refills⟩
          | comment => exact ⟨.text second :: _ :: rest, _, _, back, rfl, rfl, refills⟩
          | instruction => exact ⟨.text second :: _ :: rest, _, _, back, rfl, rfl, refills⟩
  | element => exact ⟨_ :: front, _, _, back, rfl, rfl, refills⟩
  | comment => exact ⟨_ :: front, _, _, back, rfl, rfl, refills⟩
  | instruction => exact ⟨_ :: front, _, _, back, rfl, rfl, refills⟩

theorem addChildRefills (children : List Node) (refills : node.Refills old new other) :
    ChildrenRefill old new (addChild node children) (addChild other children) := by
  cases refills with
  | element refills => exact ⟨[], _, _, children, rfl, rfl, .element refills⟩
  | text left right =>
      cases children with
      | nil => exact ⟨[], _, _, [], rfl, rfl, .text left right⟩
      | cons first rest =>
          cases first with
          | text content =>
              refine ⟨[], _, _, rest, ?_, ?_, .text (content ++ left) right⟩ <;> simp [addChild]
          | element => exact ⟨[], _, _, _, rfl, rfl, .text left right⟩
          | comment => exact ⟨[], _, _, _, rfl, rfl, .text left right⟩
          | instruction => exact ⟨[], _, _, _, rfl, rfl, .text left right⟩

/-! ### Building -/

/-- The same node is added. -/
theorem addSame (refills : building.Refills old new otherBuilding)
    (added : building.add? node = some next) :
    ∃ otherNext, otherBuilding.add? node = some otherNext ∧ next.Refills old new otherNext := by
  cases refills with
  | root refills =>
      cases node with
      | element => exact nomatch added
      | text content =>
          obtain ⟨allSpaces, same⟩ := Option.ite_none_right_eq_some.1 added
          obtain rfl := Option.some.inj same
          exact ⟨_, if_pos allSpaces, .root refills⟩
      | comment =>
          obtain rfl := Option.some.inj added
          exact ⟨_, rfl, .root refills⟩
      | instruction =>
          obtain rfl := Option.some.inj added
          exact ⟨_, rfl, .root refills⟩
  | pending inner refill =>
      cases inner with
      | nil =>
          obtain rfl := Option.some.inj added
          exact ⟨_, rfl, .pending [] (addChildSame node refill)⟩
      | cons innermost inner =>
          obtain rfl := Option.some.inj added
          exact ⟨_, rfl, .pending (_ :: inner) refill⟩

/-- An element that is closed, or a text in an open one, may be added with the part exchanged. -/
theorem addRefills (refills : node.Refills old new other)
    (fits : building.pending = [] → ∃ heading inside, node = .element heading inside)
    (added : building.add? node = some next) :
    ∃ otherNext, building.add? other = some otherNext ∧ next.Refills old new otherNext := by
  obtain ⟨pending, root⟩ := building
  cases pending with
  | cons innermost outer =>
      obtain rfl := Option.some.inj added
      exact ⟨_, rfl, .pending [] (addChildRefills _ refills)⟩
  | nil =>
      obtain ⟨heading, inside, rfl⟩ := fits rfl
      cases root with
      | some _ => exact nomatch added
      | none =>
          obtain rfl := Option.some.inj added
          cases refills with
          | element refills => exact ⟨_, rfl, .root (.element refills)⟩

theorem refillsPending (refills : building.Refills old new otherBuilding) :
    otherBuilding.pending.isEmpty = building.pending.isEmpty ∧
      otherBuilding.root.isSome = building.root.isSome ∧
        otherBuilding.declarations = building.declarations := by
  cases refills with
  | root => exact ⟨rfl, rfl, rfl⟩
  | pending inner => cases inner <;> exact ⟨rfl, rfl, rfl⟩

theorem rootOfRefills {root : Node} (refills : Building.Refills old new ⟨[], some root⟩ otherBuilding) :
    ∃ otherRoot, otherBuilding = ⟨[], some otherRoot⟩ ∧ root.Refills old new otherRoot := by
  generalize same : (⟨[], some root⟩ : Building) = complete at refills
  cases refills with
  | root refills =>
      obtain rfl : root = _ := Option.some.inj (Building.mk.inj same).2
      exact ⟨_, rfl, refills⟩
  | pending inner => cases inner <;> exact nomatch (Building.mk.inj same).1

theorem openSame (refills : building.Refills old new otherBuilding) {tag : Tag}
    (opened : building.open? tag = some next) :
    ∃ otherNext, otherBuilding.open? tag = some otherNext ∧ next.Refills old new otherNext := by
  obtain ⟨sameEmpty, sameRoot, sameDeclarations⟩ := refillsPending refills
  unfold Building.open? at opened ⊢
  rw [sameEmpty, sameRoot, sameDeclarations]
  split at opened
  case h_2 => exact nomatch opened
  case h_1 heading inside headed =>
    obtain ⟨notSecond, same⟩ := Option.ite_none_left_eq_some.1 opened
    obtain rfl := Option.some.inj same
    refine ⟨_, if_neg notSecond, ?_⟩
    cases refills with
    | root => simp at notSecond
    | pending inner refill => exact .pending (_ :: inner) refill

theorem closeSame (refills : building.Refills old new otherBuilding) {name : QualifiedName}
    (closed : building.close? name = some next) :
    ∃ otherNext, otherBuilding.close? name = some otherNext ∧ next.Refills old new otherNext := by
  cases refills with
  | root => exact nomatch closed
  | pending inner refill =>
      cases inner with
      | nil =>
          obtain ⟨sameName, added⟩ := Option.ite_none_right_eq_some.1 closed
          obtain ⟨front, child, otherChild, back, rfl, rfl, refills⟩ := refill
          have reversed (node : Node) :
              (front ++ node :: back).reverse = back.reverse ++ node :: front.reverse := by simp
          simp only [reversed] at added
          obtain ⟨otherNext, otherAdded, refillsNext⟩ :=
            addRefills (.element refills) (fun _ => ⟨_, _, rfl⟩) added
          rw [← reversed] at otherAdded
          exact ⟨otherNext, (if_pos sameName).trans otherAdded, refillsNext⟩
      | cons innermost inner =>
          obtain ⟨sameName, added⟩ := Option.ite_none_right_eq_some.1 closed
          obtain ⟨otherNext, otherAdded, refillsNext⟩ := addSame (.pending inner refill) added
          exact ⟨otherNext, (if_pos sameName).trans otherAdded, refillsNext⟩

theorem addDataSame (refills : building.Refills old new otherBuilding) {raw : List Char}
    (added : building.addData? raw = some next) :
    ∃ otherNext, otherBuilding.addData? raw = some otherNext ∧ next.Refills old new otherNext := by
  unfold Building.addData? at added ⊢
  rw [(refillsPending refills).1]
  split at added
  case isTrue outside =>
    rw [if_pos outside]
    exact addSame refills added
  case isFalse inside =>
    obtain ⟨content, decoded, addedText⟩ := Option.bind_eq_some_iff.1 added
    rw [if_neg inside, decoded]
    exact addSame refills addedText

theorem stepSame (refills : building.Refills old new otherBuilding) {event : Event}
    (stepped : building.step? event = some next) :
    ∃ otherNext, otherBuilding.step? event = some otherNext ∧ next.Refills old new otherNext := by
  cases event with
  | opening tag => exact openSame refills stepped
  | empty tag =>
      obtain ⟨opened, isOpened, closed⟩ := Option.bind_eq_some_iff.1 stepped
      obtain ⟨otherOpened, isOtherOpened, refillsOpened⟩ := openSame refills isOpened
      obtain ⟨otherNext, otherClosed, refillsNext⟩ := closeSame refillsOpened closed
      exact ⟨otherNext, Option.bind_eq_some_iff.2 ⟨_, isOtherOpened, otherClosed⟩, refillsNext⟩
  | closing name => exact closeSame refills stepped
  | data raw => exact addDataSame refills stepped
  | verbatim content =>
      simp only [Building.step?, (refillsPending refills).1] at stepped ⊢
      split at stepped
      case isTrue => exact nomatch stepped
      case isFalse inside =>
        rw [if_neg inside]
        exact addSame refills stepped
  | comment content => exact addSame refills stepped
  | instruction target content => exact addSame refills stepped

theorem stepsSame {events : List Event} (refills : building.Refills old new otherBuilding)
    (stepped : building.steps? events = some next) :
    ∃ otherNext, otherBuilding.steps? events = some otherNext ∧ next.Refills old new otherNext := by
  induction events generalizing building otherBuilding with
  | nil =>
      obtain rfl := Option.some.inj stepped
      exact ⟨otherBuilding, rfl, refills⟩
  | cons event rest inductionHypothesis =>
      rw [Building.steps?] at stepped
      cases stepFirst : building.step? event with
      | none =>
          rw [stepFirst] at stepped
          exact nomatch stepped
      | some middle =>
          rw [stepFirst] at stepped
          obtain ⟨otherMiddle, otherFirst, refillsMiddle⟩ := stepSame refills stepFirst
          obtain ⟨otherNext, otherRest, refillsNext⟩ := inductionHypothesis refillsMiddle stepped
          exact ⟨otherNext, by simp only [Building.steps?, otherFirst, otherRest], refillsNext⟩

section

variable {raw otherRaw : List Char} {before after : List Event}
  (notSpaces : raw.all isSpace = false) (exchanges : Exchanges old new raw otherRaw)

include notSpaces exchanges

/-- Character data of an open element may be exchanged. -/
theorem dataRefills (stepped : building.step? (.data raw) = some next) :
    ∃ otherNext, building.step? (.data otherRaw) = some otherNext ∧ next.Refills old new otherNext := by
  simp only [Building.step?, Building.addData?] at stepped ⊢
  split at stepped
  case isTrue outside =>
    obtain ⟨pending, root⟩ := building
    obtain rfl := List.isEmpty_iff.1 outside
    obtain ⟨allSpaces, -⟩ := Option.ite_none_right_eq_some.1 stepped
    exact absurd allSpaces (by simp [notSpaces])
  case isFalse inside =>
    obtain ⟨content, decoded, added⟩ := Option.bind_eq_some_iff.1 stepped
    obtain ⟨left, right, rfl, otherDecoded⟩ := exchanges content decoded
    rw [if_neg inside, otherDecoded, Option.bind_some]
    apply addRefills (.text left right) _ added
    intro outside
    exact absurd (List.isEmpty_iff.2 outside) inside

/-- The events before the data build the same, and those after it build the same around the data. -/
theorem eventsRefill (stepped : building.steps? (before ++ .data raw :: after) = some next) :
    ∃ otherNext, building.steps? (before ++ .data otherRaw :: after) = some otherNext ∧
      next.Refills old new otherNext := by
  induction before generalizing building with
  | nil =>
      rw [List.nil_append, Building.steps?] at stepped ⊢
      split at stepped
      case h_2 => exact nomatch stepped
      case h_1 middle stepData =>
        obtain ⟨otherMiddle, otherData, refills⟩ := dataRefills notSpaces exchanges stepData
        rw [otherData]
        exact stepsSame refills stepped
  | cons event before inductionHypothesis =>
      rw [List.cons_append, Building.steps?] at stepped ⊢
      split at stepped
      case h_2 => exact nomatch stepped
      case h_1 middle stepFirst => exact inductionHypothesis stepped

/-- A document in which character data is exchanged is a document too, and the same one around it. -/
theorem documentRefills {root : Node} (built : Node.ofEvents? (before ++ .data raw :: after) = some root) :
    ∃ otherRoot, Node.ofEvents? (before ++ .data otherRaw :: after) = some otherRoot ∧
      root.Refills old new otherRoot := by
  unfold Node.ofEvents? at built
  split at built
  case h_2 => exact nomatch built
  case h_1 complete stepped =>
    obtain rfl := Option.some.inj built
    obtain ⟨otherNext, otherStepped, refills⟩ := eventsRefill notSpaces exchanges stepped
    obtain ⟨otherRoot, rfl, refillsRoot⟩ := rootOfRefills refills
    exact ⟨otherRoot, by simp only [Node.ofEvents?, otherStepped], refillsRoot⟩

end

end

/-! ### Contents -/

section

variable {content front back inside left right : List Char} {events before after : List Event}

/-- A content that is not empty begins with its first event. -/
theorem ofContentCases (areEvents : Event.ofContent? content = some events) :
    (content = [] ∧ events = []) ∨ ∃ event rest more, Event.read? content = some (event, rest) ∧
      Event.ofContent? rest = some more ∧ events = event :: more := by
  cases content with
  | nil => exact .inl ⟨rfl, (Option.some.inj areEvents).symm⟩
  | cons first others =>
      cases found : Event.read? (first :: others) with
      | none =>
          rw [Event.ofContent?, List.length_cons, Event.readAll?, found] at areEvents
          · contradiction
          · simp
      | some result =>
          rw [ofContentCons found] at areEvents
          obtain ⟨more, areMore, rfl⟩ := Option.map_eq_some_iff.1 areEvents
          exact .inr ⟨_, _, more, rfl, areMore, rfl⟩

/-- Character data comes from its content. -/
theorem dataOfContent {raw : List Char} (areEvents : Event.ofContent? content = some events)
    (isInside : .data raw ∈ events) : raw ⊆ content := by
  induction events generalizing content with
  | nil => exact nomatch isInside
  | cons event events inductionHypothesis =>
      rcases ofContentCases areEvents with ⟨-, same⟩ | ⟨_, rest, more, found, areMore, same⟩
      · exact nomatch same
      · obtain ⟨rfl, rfl⟩ := List.cons.inj same
        obtain ⟨source, rfl⟩ : ∃ source, content = source ++ rest := by
          rcases sourceOfEvent found with ⟨data, rfl⟩ | ⟨source, rfl, -⟩
          · exact ⟨data, (readDataIff.1 found).1⟩
          · exact ⟨'<' :: source, rfl⟩
        rcases List.mem_cons.1 isInside with rfl | isMore
        · obtain ⟨same, -⟩ := readDataIff.1 found
          rw [List.append_cancel_right same]
          exact List.subset_append_left _ _
        · exact fun character isRaw =>
            List.mem_append_right _ (inductionHypothesis areMore isMore isRaw)

/-- A character that stands in a text once splits it in one way. -/
theorem splitOnce {character : Char} (notInFront : character ∉ front)
    (notInBack : character ∉ back) (same : front ++ character :: back = left ++ character :: right) :
    front = left ∧ back = right := by
  induction front generalizing left with
  | nil =>
      cases left with
      | nil => exact ⟨rfl, (List.cons.inj same).2⟩
      | cons first left =>
          have inBack : character ∈ back := by simp [(List.cons.inj same).2]
          exact absurd inBack notInBack
  | cons first front inductionHypothesis =>
      obtain ⟨notFirst, notInRest⟩ := List.ne_and_not_mem_of_not_mem_cons notInFront
      cases left with
      | nil => exact absurd (List.cons.inj same).1.symm notFirst
      | cons other left =>
          obtain ⟨rfl, sameRest⟩ := List.cons.inj same
          obtain ⟨rfl, rfl⟩ := inductionHypothesis notInRest sameRest
          exact ⟨rfl, rfl⟩

/-- The brackets in character data may be exchanged for other character data. -/
theorem eventsExchanged (notInFront : '[' ∉ front) (notInBack : '[' ∉ back) (notEmpty : inside ≠ [])
    (areData : ∀ character ∈ inside, Event.isData character = true)
    (areEvents : Event.ofContent? (front ++ '[' :: ']' :: back) =
      some (before ++ .data (left ++ '[' :: ']' :: right) :: after)) :
    Event.ofContent? (front ++ (inside ++ back)) =
      some (before ++ .data (left ++ (inside ++ right)) :: after) := by
  have notInTail : '[' ∉ ']' :: back := by simp [notInBack]
  induction before generalizing front with
  | nil =>
      rcases ofContentCases areEvents with ⟨-, same⟩ | ⟨_, rest, more, found, areMore, same⟩
      · exact nomatch same
      · obtain ⟨rfl, rfl⟩ := List.cons.inj same
        obtain ⟨whole, -, dataInside, stops⟩ := readDataIff.1 found
        rw [List.append_assoc, List.cons_append, List.cons_append] at whole
        obtain ⟨rfl, sameTail⟩ := splitOnce notInFront notInTail whole
        obtain rfl := (List.cons.inj sameTail).2
        simp only [List.forall_mem_append, List.forall_mem_cons] at dataInside
        have found : Event.read? (front ++ (inside ++ (right ++ rest))) =
            some (.data (front ++ (inside ++ right)), rest) := by
          apply readDataIff.2
          refine ⟨by simp, by simp [notEmpty], ?_, stops⟩
          simp only [List.forall_mem_append]
          exact ⟨dataInside.1, areData, dataInside.2.2.2⟩
        rw [ofContentCons found, areMore]
        rfl
  | cons event before inductionHypothesis =>
      rcases ofContentCases areEvents with ⟨-, same⟩ | ⟨_, rest, more, found, areMore, same⟩
      · exact nomatch same
      · obtain ⟨rfl, rfl⟩ := List.cons.inj same
        have isMore : Event.data (left ++ '[' :: ']' :: right) ∈
            before ++ .data (left ++ '[' :: ']' :: right) :: after := by simp
        have inRest : '[' ∈ rest := dataOfContent areMore isMore (by simp)
        -- What is read first stands before the bracket, for the bracket is in the data.
        have afterSource {source : List Char} (whole : front ++ '[' :: ']' :: back = source ++ rest) :
            ∃ remaining, front = source ++ remaining ∧ rest = remaining ++ '[' :: ']' :: back := by
          rcases Text.inBeginningOrAfter whole.symm with isAfter | ⟨remaining, rfl⟩
          · exact isAfter
          · rw [List.append_assoc, List.append_cancel_left_eq, List.cons_append] at whole
            apply absurd _ notInTail
            rw [(List.cons.inj whole).2]
            exact List.mem_append_right _ inRest
        rcases sourceOfEvent found with ⟨raw, rfl⟩ | ⟨source, whole, isSource⟩
        · obtain ⟨whole, rawNotEmpty, rawData, stops⟩ := readDataIff.1 found
          obtain ⟨remaining, rfl, rfl⟩ := afterSource whole
          have notInRemaining : '[' ∉ remaining := fun isInside =>
            notInFront (List.mem_append_right _ isInside)
          have stopsOther : Text.StopsAt Event.isData (remaining ++ (inside ++ back)) := by
            cases remaining with
            | nil => exact absurd (stops '[' rfl) (by decide)
            | cons first others => exact Text.stopsAtCons (stops first rfl)
          have found : Event.read? (raw ++ (remaining ++ (inside ++ back))) =
              some (.data raw, remaining ++ (inside ++ back)) :=
            readDataIff.2 ⟨rfl, rawNotEmpty, rawData, stopsOther⟩
          rw [List.append_assoc, ofContentCons found, inductionHypothesis notInRemaining areMore]
          rfl
        · obtain ⟨remaining, rfl, rfl⟩ := afterSource (whole.trans (List.cons_append ..).symm)
          have notInRemaining : '[' ∉ remaining := fun isInside =>
            notInFront (List.mem_append_right _ isInside)
          rw [List.append_assoc, List.cons_append, ofContentCons (eventOfSource isSource _),
            inductionHypothesis notInRemaining areMore]
          rfl

end

end Letterpress.Markup
