import Letterpress.Proofs.Script.MemberChange
import Letterpress.Proofs.Script.Privacy

/-!
This file shows that scripts do not change what is hidden from them, and tells what is within reach of
a script. A hidden container holds the same after a run as before it, however the run ends. Scripts
follow the contents of containers, and applications hand out values; what is out of reach stays as it
is.
-/

namespace Letterpress

variable {visibility : Visibility}

namespace Heap

/-- The hidden containers of two heaps are the same. -/
structure KeepsHidden (visibility : Visibility) (before after : Heap) : Prop where
  list : ∀ reference, ¬ visibility.lists reference → after.list reference = before.list reference
  tuple : ∀ reference, ¬ visibility.tuples reference →
    after.tuple reference = before.tuple reference
  record : ∀ reference, ¬ visibility.records reference →
    after.record reference = before.record reference

variable {before middle after heap : Heap} {place : Reference}

theorem KeepsHidden.refl (heap : Heap) : heap.KeepsHidden visibility heap :=
  ⟨fun _ _ => rfl, fun _ _ => rfl, fun _ _ => rfl⟩

theorem KeepsHidden.trans (first : before.KeepsHidden visibility middle)
    (second : middle.KeepsHidden visibility after) : before.KeepsHidden visibility after where
  list reference isHidden := (second.list reference isHidden).trans (first.list reference isHidden)
  tuple reference isHidden := (second.tuple reference isHidden).trans (first.tuple reference isHidden)
  record reference isHidden :=
    (second.record reference isHidden).trans (first.record reference isHidden)

theorem keepsHiddenByList (isVisible : visibility.lists heap.lists.size) (items : Array Value) :
    heap.KeepsHidden visibility (heap.addList items).2 where
  list reference isHidden := by
    have other : reference ≠ heap.lists.size := fun same => isHidden (same ▸ isVisible)
    rw [listOfAdd, if_neg other]
  tuple _ _ := rfl
  record _ _ := rfl

theorem keepsHiddenByItem (isVisible : visibility.lists place) (index : Nat) (value : Value) :
    heap.KeepsHidden visibility (heap.setItem place index value) where
  list reference isHidden := by
    have other : place ≠ reference := fun same => isHidden (same ▸ isVisible)
    rw [listOfSet, if_neg other]
  tuple _ _ := rfl
  record _ _ := rfl

theorem keepsHiddenByRecord (isVisible : visibility.records place) (fields : Table Value) :
    heap.KeepsHidden visibility (heap.setRecord place fields) where
  list _ _ := rfl
  tuple _ _ := rfl
  record reference isHidden := by
    have other : place ≠ reference := fun same => isHidden (same ▸ isVisible)
    rw [recordOfChange, if_neg fun both => other both.1]

theorem keepsHiddenByNewRecord (isVisible : visibility.records heap.records.size)
    (fields : Table Value) : heap.KeepsHidden visibility (heap.addRecord fields).2 where
  list _ _ := rfl
  tuple _ _ := rfl
  record reference isHidden := by
    have other : reference ≠ heap.records.size := fun same => isHidden (same ▸ isVisible)
    rw [recordAfterAdd, if_neg other]

end Heap

/-! ### Hosts -/

/-- An application withholds what is hidden if no attribute of its objects is hidden and no function
hands out anything hidden for what is not. -/
structure Host.Withholds (visibility : Visibility) (host : Host) : Prop where
  publish : ∀ object name value, Script.isPublic name = true →
    host.publish object name = some value → visibility.Shows value
  call : ∀ name arguments heap, (∀ argument ∈ arguments, visibility.Shows argument) →
    Yields visibility.Shows (host.call name arguments heap)

theorem standardWithholds (visibility : Visibility) : Host.standard.Withholds visibility where
  publish object name value _ isPublished := by
    have shows : ∀ value, Host.standardAttribute object name = some value → visibility.Shows value := by
      unfold Host.standardAttribute
      split <;> simp [Visibility.Shows]
    exact shows value isPublished
  call name arguments heap areShown := by
    change Yields visibility.Shows (Host.standardCall name arguments heap)
    unfold Host.standardCall
    split
    case h_3 =>
      cases arguments with
      | nil => exact yieldsOk.2 trivial
      | cons first rest => exact yieldsOk.2 (areShown first List.mem_cons_self)
    all_goals simp [Visibility.Shows]

/-- The functions of this application always look at the same heap. -/
def Host.lookingAt (host : Host) (heap : Heap) : Host :=
  { host with call := fun name arguments _ => host.call name arguments heap }

theorem Host.Withholds.lookingAt {host : Host} (withholds : host.Withholds visibility) (heap : Heap) :
    (host.lookingAt heap).LooksLike visibility (host.lookingAt heap) where
  publish object name isNamed := ⟨rfl, fun value => withholds.publish object name value isNamed⟩
  call name arguments _ _ areShown _ := ⟨rfl, withholds.call name arguments heap areShown⟩

namespace Script

/-! ### Runs -/

/-- A run is confined if it changes nothing that is hidden and gets hold of nothing hidden. A result
satisfies a property. -/
def Confined (visibility : Visibility) {Result : Type} (property : Result → Prop) (run : Run Result) :
    Prop :=
  ∀ machine : Machine, machine.LooksLike visibility machine →
    Yields property (outcome run machine).1 ∧
      (outcome run machine).2.LooksLike visibility (outcome run machine).2 ∧
        machine.heap.KeepsHidden visibility (outcome run machine).2.heap

section

variable {machine : Machine} {object key value : Value}

theorem setScopeKeepsHidden (isVisible : visibility.records machine.self) (scope : Scope) :
    machine.heap.KeepsHidden visibility (machine.setScope scope).heap :=
  Heap.keepsHiddenByRecord isVisible scope.values

theorem setMemberKeepsHidden (shows : visibility.Shows object) :
    machine.heap.KeepsHidden visibility (outcome (Run.setMember object key value) machine).2.heap := by
  rw [Run.outcomeSetMember]
  cases isSet : setMember machine.heap object key value with
  | error failure => exact .refl _
  | ok after =>
      rcases heapAfterSet isSet with ⟨reference, name, rfl, rfl⟩ | ⟨reference, place, rfl, rfl⟩
      · exact Heap.keepsHiddenByRecord shows _
      · exact Heap.keepsHiddenByItem shows _ _

theorem deleteMemberKeepsHidden (shows : visibility.Shows object) :
    machine.heap.KeepsHidden visibility (outcome (Run.deleteMember object key) machine).2.heap := by
  rw [Run.outcomeDeleteMember]
  cases isDeleted : deleteMember machine.heap object key with
  | error failure => exact .refl _
  | ok deleted =>
      obtain ⟨counts, after⟩ := deleted
      rcases heapAfterDeletion isDeleted with rfl | ⟨reference, name, rfl, rfl⟩
      · exact .refl _
      · exact Heap.keepsHiddenByRecord shows _

end

section

variable {Result : Type} {property : Result → Prop} {run : Run Result}

/-- A machine may be compared with itself. -/
theorem Indistinct.confined (indistinct : Indistinct visibility property run run)
    (keeps : ∀ machine : Machine, machine.LooksLike visibility machine →
      machine.heap.KeepsHidden visibility (outcome run machine).2.heap) :
    Confined visibility property run :=
  fun machine alike =>
    ⟨(indistinct machine machine alike).1.yields, (indistinct machine machine alike).2,
      keeps machine alike⟩

/-- What a query finds has to satisfy the property on this heap alone. -/
theorem confinedQuery {read : Heap → Except Failure Result}
    (yields : ∀ heap : Heap, heap.LooksLike visibility heap → Yields property (read heap)) :
    Confined visibility property (Scripting.query read) :=
  fun machine alike => ⟨yields machine.heap alike.heap, alike, .refl _⟩

theorem confinedBind {Next : Type} {propertyNext : Next → Prop} {next : Result → Run Next}
    (confined : Confined visibility property run)
    (confinedNext : ∀ result, property result → Confined visibility propertyNext (next result)) :
    Confined visibility propertyNext (run >>= next) := by
  intro machine alike
  have afterFirst := confined machine alike
  rw [outcomeBind]
  revert afterFirst
  rcases outcome run machine with ⟨result, after⟩
  rintro ⟨yields, alikeAfter, keeps⟩
  cases result with
  | error failure => exact ⟨yieldsError, alikeAfter, keeps⟩
  | ok result =>
      obtain ⟨yieldsNext, ended, keepsNext⟩ :=
        confinedNext result (yieldsOk.1 yields) after alikeAfter
      exact ⟨yieldsNext, ended, keeps.trans keepsNext⟩

end

/-- A confined run is compared with itself. -/
def confinedRuns (visibility : Visibility) : Comparison visibility where
  Holds property run _ := Confined visibility property run
  pure holds := (indistinctPure holds).confined fun _ _ => .refl _
  bind := confinedBind
  query agree := confinedQuery fun heap alike => (agree heap heap alike).yields
  self := indistinctSelf.confined fun _ _ => .refl _
  lookup name := (indistinctLookup name).confined fun machine _ => by
    rw [Run.outcomeLookup]
    exact .refl _
  assign name _ shows := (indistinctAssign name shows).confined fun _ alike =>
    setScopeKeepsHidden alike.self _
  delete name := (indistinctDelete name).confined fun _ alike => setScopeKeepsHidden alike.self _
  newList areShown := (indistinctNewList areShown).confined fun machine alike =>
    Heap.keepsHiddenByList (alike.heap.newLists _ (Nat.le_refl _)) _
  setMember showsObject showsKey shows :=
    (indistinctSetMember showsObject showsKey shows).confined fun _ _ => setMemberKeepsHidden showsObject
  deleteMember showsObject showsKey :=
    (indistinctDeleteMember showsObject showsKey).confined fun _ _ => deleteMemberKeepsHidden showsObject

section

variable {host : Host} {machine : Machine}

/-- On a single heap, an application that withholds what is hidden cannot depend on it. -/
theorem runSourceConfined (withholds : host.Withholds visibility) (source : String) :
    Confined visibility visibility.Shows (runSource host source) := by
  have hosts : (confinedRuns visibility).OfHosts host host :=
    { member := fun showsObject showsKey => confinedQuery fun heap alike =>
        (memberAgrees (withholds.lookingAt heap) alike showsObject showsKey).yields
      apply := fun callable _ areShown => confinedQuery fun heap alike =>
        (((withholds.lookingAt heap).apply alike callable areShown).mapError _).yields }
  exact Comparison.runSource hosts source

/-- A protected run leaves everything that is hidden as it was, also when it fails. -/
theorem runKeepsHidden (withholds : host.Withholds visibility)
    (alike : machine.LooksLike visibility machine) (helpers : Helpers) (isOpen : Bool)
    (source : String) :
    machine.heap.KeepsHidden visibility (runProtected host helpers isOpen source machine).2.heap := by
  obtain ⟨-, ended, keeps⟩ := runSourceConfined withholds source _ (alike.prepare helpers isOpen)
  have prepared : machine.heap.KeepsHidden visibility (machine.prepare helpers isOpen).heap :=
    setScopeKeepsHidden alike.self _
  exact (prepared.trans keeps).trans (setScopeKeepsHidden ended.self _)

end

end Script

/-! ### Reach -/

/-- Every container is hidden. -/
def Visibility.nothing : Visibility := ⟨fun _ => False, fun _ => False, fun _ => False⟩

/-- A script starts from the values that it is given and may make values that are no containers. It
finds what lies in the containers within its reach, and may use what an application hands out, on
whatever heap. Containers that come later are within reach as well. -/
inductive IsReached (host : Host) (heap : Heap) (isGiven : Value → Prop) : Value → Prop
  | given {value : Value} (isStart : isGiven value) : IsReached host heap isGiven value
  | plain {value : Value} (isPlain : Visibility.nothing.Shows value) :
      IsReached host heap isGiven value
  | newList {reference : Reference} (isNew : heap.lists.size ≤ reference) :
      IsReached host heap isGiven (.list reference)
  | newRecord {reference : Reference} (isNew : heap.records.size ≤ reference) :
      IsReached host heap isGiven (.record reference)
  | listItem {reference : Reference} {item : Value}
      (reaches : IsReached host heap isGiven (.list reference))
      (isItem : item ∈ (heap.list reference).toList) : IsReached host heap isGiven item
  | tupleItem {reference : Reference} {item : Value}
      (reaches : IsReached host heap isGiven (.tuple reference))
      (isItem : item ∈ (heap.tuple reference).toList) : IsReached host heap isGiven item
  | field {reference : Reference} {field : String × Value}
      (reaches : IsReached host heap isGiven (.record reference))
      (isField : field ∈ (heap.record reference).entries) : IsReached host heap isGiven field.2
  | published {object : HostObject} {name : String} {value : Value}
      (isNamed : Script.isPublic name = true) (isPublished : host.publish object name = some value) :
      IsReached host heap isGiven value
  | handedOut {name : String} {arguments : List Value} {other : Heap} {value : Value}
      (reach : ∀ argument ∈ arguments, IsReached host heap isGiven argument)
      (isResult : host.call name arguments other = .ok value) : IsReached host heap isGiven value

/-- The containers within reach are visible. -/
def Visibility.withinReach (host : Host) (heap : Heap) (isGiven : Value → Prop) : Visibility where
  lists reference := IsReached host heap isGiven (.list reference)
  tuples reference := IsReached host heap isGiven (.tuple reference)
  records reference := IsReached host heap isGiven (.record reference)

variable {host : Host} {heap : Heap} {isGiven : Value → Prop} {value : Value}

theorem showsIfReached :
    (Visibility.withinReach host heap isGiven).Shows value ↔ IsReached host heap isGiven value := by
  cases value with
  | list | tuple | record => exact Iff.rfl
  | _ => exact ⟨fun _ => .plain trivial, fun _ => trivial⟩

theorem reachIsClosed (host : Host) (heap : Heap) (isGiven : Value → Prop) :
    heap.LooksLike (Visibility.withinReach host heap isGiven) heap where
  listCount := rfl
  tupleCount := rfl
  recordCount := rfl
  newLists _ isNew := .newList isNew
  list _ reaches := ⟨rfl, fun _ isItem => showsIfReached.2 (.listItem reaches isItem)⟩
  tuple _ reaches := ⟨rfl, fun _ isItem => showsIfReached.2 (.tupleItem reaches isItem)⟩
  record _ reaches := ⟨rfl, fun _ isField => showsIfReached.2 (.field reaches isField)⟩

theorem reachWithholds (host : Host) (heap : Heap) (isGiven : Value → Prop) :
    host.Withholds (Visibility.withinReach host heap isGiven) where
  publish _ _ _ isNamed isPublished := showsIfReached.2 (.published isNamed isPublished)
  call _ _ _ areShown _ isResult := showsIfReached.2
    (.handedOut (fun argument isArgument => showsIfReached.1 (areShown argument isArgument)) isResult)

/-- Nothing hidden is within reach, if nothing hidden is given, lies in what is visible or is handed
out. -/
theorem IsReached.shows {visibility : Visibility} (reaches : IsReached host heap isGiven value)
    (withholds : host.Withholds visibility) (alike : heap.LooksLike visibility heap)
    (newRecords : ∀ reference, heap.records.size ≤ reference → visibility.records reference)
    (givenShow : ∀ value, isGiven value → visibility.Shows value) : visibility.Shows value := by
  induction reaches with
  | given isStart => exact givenShow _ isStart
  | @plain value isPlain => cases value <;> trivial
  | newList isNew => exact alike.newLists _ isNew
  | newRecord isNew => exact newRecords _ isNew
  | listItem _ isItem shows => exact (alike.list _ shows).2 _ isItem
  | tupleItem _ isItem shows => exact (alike.tuple _ shows).2 _ isItem
  | field _ isField shows => exact (alike.record _ shows).2 _ isField
  | published isNamed isPublished => exact withholds.publish _ _ _ isNamed isPublished
  | handedOut _ isResult areShown => exact withholds.call _ _ _ areShown _ isResult

end Letterpress
