import Letterpress.Proofs.Script.Comparison

/-!
This file shows that scripts find out nothing about the private attributes of an application's
objects. Two runs that differ in these attributes alone have the same outcome.
-/

namespace Letterpress

variable {visibility : Visibility}

/-! ### Scopes -/

structure Binding.Shows (visibility : Visibility) (binding : Binding) : Prop where
  default : visibility.Shows binding.default
  override : visibility.Shows binding.override

/-- Nothing in a scope is hidden. -/
structure Scope.Shows (visibility : Visibility) (scope : Scope) : Prop where
  values : scope.values.All visibility.Shows
  bindings : scope.bindings.All (Binding.Shows visibility)

section

variable {binding : Binding} {scope : Scope} {given : Value}

theorem Binding.Shows.value (shows : binding.Shows visibility) : visibility.Shows binding.value := by
  unfold Binding.value
  split
  · exact shows.override
  · exact shows.default

theorem Binding.Shows.repair (shows : binding.Shows visibility) :
    binding.repair.Shows visibility := by
  unfold Binding.repair
  split
  · exact ⟨shows.default, trivial⟩
  · exact shows

namespace Scope.Shows

theorem lookup (shows : scope.Shows visibility) {name : String}
    (found : scope.lookup? name = some given) : visibility.Shows given := by
  unfold Scope.lookup? at found
  split at found
  case h_1 binding isBound =>
    cases found
    exact (shows.bindings.get isBound).value
  case h_2 => exact shows.values.get found

theorem bind (shows : scope.Shows visibility) (name : String)
    (showsBinding : binding.Shows visibility) : (scope.bind name binding).Shows visibility :=
  ⟨shows.values, shows.bindings.insert name showsBinding⟩

theorem assign (shows : scope.Shows visibility) (name : String)
    (showsGiven : visibility.Shows given) : (scope.assign name given).Shows visibility := by
  unfold Scope.assign
  split
  case h_1 binding isBound =>
    exact shows.bind name ⟨(shows.bindings.get isBound).default, showsGiven⟩
  case h_2 => exact ⟨shows.values.insert name showsGiven, shows.bindings⟩

theorem delete (shows : scope.Shows visibility) (name : String) :
    (scope.delete name).2.Shows visibility := by
  unfold Scope.delete
  split
  case h_1 binding isBound => exact shows.bind name ⟨(shows.bindings.get isBound).default, trivial⟩
  case h_2 => exact ⟨shows.values.erase name, shows.bindings⟩

theorem ensureOne (shows : scope.Shows visibility) (name : String) (default : Callable) :
    (scope.ensureOne name default).Shows visibility := by
  unfold Scope.ensureOne
  split
  case h_1 binding isBound => exact shows.bind name (shows.bindings.get isBound).repair
  case h_2 =>
    refine ⟨shows.values.erase name, shows.bindings.insert name ⟨trivial, ?_⟩⟩
    unfold Scope.overrideFrom
    split <;> trivial

theorem reinstateOne (shows : scope.Shows visibility) (name : String) (default : Callable) :
    (scope.reinstateOne name default).Shows visibility := by
  unfold Scope.reinstateOne
  split
  · exact shows
  · exact shows.bind name ⟨trivial, trivial⟩

theorem ensure (shows : scope.Shows visibility) (helpers : Helpers) :
    (scope.ensure helpers).Shows visibility :=
  List.foldlRecOn helpers.entries _ shows fun _ shows helper _ => shows.ensureOne helper.1 helper.2

theorem reinstate (shows : scope.Shows visibility) (helpers : Helpers) :
    (scope.reinstate helpers).Shows visibility :=
  List.foldlRecOn helpers.entries _ (shows.ensure helpers) fun _ shows helper _ =>
    shows.reinstateOne helper.1 helper.2

end Scope.Shows

end

namespace Script

/-! ### Machines -/

/-- Two machines look alike if they differ in what their heaps hide alone. -/
structure Machine.LooksLike (visibility : Visibility) (left right : Machine) : Prop where
  heap : left.heap.LooksLike visibility right.heap
  same : right = { left with heap := right.heap }
  self : visibility.records left.self
  bindings : left.bindings.All (Binding.Shows visibility)
  shared : left.shared.Shows visibility

namespace Machine.LooksLike

variable {left right : Machine} {heap other : Heap} {scope : Scope}

theorem scopeShows (alike : left.LooksLike visibility right) : left.scope.Shows visibility :=
  ⟨(alike.heap.record left.self alike.self).2, alike.bindings⟩

theorem scopeSame (alike : left.LooksLike visibility right) : right.scope = left.scope := by
  obtain ⟨heap, same, self, -, -⟩ := alike
  rw [Machine.scope, Machine.scope, same, (heap.record left.self self).1]

theorem setHeap (alike : left.LooksLike visibility right) (heaps : heap.LooksLike visibility other) :
    Machine.LooksLike visibility { left with heap := heap } { right with heap := other } where
  heap := heaps
  same := by rw [alike.same]
  self := alike.self
  bindings := alike.bindings
  shared := alike.shared

theorem setScope (alike : left.LooksLike visibility right) (shows : scope.Shows visibility) :
    (left.setScope scope).LooksLike visibility (right.setScope scope) where
  heap := by
    rw [alike.same]
    exact alike.heap.setRecord left.self shows.values
  same := by rw [alike.same]; rfl
  self := alike.self
  bindings := shows.bindings
  shared := alike.shared

theorem lookup (alike : left.LooksLike visibility right) (name : String) :
    right.lookup? name = left.lookup? name ∧
      ∀ value, left.lookup? name = some value → visibility.Shows value := by
  unfold Machine.lookup?
  refine ⟨by rw [alike.scopeSame, alike.same], fun value isFound => ?_⟩
  split at isFound
  case h_1 own isOwn =>
    cases isFound
    exact alike.scopeShows.lookup isOwn
  case h_2 =>
    split at isFound
    · exact alike.shared.lookup isFound
    · cases isFound

end Machine.LooksLike

/-! ### Runs -/

/-- Two runs have the same outcome on machines that look alike. A result satisfies a property. -/
def Indistinct (visibility : Visibility) {Result : Type} (property : Result → Prop)
    (run other : Run Result) : Prop :=
  ∀ left right : Machine, left.LooksLike visibility right →
    Agree property (outcome run left).1 (outcome other right).1 ∧
      (outcome run left).2.LooksLike visibility (outcome other right).2

section

variable {First Second : Type} {property : First → Prop} {propertyNext : Second → Prop}

theorem indistinctPure {result : First} (holds : property result) :
    Indistinct visibility property (pure result) (pure result) :=
  fun _ _ alike => ⟨.pure holds, alike⟩

theorem indistinctBind {run other : Run First} {next otherNext : First → Run Second}
    (indistinct : Indistinct visibility property run other)
    (indistinctNext : ∀ result, property result →
      Indistinct visibility propertyNext (next result) (otherNext result)) :
    Indistinct visibility propertyNext (run >>= next) (other >>= otherNext) := by
  intro left right alike
  have afterFirst := indistinct left right alike
  rw [outcomeBind, outcomeBind]
  revert afterFirst
  rcases outcome run left with ⟨result, after⟩
  rcases outcome other right with ⟨otherResult, otherAfter⟩
  rintro ⟨⟨same, yields⟩, alikeAfter⟩
  cases same
  cases result with
  | error failure => exact ⟨⟨rfl, yieldsError⟩, alikeAfter⟩
  | ok result => exact indistinctNext result (yieldsOk.1 yields) after otherAfter alikeAfter

theorem indistinctQuery {read otherRead : Heap → Except Failure First}
    (agree : ∀ left right, Heap.LooksLike visibility left right →
      Agree property (read left) (otherRead right)) :
    Indistinct visibility property (Scripting.query read) (Scripting.query otherRead) :=
  fun _ _ alike => ⟨agree _ _ alike.heap, alike⟩

end

section

variable {object key value : Value}

theorem indistinctSelf :
    Indistinct visibility visibility.records Scripting.self Scripting.self := by
  intro left right alike
  rw [Run.outcomeSelf, Run.outcomeSelf]
  exact ⟨⟨by rw [alike.same], yieldsOk.2 alike.self⟩, alike⟩

theorem indistinctLookup (name : String) :
    Indistinct visibility visibility.Shows (Run.lookup name) (Run.lookup name) := by
  intro left right alike
  obtain ⟨same, areShown⟩ := alike.lookup name
  rw [Run.outcomeLookup, Run.outcomeLookup, same]
  refine ⟨⟨rfl, ?_⟩, alike⟩
  cases found : left.lookup? name with
  | none => exact yieldsError
  | some value => exact yieldsOk.2 (areShown value found)

theorem indistinctAssign (name : String) (shows : visibility.Shows value) :
    Indistinct visibility (fun _ => True) (Run.assign name value) (Run.assign name value) := by
  intro left right alike
  rw [Run.outcomeAssign, Run.outcomeAssign, alike.scopeSame]
  exact ⟨.ofSame rfl, alike.setScope (alike.scopeShows.assign name shows)⟩

theorem indistinctDelete (name : String) :
    Indistinct visibility (fun _ => True) (Run.delete name) (Run.delete name) := by
  intro left right alike
  rw [Run.outcomeDelete, Run.outcomeDelete, alike.scopeSame]
  exact ⟨.ofSame rfl, alike.setScope (alike.scopeShows.delete name)⟩

theorem indistinctNewList {items : List Value} (areShown : ∀ item ∈ items, visibility.Shows item) :
    Indistinct visibility visibility.Shows (Run.newList items) (Run.newList items) := by
  intro left right alike
  rw [Run.outcomeNewList, Run.outcomeNewList]
  refine ⟨⟨?_, yieldsOk.2 (alike.heap.newLists _ (Nat.le_refl _))⟩,
    alike.setHeap (alike.heap.addList areShown)⟩
  rw [Heap.addList, Heap.addList, alike.heap.listCount]

theorem indistinctSetMember (showsObject : visibility.Shows object)
    (showsKey : visibility.Shows key) (shows : visibility.Shows value) :
    Indistinct visibility (fun _ => True) (Run.setMember object key value)
      (Run.setMember object key value) := by
  intro left right alike
  have areMatching := setMemberMatches alike.heap showsObject showsKey shows
  rw [Run.outcomeSetMember, Run.outcomeSetMember]
  revert areMatching
  generalize setMember left.heap object key value = changed
  generalize setMember right.heap object key value = other
  rintro (failure | heaps)
  · exact ⟨.ofSame rfl, alike⟩
  · exact ⟨.ofSame rfl, alike.setHeap heaps⟩

theorem indistinctDeleteMember (showsObject : visibility.Shows object)
    (showsKey : visibility.Shows key) :
    Indistinct visibility (fun _ => True) (Run.deleteMember object key)
      (Run.deleteMember object key) := by
  intro left right alike
  have areMatching := deleteMemberMatches alike.heap showsObject showsKey
  rw [Run.outcomeDeleteMember, Run.outcomeDeleteMember]
  revert areMatching
  generalize deleteMember left.heap object key = changed
  generalize deleteMember right.heap object key = other
  rintro (failure | ⟨sameCount, heaps⟩)
  · exact ⟨.ofSame rfl, alike⟩
  · exact ⟨.ofSame (congrArg Except.ok sameCount), alike.setHeap heaps⟩

end

/-- Runs that cannot be told apart are compared. -/
def indistinctRuns (visibility : Visibility) : Comparison visibility where
  Holds := Indistinct visibility
  pure := indistinctPure
  bind := indistinctBind
  query := indistinctQuery
  self := indistinctSelf
  lookup := indistinctLookup
  assign name _ := indistinctAssign name
  delete := indistinctDelete
  newList := indistinctNewList
  setMember := indistinctSetMember
  deleteMember := indistinctDeleteMember

theorem runSourceIndistinct {host other : Host} (hosts : host.LooksLike visibility other)
    (source : String) :
    Indistinct visibility visibility.Shows (runSource host source) (runSource other source) := by
  have compared : (indistinctRuns visibility).OfHosts host other :=
    { member := fun showsObject showsKey => indistinctQuery fun _ _ alike =>
        memberAgrees hosts alike showsObject showsKey
      apply := fun callable _ areShown => indistinctQuery fun _ _ alike =>
        (hosts.apply alike callable areShown).mapError _ }
  exact Comparison.runSource compared source

/-! ### Protected runs -/

section

variable {host other : Host} {left right : Machine}

theorem Machine.LooksLike.prepare (alike : left.LooksLike visibility right) (helpers : Helpers)
    (isOpen : Bool) :
    Machine.LooksLike visibility (left.prepare helpers isOpen) (right.prepare helpers isOpen) := by
  have ensured := alike.setScope (alike.scopeShows.ensure helpers)
  rw [Machine.prepare, Machine.prepare, alike.scopeSame]
  exact ⟨ensured.heap, by rw [ensured.same], ensured.self, ensured.bindings, ensured.shared⟩

theorem Machine.LooksLike.recover (alike : left.LooksLike visibility right) (helpers : Helpers) :
    Machine.LooksLike visibility (left.recover helpers) (right.recover helpers) := by
  rw [Machine.recover, Machine.recover, alike.scopeSame]
  exact alike.setScope (alike.scopeShows.reinstate helpers)

/-- Private attributes and what only they lead to make no difference to a script. The result is the
same, also when the script fails, and has the same text. The machines still look alike. -/
theorem privateAttributesAreInvisible (hosts : host.LooksLike visibility other)
    (machines : left.LooksLike visibility right) (helpers : Helpers) (isOpen : Bool)
    (source : String) :
    let ended := runProtected host helpers isOpen source left
    let otherEnded := runProtected other helpers isOpen source right
    ended.1 = otherEnded.1 ∧ ended.2.LooksLike visibility otherEnded.2 ∧
      ∀ value, ended.1 = .ok value →
        visibility.Shows value ∧ ended.2.heap.text value = otherEnded.2.heap.text value := by
  obtain ⟨agree, alike⟩ := runSourceIndistinct hosts source _ _ (machines.prepare helpers isOpen)
  have ended := alike.recover helpers
  refine ⟨agree.same, ended, fun value isResult => ?_⟩
  have shows := agree.yields value isResult
  exact ⟨shows, ended.heap.text shows⟩

end

/-- The standard functions depend on their arguments alone. -/
theorem standardCallAgrees {left right : Heap} (heaps : left.LooksLike visibility right)
    (name : String) {arguments : List Value}
    (areShown : ∀ argument ∈ arguments, visibility.Shows argument) :
    Agree visibility.Shows (Host.standardCall name arguments left)
      (Host.standardCall name arguments right) := by
  unfold Host.standardCall
  rw [heaps.joinTexts areShown]
  refine ⟨rfl, ?_⟩
  split
  case h_3 =>
    cases arguments with
    | nil => exact yieldsOk.2 trivial
    | cons first rest => exact yieldsOk.2 (areShown first List.mem_cons_self)
  all_goals simp [Visibility.Shows]

/-- This host has the standard functions, and its objects have a label and a private secret. -/
def hostWithSecret (secret : Value) : Host :=
  ⟨Host.standardCall, fun object name =>
    if name = "_secret" then some secret else Host.standardAttribute object name⟩

theorem hostsWithSecrets (visibility : Visibility) (secret other : Value) :
    (hostWithSecret secret).LooksLike visibility (hostWithSecret other) where
  publish object name isNamed := by
    have notSecret : name ≠ "_secret" := by
      rintro rfl
      exact absurd isNamed (by decide)
    simp only [hostWithSecret, if_neg notSecret, true_and]
    unfold Host.standardAttribute
    split <;> simp [Visibility.Shows]
  call name _ _ _ areShown heaps := standardCallAgrees heaps name areShown

/-- The first list of this machine is in no value of its scope. -/
def machineWithList (items : Array Value) : Machine :=
  Machine.start { Heap.empty with lists := #[items] }
    (Table.empty.insert "card" (.host (Host.standardObject 0))) Scope.empty

/-- Everything but the first list is visible. -/
def withoutFirstList : Visibility := ⟨(· ≠ 0), fun _ => True, fun _ => True⟩

theorem machinesWithLists (items others : Array Value) :
    (machineWithList items).LooksLike withoutFirstList (machineWithList others) where
  heap :=
    { listCount := rfl
      tupleCount := rfl
      recordCount := rfl
      newLists := fun reference isNew => Nat.ne_of_gt isNew
      list := fun reference isVisible => by
        obtain ⟨place, rfl⟩ := Nat.exists_eq_succ_of_ne_zero isVisible
        exact ⟨rfl, nofun⟩
      tuple := fun reference _ => ⟨rfl, nofun⟩
      record := fun reference _ => by
        refine ⟨rfl, ?_⟩
        cases reference with
        | zero => exact Table.allEmpty.insert "card" trivial
        | succ place => exact Table.allEmpty }
  same := rfl
  self := trivial
  bindings := Table.allEmpty
  shared := ⟨Table.allEmpty, Table.allEmpty⟩

/-- A secret may be a list of any items. -/
theorem secretItemsAreInvisible :
    let ended (secret : Value) (items : Array Value) :=
      runProtected (hostWithSecret secret) Helpers.standard false "card._secret ?? card.label"
        (machineWithList items)
    (ended (.list 0) #[.int 1]).1 = (ended (.list 0) #[.text "two", .null]).1 ∧
      (ended (.list 0) #[.int 1]).1 = (ended (.text "three") #[]).1 ∧
      (ended (.list 0) #[.int 1]).1.toOption = some (.text "visible") :=
  have same (secret other : Value) (items others : Array Value) :=
    (privateAttributesAreInvisible (hostsWithSecrets withoutFirstList secret other)
      (machinesWithLists items others) Helpers.standard false "card._secret ?? card.label").1
  ⟨same _ _ _ _, same _ _ _ _, by decide +kernel⟩

end Script

end Letterpress
