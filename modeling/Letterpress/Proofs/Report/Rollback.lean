import Letterpress.Proofs.Report.Running
import Letterpress.Proofs.Scope.Helper
import Letterpress.Proofs.Script.Isolation
import Letterpress.Proofs.Script.Confinement

/-!
This file shows what a command makes of the root scope. A command that fails leaves the values of the
root scope as they were, and a command that succeeds leaves its own values without the variables of
the loops around it. The helpers can be called after either of them.
-/

namespace Letterpress

theorem Table.All.overlay {Entry : Type} {property : Entry → Prop} {table other : Table Entry}
    (all : table.All property) (allOther : other.All property) :
    (table.overlay other).All property :=
  List.foldlRecOn other.entries _ all fun _ all entry isEntry =>
    all.insert entry.1 (allOther entry isEntry)

theorem Heap.LooksLike.addRecord {visibility : Visibility} {left right : Heap} {fields : Table Value}
    (alike : left.LooksLike visibility right) (areShown : fields.All visibility.Shows) :
    (left.addRecord fields).2.LooksLike visibility (right.addRecord fields).2 where
  listCount := alike.listCount
  tupleCount := alike.tupleCount
  recordCount := by simp only [Heap.addRecord, Array.size_push, alike.recordCount]
  newLists := alike.newLists
  list := alike.list
  tuple := alike.tuple
  record reference isVisible := by
    rw [recordAfterAdd, recordAfterAdd, alike.recordCount]
    split
    · exact ⟨rfl, areShown⟩
    · exact alike.record reference isVisible

namespace Report

open Script Rendering

/-! ### What a command is given -/

/-- A scope offers its values, and the defaults and overrides of its bindings. -/
def Offers (scope : Scope) (value : Value) : Prop :=
  (∃ field ∈ scope.values.entries, field.2 = value) ∨
    ∃ field ∈ scope.bindings.entries, field.2.default = value ∨ field.2.override = value

/-- A command is given the root scope and the variables of the loops around it. An open one is given
the shared scope as well. -/
def IsGiven (settings : Settings) (session : Session) (loopValues : Table Value) (value : Value) :
    Prop :=
  Offers session.root value ∨ (∃ field ∈ loopValues.entries, field.2 = value) ∨
    settings.isOpen = true ∧ Offers session.shared value

/-- A command can get hold of these containers. -/
abbrev withinReach (settings : Settings) (session : Session) (loopValues : Table Value) :
    Visibility :=
  .withinReach settings.host session.heap (IsGiven settings session loopValues)

section

variable {settings : Settings} {session : Session} {loopValues : Table Value} {code name : String}

theorem scopeShowsIff {visibility : Visibility} {scope : Scope} :
    scope.Shows visibility ↔ ∀ value, Offers scope value → visibility.Shows value := by
  constructor
  · rintro shows value (⟨field, isField, rfl⟩ | ⟨field, isField, rfl | rfl⟩)
    · exact shows.values field isField
    · exact (shows.bindings field isField).default
    · exact (shows.bindings field isField).override
  · intro areShown
    exact ⟨fun field isField => areShown _ (.inl ⟨field, isField, rfl⟩), fun field isField =>
      ⟨areShown _ (.inr ⟨field, isField, .inl rfl⟩), areShown _ (.inr ⟨field, isField, .inr rfl⟩)⟩⟩

/-- A closed command never sees the shared scope, which may just as well be empty. -/
def visibleMachine (settings : Settings) (session : Session) (loopValues : Table Value) : Machine :=
  { machineOf session loopValues with
    shared := if settings.isOpen then session.shared else Scope.empty }

theorem machineIsWithinReach (settings : Settings) (session : Session) (loopValues : Table Value) :
    (visibleMachine settings session loopValues).LooksLike (withinReach settings session loopValues)
      (visibleMachine settings session loopValues) := by
  have givenShow {value : Value} (isGiven : IsGiven settings session loopValues value) :
      (withinReach settings session loopValues).Shows value := showsIfReached.2 (.given isGiven)
  have root : session.root.Shows (withinReach settings session loopValues) :=
    scopeShowsIff.2 fun _ isOffered => givenShow (.inl isOffered)
  have loop : loopValues.All (withinReach settings session loopValues).Shows :=
    fun field isField => givenShow (.inr (.inl ⟨field, isField, rfl⟩))
  refine ⟨(reachIsClosed ..).addRecord (root.values.overlay loop), rfl, .newRecord (Nat.le_refl _),
    root.bindings, ?_⟩
  cases isOpen : settings.isOpen with
  | true =>
      simp only [visibleMachine, isOpen, if_true]
      exact scopeShowsIff.2 fun _ isOffered => givenShow (.inr (.inr ⟨isOpen, isOffered⟩))
  | false =>
      simp only [visibleMachine, isOpen]
      exact ⟨Table.allEmpty, Table.allEmpty⟩

theorem visibleRun (settings : Settings) (session : Session) (loopValues : Table Value)
    (code : String) :
    (runProtected settings.host settings.helpers settings.isOpen code
        (visibleMachine settings session loopValues)).2.heap =
      (runProtected settings.host settings.helpers settings.isOpen code
        (machineOf session loopValues)).2.heap := by
  cases isOpen : settings.isOpen with
  | true => simp only [visibleMachine, isOpen, if_true]; rfl
  | false =>
      rcases runBeside settings.host settings.helpers false code
        (visibleMachine settings session loopValues) session.shared with ⟨sees, -⟩ | same
      · exact nomatch sees
      · exact (congrArg (·.2.heap) same).symm

/-- A command leaves the containers alone that it cannot reach. -/
theorem commandKeepsUnreached (settings : Settings) (session : Session) (loopValues : Table Value)
    (code : String) :
    session.heap.KeepsHidden (withinReach settings session loopValues)
      ((run settings code loopValues).outcome session).2.heap := by
  have placed : session.heap.KeepsHidden (withinReach settings session loopValues)
      (visibleMachine settings session loopValues).heap :=
    Heap.keepsHiddenByNewRecord (IsReached.newRecord (Nat.le_refl _)) _
  have ran := placed.trans (runKeepsHidden (reachWithholds ..)
    (machineIsWithinReach settings session loopValues) settings.helpers settings.isOpen code)
  rw [visibleRun] at ran
  rw [runOutcome]
  revert ran
  rcases runProtected settings.host settings.helpers settings.isOpen code
    (machineOf session loopValues) with ⟨result, after⟩
  cases result <;> exact id

/-! ### The root scope -/

theorem bindingsAfterCommand (settings : Settings) (session : Session) (loopValues : Table Value)
    (code : String) :
    ((run settings code loopValues).outcome session).2.root.bindings =
      (runProtected settings.host settings.helpers settings.isOpen code
        (machineOf session loopValues)).2.bindings := by
  rw [runOutcome]
  rcases runProtected settings.host settings.helpers settings.isOpen code
    (machineOf session loopValues) with ⟨result, after⟩
  cases result <;> rfl

theorem helperAfterCommand (settings : Settings) (session : Session) (loopValues : Table Value)
    (code : String) (isHelper : settings.helpers.contains name = true) :
    ∃ callable, ((run settings code loopValues).outcome session).2.root.lookup? name =
      some (.function callable) := by
  obtain ⟨binding, callable, isBound, isCalled⟩ := Scope.reinstatedBinding
    (outcome (runSource settings.host code)
      ((machineOf session loopValues).prepare settings.helpers settings.isOpen)).2.scope isHelper
  have found : ((run settings code loopValues).outcome session).2.root.bindings.get? name =
      some binding := by
    rw [bindingsAfterCommand]
    exact isBound
  refine ⟨callable, ?_⟩
  simp only [Scope.lookup?, found, isCalled]

theorem valuesAfterFailure {failure : Failure}
    (fails : ((run settings code loopValues).outcome session).1 = .error failure) :
    ((run settings code loopValues).outcome session).2.root.values = session.root.values := by
  revert fails
  rw [runOutcome]
  rcases runProtected settings.host settings.helpers settings.isOpen code
    (machineOf session loopValues) with ⟨result, after⟩
  cases result with
  | ok value => exact nofun
  | error failure => exact fun _ => rfl

theorem valuesAfterSuccess {value : Value}
    (succeeds : ((run settings code loopValues).outcome session).1 = .ok value) :
    ((run settings code loopValues).outcome session).2.root.values =
      (runProtected settings.host settings.helpers settings.isOpen code
        (machineOf session loopValues)).2.scope.values.without loopValues.names := by
  revert succeeds
  rw [runOutcome]
  rcases runProtected settings.host settings.helpers settings.isOpen code
    (machineOf session loopValues) with ⟨result, after⟩
  cases result with
  | ok value => exact fun _ => valuesAfterWithout after loopValues
  | error failure => exact nofun

end

/-! ### Whole renderings -/

/-- A rendering preserves a property of the session, whether it succeeds or fails. -/
def Preserves {Result : Type} (holds : Session → Prop) (rendering : Rendering Result) : Prop :=
  ∀ session, holds session → holds (rendering.outcome session).2

section

variable {holds : Session → Prop} {First Result : Type} {settings : Settings}

theorem preservesPure (result : Result) : Preserves holds (pure result : Rendering Result) :=
  fun _ isHeld => isHeld

theorem preservesGet : Preserves holds (get : Rendering Session) :=
  fun _ isHeld => isHeld

theorem preservesExcept (found : Except Failure Result) : Preserves holds (Rendering.ofExcept found) :=
  fun _ isHeld => isHeld

theorem preservesBind {rendering : Rendering First} {next : First → Rendering Result}
    (preserves : Preserves holds rendering) (preservesNext : ∀ first, Preserves holds (next first)) :
    Preserves holds (rendering >>= next) := by
  intro session isHeld
  have isHeldNext := preserves session isHeld
  rw [outcomeOfBind]
  revert isHeldNext
  rcases rendering.outcome session with ⟨result, middle⟩
  intro isHeldNext
  cases result with
  | ok first => exact preservesNext first middle isHeldNext
  | error failure => exact isHeldNext

theorem preservesRepeated {step : Nat → Rendering (List Char)}
    (preserves : ∀ index, Preserves holds (step index)) (indices : List Nat) :
    Preserves holds (repeated step indices) := by
  induction indices with
  | nil => exact preservesPure []
  | cons index rest inductionHypothesis =>
      exact preservesBind (preserves index) fun _ =>
        preservesBind inductionHypothesis fun _ => preservesPure _

/-- A rendering preserves what all of its commands preserve, given what every loop adds to its
variables. -/
theorem preservesItems {allows : Table Value → Prop}
    (commands : ∀ code loopValues, allows loopValues → Preserves holds (run settings code loopValues))
    (turns : ∀ loopValues itemName item index, allows loopValues →
      allows (loopVariables loopValues itemName item index)) :
    ∀ (items : List Item) (loopValues : Table Value), allows loopValues →
      Preserves holds (renderItems settings loopValues items)
  | [], _, _ => preservesPure []
  | item :: rest, loopValues, isAllowed => by
      refine preservesBind ?_ fun _ => preservesBind
        (preservesItems commands turns rest loopValues isAllowed) fun _ => preservesPure _
      cases item with
      | markup content => exact preservesPure content
      | insert code isInRun =>
          exact preservesBind (commands code loopValues isAllowed) fun _ =>
            preservesBind preservesGet fun _ => preservesExcept _
      | execute code =>
          exact preservesBind (commands code loopValues isAllowed) fun _ => preservesPure _
      | loop itemName code body =>
          refine preservesBind (commands code loopValues isAllowed) fun list =>
            preservesBind preservesGet fun _ => preservesBind (preservesExcept _) fun _ =>
              preservesRepeated (fun index => preservesBind preservesGet fun current => ?_) _
          exact preservesItems commands turns body _ (turns loopValues itemName _ index isAllowed)
      | choice code body =>
          refine preservesBind (commands code loopValues isAllowed) fun value => ?_
          split
          · exact preservesItems commands turns body loopValues isAllowed
          · exact preservesPure []

end

theorem turnKeepsName (loopValues : Table Value) (itemName : String) (item : Value) (index : Nat)
    {name : String} (isVariable : name ∈ loopValues.names) :
    name ∈ (loopVariables loopValues itemName item index).names := by
  rw [← Table.containsIff] at isVariable ⊢
  simp only [loopVariables, Table.contains, Table.getInsert]
  split
  · rfl
  · split
    · rfl
    · exact isVariable

/-- A variable of a loop never becomes a name of the root scope, also when the rendering of the loop
fails. -/
theorem loopVariableStaysOut (settings : Settings) (loopValues : Table Value) (items : List Item)
    {name : String} (isVariable : name ∈ loopValues.names) :
    Preserves (fun session => name ∉ session.root.values.names)
      (renderItems settings loopValues items) := by
  have turns : ∀ (loopValues : Table Value) itemName item index, name ∈ loopValues.names →
      name ∈ (loopVariables loopValues itemName item index).names :=
    fun _ _ _ _ isVariable => turnKeepsName _ _ _ _ isVariable
  refine preservesItems ?commands turns items loopValues isVariable
  intro code loopValues isVariable session isOutside
  cases ended : ((run settings code loopValues).outcome session).1 with
  | error failure =>
      rw [valuesAfterFailure ended]
      exact isOutside
  | ok value =>
      rw [valuesAfterSuccess ended]
      exact fun isInside => (Table.memberWithout.1 isInside).1 isVariable

/-- A record with the values of the root scope is not within reach of a command. Then the command never
changes that record. If it fails, the root scope has the very values from before. If it succeeds, the
root scope has the values that the code left behind, without the variables of the loops around it.
Every helper can be called in both cases, and no rendering among these loops turns one of their
variables into a name of the root scope. -/
theorem rootAfterCommand (settings : Settings) (session : Session) (loopValues : Table Value)
    (code : String) (mapping : Reference)
    (isMapping : session.heap.record mapping = session.root.values)
    (isApart : ¬ IsReached settings.host session.heap (IsGiven settings session loopValues)
      (.record mapping)) :
    let ended := (run settings code loopValues).outcome session
    let left := (runProtected settings.host settings.helpers settings.isOpen code
      (machineOf session loopValues)).2
    ended.2.heap.record mapping = session.root.values ∧
      (∀ failure, ended.1 = .error failure → ended.2.root.values = session.root.values) ∧
      (∀ value, ended.1 = .ok value →
        ended.2.root.values = left.scope.values.without loopValues.names) ∧
      (∀ name, settings.helpers.contains name = true →
        ∃ callable, ended.2.root.lookup? name = some (.function callable)) ∧
      ∀ items, ∀ name ∈ loopValues.names, name ∉ session.root.values.names →
        name ∉ ((renderItems settings loopValues items).outcome session).2.root.values.names := by
  intro ended left
  refine ⟨?_, fun _ fails => valuesAfterFailure fails, fun _ succeeds => valuesAfterSuccess succeeds,
    fun name isHelper => helperAfterCommand settings session loopValues code isHelper,
    fun items name isVariable => loopVariableStaysOut settings loopValues items isVariable session⟩
  exact ((commandKeepsUnreached settings session loopValues code).record mapping isApart).trans isMapping

/-- The helper is installed in this scope. -/
def installedRoot : Scope :=
  Scope.ensure Helpers.standard ⟨.ofList [("total", .int 5), ("rows", .list 0)], Table.empty⟩

/-- The first record of this session has the values of the root scope. -/
def installedSession : Session :=
  ⟨⟨#[#[.int 1, .int 2]], #[], #[installedRoot.values]⟩, installedRoot, Scope.empty⟩

def rowVariables : Table Value := .ofList [("$row", .int 1), ("$idx", .int 0)]

/-- Everything but the first record is visible. -/
def withoutFirstRecord : Visibility := ⟨fun _ => True, fun _ => True, (· ≠ 0)⟩

theorem installedSessionShows :
    installedSession.heap.LooksLike withoutFirstRecord installedSession.heap where
  listCount := rfl
  tupleCount := rfl
  recordCount := rfl
  newLists _ _ := trivial
  list reference _ := by
    refine ⟨rfl, ?_⟩
    cases reference with
    | zero => exact List.forall_mem_cons.2 ⟨trivial, List.forall_mem_singleton.2 trivial⟩
    | succ place => exact nofun
  tuple _ _ := ⟨rfl, nofun⟩
  record reference isVisible := by
    obtain ⟨place, rfl⟩ := Nat.exists_eq_succ_of_ne_zero isVisible
    exact ⟨rfl, nofun⟩

theorem firstRecordIsApart (isOpen : Bool) :
    ¬ IsReached Host.standard installedSession.heap
      (IsGiven ⟨.standard, .standard, isOpen⟩ installedSession rowVariables) (.record 0) := by
  have root : installedRoot.Shows withoutFirstRecord := Scope.Shows.ensure
    ⟨(Table.allEmpty.insert "total" trivial).insert "rows" trivial, Table.allEmpty⟩ Helpers.standard
  have areVisible : rowVariables.All withoutFirstRecord.Shows :=
    (Table.allEmpty.insert "$row" trivial).insert "$idx" trivial
  intro reaches
  refine reaches.shows (standardWithholds withoutFirstRecord) installedSessionShows
    (fun reference isNew => Nat.ne_of_gt isNew) (fun value isGiven => ?_) rfl
  rcases isGiven with isOffered | ⟨field, isField, rfl⟩ | ⟨-, isOffered⟩
  · exact scopeShowsIff.1 root value isOffered
  · exact areVisible field isField
  · exact scopeShowsIff.1 ⟨Table.allEmpty, Table.allEmpty⟩ value isOffered

/-- A command that fails may have changed and deleted names, loop variables and members before. -/
theorem failedChangesAreTakenBack :
    let settings : Settings := ⟨.standard, .standard, false⟩
    let code := "total = 1; let extra = rows; delete rows; $row = 3; this.more = this; c = 4; missing"
    let ended := (run settings code rowVariables).outcome installedSession
    let left := (runProtected settings.host settings.helpers settings.isOpen code
      (machineOf installedSession rowVariables)).2
    ended.1.toOption = none ∧ left.scope.values.get? "total" = some (.int 1) ∧
      left.scope.values.names = ["total", "$row", "$idx", "extra", "more"] ∧
      ended.2.root.values = installedRoot.values ∧
      ended.2.heap.record 0 = installedRoot.values ∧
      ∃ callable, ended.2.root.lookup? "c" = some (.function callable) := by
  intro settings code ended left
  obtain ⟨isKept, afterFailure, -, helpers, -⟩ := rootAfterCommand settings installedSession
    rowVariables code 0 rfl (firstRecordIsApart false)
  have fails : ended.1.toOption = none := by decide +kernel
  refine ⟨fails, by decide +kernel, by decide +kernel, ?_, isKept, helpers "c" rfl⟩
  cases isFailure : ended.1 with
  | error failure => exact afterFailure failure isFailure
  | ok value => exact nomatch isFailure ▸ fails

end Report

end Letterpress
