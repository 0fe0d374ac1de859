import Letterpress.Proofs.Script.Correspondence

/-!
This file compares closed runs with open ones. A closed run does not see the shared scope, and an
open run does the same as long as no name is missing. Neither of them changes the shared scope.
-/

namespace Letterpress.Script

/-- The machine stands beside another shared scope, which it may see. -/
def Machine.beside (shared : Scope) (isOpen : Bool) (machine : Machine) : Machine :=
  { machine with shared := shared, isOpen := isOpen }

/-- A run misses a name if the failure of a look-up ends it. -/
def MissesName {Result : Type} (result : Except Failure Result) : Prop :=
  ∃ name, result = .error (.problem (.undefinedName name))

/-- A run keeps the shared scope if it is the same after it, also when it fails. -/
def keepingShared : Correspondence Run Run where
  Related run _ := ∀ machine, (outcome run machine).2.shared = machine.shared
  pure _ _ := rfl
  bind {_ _ left _ leftNext _} keepsFirst keepsNext machine := by
    have afterFirst := keepsFirst machine
    change (outcome (left >>= leftNext) machine).2.shared = machine.shared
    rw [outcomeBind]
    revert afterFirst
    rcases outcome left machine with ⟨result, after⟩
    intro afterFirst
    cases result with
    | ok result => exact (keepsNext result after).trans afterFirst
    | error failure => exact afterFirst
  query _ _ := rfl
  self _ := rfl
  lookup name machine := by
    change (outcome (Run.lookup name) machine).2.shared = machine.shared
    rw [Run.outcomeLookup]
  assign _ _ _ := rfl
  delete _ _ := rfl
  newList _ _ := rfl
  setMember object key value machine := by
    change (outcome (Run.setMember object key value) machine).2.shared = machine.shared
    rw [Run.outcomeSetMember]
    split <;> rfl
  deleteMember object key machine := by
    change (outcome (Run.deleteMember object key) machine).2.shared = machine.shared
    rw [Run.outcomeDeleteMember]
    split <;> rfl

/-- This relates a run to itself on a closed machine and on the same machine beside another shared
scope. The run on the closed machine leaves it closed. The other run has the same result and leaves
the same machine behind, unless it sees the shared scope and the closed one misses a name. -/
def besideShared (shared : Scope) (isOpen : Bool) : Correspondence Run Run where
  Related closed other := ∀ machine, machine.isOpen = false →
    (outcome closed machine).2.isOpen = false ∧
      (isOpen = true ∧ MissesName (outcome closed machine).1 ∨
        outcome other (machine.beside shared isOpen) =
          ((outcome closed machine).1, (outcome closed machine).2.beside shared isOpen))
  pure _ _ isClosed := ⟨isClosed, .inr rfl⟩
  bind {_ _ left right leftNext rightNext} related relatedNext machine isClosed := by
    have first := related machine isClosed
    change (outcome (left >>= leftNext) machine).2.isOpen = false ∧
      (isOpen = true ∧ MissesName (outcome (left >>= leftNext) machine).1 ∨
        outcome (right >>= rightNext) (machine.beside shared isOpen) =
          ((outcome (left >>= leftNext) machine).1,
            (outcome (left >>= leftNext) machine).2.beside shared isOpen))
    rw [outcomeBind, outcomeBind]
    revert first
    rcases outcome left machine with ⟨result, after⟩
    intro first
    rcases first with ⟨staysClosed, ⟨sees, name, misses⟩ | same⟩
    · -- A missing name ends the closed run here, whatever the rest of it would do.
      obtain rfl : result = .error (.problem (.undefinedName name)) := misses
      exact ⟨staysClosed, .inl ⟨sees, name, rfl⟩⟩
    · rw [same]
      cases result with
      | ok result => exact relatedNext result after staysClosed
      | error failure => exact ⟨staysClosed, .inr rfl⟩
  query _ _ isClosed := ⟨isClosed, .inr rfl⟩
  self _ isClosed := ⟨isClosed, .inr rfl⟩
  lookup name machine isClosed := by
    change (outcome (Run.lookup name) machine).2.isOpen = false ∧
      (isOpen = true ∧ MissesName (outcome (Run.lookup name) machine).1 ∨
        outcome (Run.lookup name) (machine.beside shared isOpen) =
          ((outcome (Run.lookup name) machine).1,
            (outcome (Run.lookup name) machine).2.beside shared isOpen))
    have sameScope : (machine.beside shared isOpen).scope = machine.scope := rfl
    simp only [Run.outcomeLookup, Machine.lookup?, sameScope, isClosed]
    refine ⟨trivial, ?_⟩
    cases machine.scope.lookup? name with
    | some value => exact .inr rfl
    | none =>
        cases isOpen with
        | true => exact .inl ⟨rfl, name, rfl⟩
        | false => exact .inr rfl
  assign _ _ _ isClosed := ⟨isClosed, .inr rfl⟩
  delete _ _ isClosed := ⟨isClosed, .inr rfl⟩
  newList _ _ isClosed := ⟨isClosed, .inr rfl⟩
  setMember object key value machine isClosed := by
    change (outcome (Run.setMember object key value) machine).2.isOpen = false ∧
      (_ ∨ outcome (Run.setMember object key value) (machine.beside shared isOpen) =
        ((outcome (Run.setMember object key value) machine).1,
          (outcome (Run.setMember object key value) machine).2.beside shared isOpen))
    have sameHeap : (machine.beside shared isOpen).heap = machine.heap := rfl
    rw [Run.outcomeSetMember, Run.outcomeSetMember, sameHeap]
    cases Script.setMember machine.heap object key value with
    | ok heap => exact ⟨isClosed, .inr rfl⟩
    | error failure => exact ⟨isClosed, .inr rfl⟩
  deleteMember object key machine isClosed := by
    change (outcome (Run.deleteMember object key) machine).2.isOpen = false ∧
      (_ ∨ outcome (Run.deleteMember object key) (machine.beside shared isOpen) =
        ((outcome (Run.deleteMember object key) machine).1,
          (outcome (Run.deleteMember object key) machine).2.beside shared isOpen))
    have sameHeap : (machine.beside shared isOpen).heap = machine.heap := rfl
    rw [Run.outcomeDeleteMember, Run.outcomeDeleteMember, sameHeap]
    cases Script.deleteMember machine.heap object key with
    | ok deleted => exact ⟨isClosed, .inr rfl⟩
    | error failure => exact ⟨isClosed, .inr rfl⟩

/-- A protected run leaves the shared scope as it is. -/
theorem sharedAfterRun (host : Host) (helpers : Helpers) (isOpen : Bool) (source : String)
    (machine : Machine) :
    (runProtected host helpers isOpen source machine).2.shared = machine.shared :=
  keepingShared.relatedRunSource host source (machine.prepare helpers isOpen)

/-- A protected run beside another shared scope does what the closed run does, unless it sees the
shared scope and the closed run misses a name. -/
theorem runBeside (host : Host) (helpers : Helpers) (isOpen : Bool) (source : String)
    (machine : Machine) (shared : Scope) :
    let closed := runProtected host helpers false source machine
    isOpen = true ∧ MissesName closed.1 ∨
      runProtected host helpers isOpen source { machine with shared := shared } =
        (closed.1, closed.2.beside shared isOpen) := by
  intro closed
  have related := (besideShared shared isOpen).relatedRunSource host source
    (machine.prepare helpers false) rfl
  rcases related.2 with missing | same
  · exact .inl missing
  · refine .inr ?_
    change ((outcome (runSource host source) ((machine.prepare helpers false).beside shared isOpen)).1,
      (outcome (runSource host source)
        ((machine.prepare helpers false).beside shared isOpen)).2.recover helpers) = _
    rw [same]
    rfl

/-- What a closed run yields and leaves behind does not depend on the shared scope. An open run
yields the same and leaves the same values and bindings behind, unless the closed run misses a
name. The shared scope is the same after either of them. -/
theorem closedRunIsIsolated (host : Host) (helpers : Helpers) (source : String)
    (machine : Machine) :
    let closed := runProtected host helpers false source machine
    (∀ shared, runProtected host helpers false source { machine with shared := shared } =
        (closed.1, { closed.2 with shared := shared })) ∧
      (MissesName closed.1 ∨
        ∀ shared, runProtected host helpers true source { machine with shared := shared } =
          (closed.1, { closed.2 with shared := shared, isOpen := true })) ∧
      ∀ isOpen, (runProtected host helpers isOpen source machine).2.shared = machine.shared := by
  intro closed
  have staysClosed : closed.2.isOpen = false :=
    ((besideShared machine.shared false).relatedRunSource host source
      (machine.prepare helpers false) rfl).1
  refine ⟨fun shared => ?_, ?_, fun isOpen => sharedAfterRun host helpers isOpen source machine⟩
  · rcases runBeside host helpers false source machine shared with ⟨sees, -⟩ | same
    · exact nomatch sees
    · have kept : closed.2.beside shared false = { closed.2 with shared := shared } := by
        rw [Machine.beside, ← staysClosed]
      exact same.trans (congrArg (Prod.mk closed.1) kept)
  · by_cases misses : MissesName closed.1
    · exact .inl misses
    · refine .inr fun shared => ?_
      rcases runBeside host helpers true source machine shared with ⟨-, missing⟩ | same
      · exact absurd missing misses
      · exact same

/-- The shared scope answers for a name that only an open run finds. -/
example :
    let shared := Scope.empty.assign "a" (.int 1)
    let machine := Machine.start Heap.empty Table.empty shared
    (runProtected Host.standard Helpers.standard false "a" machine).1.toOption = none ∧
      (runProtected Host.standard Helpers.standard true "a" machine).1.toOption =
        some (.int 1) := by
  decide +kernel

end Letterpress.Script
