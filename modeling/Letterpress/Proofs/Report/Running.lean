import Letterpress.Proofs.Report.Trace
import Letterpress.Proofs.Scope.Shedding
import Letterpress.Proofs.Script.Reading

/-!
This file shows on which machine the code of a command runs and what the run makes of the session.
The variables of the loops lie over the values of the root scope.
-/

namespace Letterpress

/-- The entries of the second table come first. -/
theorem Table.getOverlay {Entry : Type} (table other : Table Entry) (name : String) :
    (table.overlay other).get? name = (other.get? name).or (table.get? name) := by
  have view := Table.viewFoldl other name (fun result entry => result.insert entry.1 entry.2)
    (·.get? name) (fun entry _ => some entry)
    (fun result entry different => by simp [different.symm]) (fun result entry => by simp) table
  rw [Table.overlay, view]
  cases other.get? name <;> rfl

namespace Report

open Script Rendering

variable {settings : Settings} {session : Session} {loopValues : Table Value} {code : String}

theorem machineIsPlaced (session : Session) (loopValues : Table Value) :
    (machineOf session loopValues).IsPlaced :=
  Machine.startIsPlaced session.heap _ session.shared

theorem scopeOfMachine (session : Session) (loopValues : Table Value) :
    (machineOf session loopValues).scope =
      ⟨session.root.values.overlay loopValues, session.root.bindings⟩ :=
  congrArg (Scope.mk · session.root.bindings) (Heap.recordOfAdd session.heap _)

/-- The index comes last, so that it hides an item of its name. -/
theorem getLoopVariables (loopValues : Table Value) (itemName : String) (item : Value)
    (index : Nat) :
    (loopVariables loopValues itemName item index).get? "$idx" = some (.int index) ∧
      (loopVariables loopValues itemName item index).get? ("$" ++ itemName) =
        some (if itemName = "idx" then .int index else item) := by
  refine ⟨by simp [loopVariables], ?_⟩
  have sameName : "$" ++ itemName = "$idx" ↔ itemName = "idx" :=
    (String.append_right_inj "$" : "$" ++ itemName = "$" ++ "idx" ↔ itemName = "idx")
  simp only [loopVariables, Table.getInsert, sameName, if_true]
  split <;> rfl

/-- The values lie in a record that the session does not have. -/
theorem preparedGrows (session : Session) (loopValues : Table Value) (helpers : Helpers)
    (isOpen : Bool) :
    session.heap.Grows ((machineOf session loopValues).prepare helpers isOpen).heap :=
  (Heap.growsByRecord session.heap _).setRecord (Nat.le_refl _) _

/-- A name is free if it belongs neither to a helper nor to a binding. -/
structure IsFree (settings : Settings) (session : Session) (name : String) : Prop where
  notHelper : settings.helpers.get? name = none
  unbound : session.root.bindings.get? name = none

/-- A variable of a loop is found under a free name. -/
theorem loopVariableFound {name : String} {value : Value} (free : IsFree settings session name)
    (isVariable : loopValues.get? name = some value) :
    ((machineOf session loopValues).prepare settings.helpers settings.isOpen).lookup? name =
      some value := by
  refine Machine.lookupPrepared (machineIsPlaced session loopValues) free.notHelper ?_
  rw [scopeOfMachine]
  simp only [Scope.lookup?, free.unbound]
  rw [Table.getOverlay, isVariable, Option.some_or]

/-- The result of a run is the result of its command, and a failure names the code. -/
theorem runOutcome (settings : Settings) (code : String) (loopValues : Table Value)
    (session : Session) : (run settings code loopValues).outcome session =
      match runProtected settings.host settings.helpers settings.isOpen code
        (machineOf session loopValues) with
      | (.ok value, after) =>
          (.ok value, ⟨after.heap, ⟨valuesAfter after loopValues, after.bindings⟩, after.shared⟩)
      | (.error failure, after) =>
          (.error (failureOf code failure),
            ⟨after.heap, ⟨session.root.values, after.bindings⟩, after.shared⟩) := by
  have current : (get : Rendering Session).outcome session = (.ok session, session) := rfl
  rcases ran : runProtected settings.host settings.helpers settings.isOpen code
    (machineOf session loopValues) with ⟨result, after⟩
  rw [run, outcomeOfBind, current]
  simp only [ran]
  cases result <;> rfl

theorem valuesAfterWithout (machine : Machine) (loopValues : Table Value) :
    valuesAfter machine loopValues = machine.scope.values.without loopValues.names := by
  rw [valuesAfter, Table.without]
  congr 1
  funext name _
  rw [Bool.eq_iff_iff]
  simp only [Bool.not_eq_true', Bool.eq_false_iff, Ne, Table.containsIff, List.contains_iff_mem]

/-- Code that is one expression yields its value. -/
theorem runOfExpression {value : Expression} {result : Except Script.Failure Value}
    {after : Machine} (reads : parse code = .ok [.expression value])
    (evaluates : Script.outcome (evaluate settings.host value)
      ((machineOf session loopValues).prepare settings.helpers settings.isOpen) = (result, after)) :
    ((run settings code loopValues).outcome session).1 = result.mapError (failureOf code) := by
  rw [runOutcome, runExpression reads, evaluates]
  cases result <;> rfl

end Report

end Letterpress
