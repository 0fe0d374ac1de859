import Letterpress.Proofs.Scope.Helper
import Letterpress.Proofs.Value.Growth
import Letterpress.Script.Evaluation

/-!
This file shows what a program of one expression yields: the value of the expression on the machine
that was prepared for the run.
-/

namespace Letterpress

variable {scope : Scope} {name : String}

/-- Installing the helpers changes no other name. -/
theorem Scope.otherEnsure {helpers : Helpers} (scope : Scope)
    (notHelper : helpers.get? name = none) :
    (scope.ensure helpers).bindings.get? name = scope.bindings.get? name ∧
      (scope.ensure helpers).values.get? name = scope.values.get? name := by
  have view := Scope.viewEnsure helpers scope name
  rw [notHelper, Option.elim_none] at view
  exact Prod.mk.inj view

theorem Scope.lookupEnsure {helpers : Helpers} (notHelper : helpers.get? name = none) :
    (scope.ensure helpers).lookup? name = scope.lookup? name := by
  obtain ⟨sameBinding, sameValue⟩ := Scope.otherEnsure scope notHelper
  simp only [Scope.lookup?, sameBinding, sameValue]

namespace Script

variable {host : Host} {helpers : Helpers} {isOpen : Bool} {machine : Machine}

namespace Machine

/-- A machine is in place if its own record is on the heap. -/
def IsPlaced (machine : Machine) : Prop := machine.self < machine.heap.records.size

theorem scopeOfSet (isPlaced : machine.IsPlaced) (scope : Scope) :
    (machine.setScope scope).scope = scope := by
  rw [Machine.scope, setScope, Heap.recordOfSet isPlaced]

theorem scopeOfPrepare (isPlaced : machine.IsPlaced) (helpers : Helpers) (isOpen : Bool) :
    (machine.prepare helpers isOpen).scope = machine.scope.ensure helpers :=
  scopeOfSet isPlaced _

theorem startIsPlaced (heap : Heap) (values : Table Value) (shared : Scope) :
    (start heap values shared).IsPlaced := by
  simp [IsPlaced, start, fresh, Heap.addRecord]

theorem scopeOfStart (heap : Heap) (values : Table Value) (shared : Scope) :
    (start heap values shared).scope = ⟨values, Table.empty⟩ :=
  congrArg (Scope.mk · Table.empty) (Heap.recordOfAdd heap values)

/-- A name of the scope that no helper has is found on the prepared machine. -/
theorem lookupPrepared {value : Value} (isPlaced : machine.IsPlaced)
    (notHelper : helpers.get? name = none) (found : machine.scope.lookup? name = some value) :
    (machine.prepare helpers isOpen).lookup? name = some value := by
  have foundFirst : (machine.prepare helpers isOpen).scope.lookup? name = some value := by
    rw [scopeOfPrepare isPlaced, Scope.lookupEnsure notHelper, found]
  simp only [Machine.lookup?, foundFirst]

end Machine

theorem evaluateName {value : Value} (found : machine.lookup? name = some value) :
    outcome (evaluate host (.name name)) machine = (.ok value, machine) := by
  change outcome (Run.lookup name) machine = _
  rw [Run.outcomeLookup, found]

/-- A member of `this` is a value of the scope. -/
theorem evaluateOwn (host : Host) (machine : Machine) (name : String) :
    outcome (evaluate host (.member .this (.literal (.text name)))) machine =
      (.ok ((machine.scope.values.get? name).getD .null), machine) := rfl

/-- A member with a fixed name is read from the value of its object. -/
theorem evaluateMember (host : Host) {object : Expression} {receiver : Value} {after : Machine}
    (evaluates : outcome (evaluate host object) machine = (.ok receiver, after)) (name : String) :
    outcome (evaluate host (.member object (.literal (.text name)))) machine =
      (getMember host after.heap receiver (.text name), after) := by
  simp only [evaluate, outcomeBind, evaluates]
  rfl

/-- What came to the heap later does not change the members of a value. -/
theorem getMemberGrows {before after : Heap} {object : Value} (grows : before.Grows after)
    (isHeld : before.Holds object) (name : String) :
    getMember host after object (.text name) = getMember host before object (.text name) := by
  cases object with
  | list reference => simp only [getMember, grows.listSame isHeld]
  | tuple reference => simp only [getMember, grows.tupleSame isHeld]
  | record reference => simp only [getMember, fieldName, grows.recordSame isHeld]
  | _ => rfl

theorem rowMemberFound (length : Nat) (item : Nat → Value) (name : String) :
    ∃ value, rowMember length item (.text name) = .ok value := by
  unfold rowMember
  split
  · exact ⟨_, rfl⟩
  · obtain ⟨number, isNumber⟩ : ∃ number, (Value.text name).toNumber? = .ok number := by
      simp only [Value.toNumber?]
      split <;> exact ⟨_, rfl⟩
    cases number with
    | none => exact ⟨.null, by simp only [index?, isNumber]; rfl⟩
    | some number => exact ⟨_, by simp only [index?, isNumber]; rfl⟩

/-- Every value but null has a member under every name, if only null. -/
theorem memberFound {object : Value} (notNull : object ≠ .null) (host : Host) (heap : Heap)
    (name : String) : ∃ value, getMember host heap object (.text name) = .ok value := by
  cases object with
  | null => exact absurd rfl notNull
  | list reference =>
      obtain ⟨value, found⟩ := rowMemberFound (heap.list reference).size
        (fun place => (heap.list reference).getD place .null) name
      exact ⟨value, by simp only [getMember, found]; rfl⟩
  | tuple reference =>
      obtain ⟨value, found⟩ := rowMemberFound (heap.tuple reference).size
        (fun place => (heap.tuple reference).getD place .null) name
      exact ⟨value, by simp only [getMember, found]; rfl⟩
  | text content =>
      obtain ⟨value, found⟩ := rowMemberFound content.toList.length
        (fun place => .text ((content.toList.drop place).headD ' ').toString) name
      exact ⟨value, by simp only [getMember, found]; rfl⟩
  | _ => exact ⟨_, rfl⟩

/-- The result of a program of one expression is the value of the expression. -/
theorem runExpression {source : String} {value : Expression}
    (reads : parse source = .ok [.expression value]) :
    runProtected host helpers isOpen source machine =
      ((outcome (evaluate host value) (machine.prepare helpers isOpen)).1,
        (outcome (evaluate host value) (machine.prepare helpers isOpen)).2.recover helpers) := by
  have runs : outcome (runSource host source) (machine.prepare helpers isOpen) =
      outcome (evaluate host value) (machine.prepare helpers isOpen) := by
    rw [runSource, outcomeBind, reads]
    change outcome (execute host (.expression value) >>= fun result => pure result) _ = _
    rw [outcomeBind, execute]
    rcases outcome (evaluate host value) (machine.prepare helpers isOpen) with ⟨result, after⟩
    cases result <;> rfl
  simp only [runProtected, runs]

end Script

end Letterpress
