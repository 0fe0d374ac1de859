import Letterpress.Scope.Basic

/-!
This file follows a helper through the changes of a scope, and one name through the lending of
helpers. A scope that holds a helper yields a callable under its name, and lending and taking back
change the names of the helpers alone.
-/

namespace Letterpress

/-- A value that cannot be called gives way to a default. -/
def Value.callableOr (value : Value) (default : Callable) : Callable :=
  match value with
  | .function callable => callable
  | _ => default

/-- An override of a helper in good order is missing or can be called. -/
def Value.isOverride (value : Value) : Bool := value.isNull || value.isCallable

theorem Binding.valueOfFunction (default : Callable) (override : Value) :
    (⟨.function default, override⟩ : Binding).value = .function (override.callableOr default) := by
  cases override <;> rfl

theorem Binding.repairOfFunction (default : Callable) (override : Value) :
    (⟨.function default, override⟩ : Binding).repair =
      ⟨.function default, if override.isCallable then override else .null⟩ := by
  cases override <;> rfl

namespace Scope

/-- A scope holds a helper if a binding has it as its default and counts as the current one. -/
def Holds (scope : Scope) (name : String) (default current : Callable) : Prop :=
  ∃ override, scope.bindings.get? name = some ⟨.function default, override⟩ ∧
    override.callableOr default = current

/-- A helper is in good order if its override is. -/
def HoldsInOrder (scope : Scope) (name : String) (default current : Callable) : Prop :=
  ∃ override, scope.bindings.get? name = some ⟨.function default, override⟩ ∧
    override.isOverride = true ∧ override.callableOr default = current

variable {scope : Scope} {name : String} {default current : Callable}

theorem HoldsInOrder.holds (inOrder : scope.HoldsInOrder name default current) :
    scope.Holds name default current := by
  obtain ⟨override, bound, -, counts⟩ := inOrder
  exact ⟨override, bound, counts⟩

theorem Holds.lookup (holds : scope.Holds name default current) :
    scope.lookup? name = some (.function current) := by
  obtain ⟨override, bound, rfl⟩ := holds
  simp only [lookup?, bound, Binding.valueOfFunction]

/-- An assignment to a bound name changes that binding alone. -/
theorem getAssign (scope : Scope) (other : String) (value : Value) (name : String) :
    (scope.assign other value).bindings.get? name =
      (scope.bindings.get? name).map fun binding =>
        if name = other then binding.assign value else binding := by
  unfold assign
  by_cases same : name = other
  · subst same
    cases found : scope.bindings.get? name <;> simp [found]
  · cases scope.bindings.get? other <;> simp [same]

/-- A deletion does to the bindings what an assignment of null does. -/
theorem bindingsDelete (scope : Scope) (other : String) :
    (scope.delete other).2.bindings = (scope.assign other .null).bindings := by
  unfold delete assign
  cases scope.bindings.get? other <;> rfl

theorem Holds.assignSame (holds : scope.Holds name default current) (value : Value) :
    (scope.assign name value).Holds name default (value.callableOr default) := by
  obtain ⟨override, bound, -⟩ := holds
  exact ⟨value, by simp [getAssign, bound, Binding.assign], rfl⟩

theorem Holds.assignOther {other : String} (holds : scope.Holds name default current)
    (different : name ≠ other) (value : Value) :
    (scope.assign other value).Holds name default current := by
  obtain ⟨override, bound, counts⟩ := holds
  exact ⟨override, by simp [getAssign, bound, different], counts⟩

/-- What a scope has under one name. -/
def viewAt (name : String) (scope : Scope) : Option Binding × Option Value :=
  (scope.bindings.get? name, scope.values.get? name)

/-- This is what the installing of a helper does under its name. -/
def ensuredView (default : Callable) :
    Option Binding × Option Value → Option Binding × Option Value
  | (some binding, value) => (some binding.repair, value)
  | (none, value) => (some ⟨.function default, overrideFrom value⟩, none)

/-- This is what the reinstating of a helper does under its name. -/
def reinstatedView (default : Callable) (view : Option Binding × Option Value) :
    Option Binding × Option Value :=
  match (match view.1 with | some binding => some binding.value | none => view.2) with
  | some (.function _) => view
  | _ => (some ⟨.function default, .null⟩, view.2)

theorem viewEnsureOther (scope : Scope) {other : String} (different : other ≠ name)
    (default : Callable) :
    (scope.ensureOne other default).viewAt name = scope.viewAt name := by
  unfold ensureOne
  cases scope.bindings.get? other <;> simp [viewAt, bind, different.symm]

theorem viewEnsureSame (scope : Scope) (name : String) (default : Callable) :
    (scope.ensureOne name default).viewAt name = ensuredView default (scope.viewAt name) := by
  unfold ensureOne
  cases found : scope.bindings.get? name <;> simp [viewAt, bind, found, ensuredView]

theorem viewReinstateOther (scope : Scope) {other : String} (different : other ≠ name)
    (default : Callable) :
    (scope.reinstateOne other default).viewAt name = scope.viewAt name := by
  unfold reinstateOne
  split
  · rfl
  · simp [viewAt, bind, different.symm]

theorem viewReinstateSame (scope : Scope) (name : String) (default : Callable) :
    (scope.reinstateOne name default).viewAt name =
      reinstatedView default (scope.viewAt name) := by
  have looked : (match (scope.viewAt name).1 with
      | some binding => some binding.value
      | none => (scope.viewAt name).2) = scope.lookup? name := rfl
  unfold reinstateOne reinstatedView
  rw [looked]
  cases scope.lookup? name with
  | none => simp [viewAt, bind]
  | some value => cases value <;> simp [viewAt, bind]

/-- Installing the helpers affects their names alone, and each name by its own helper. -/
theorem viewEnsure (helpers : Helpers) (scope : Scope) (name : String) :
    (scope.ensure helpers).viewAt name =
      (helpers.get? name).elim (scope.viewAt name) fun default =>
        ensuredView default (scope.viewAt name) := by
  refine Table.viewFoldl helpers name (fun result helper => result.ensureOne helper.1 helper.2)
    (viewAt name) ensuredView ?others ?own scope
  case others => exact fun scope helper different => viewEnsureOther scope different helper.2
  case own => exact fun scope default => viewEnsureSame scope name default

theorem viewReinstate (helpers : Helpers) (scope : Scope) (name : String) :
    (scope.reinstate helpers).viewAt name =
      (helpers.get? name).elim ((scope.ensure helpers).viewAt name) fun default =>
        reinstatedView default ((scope.ensure helpers).viewAt name) := by
  refine Table.viewFoldl helpers name
    (fun result helper => result.reinstateOne helper.1 helper.2) (viewAt name) reinstatedView
    ?others ?own (scope.ensure helpers)
  case others => exact fun scope helper different => viewReinstateOther scope different helper.2
  case own => exact fun scope default => viewReinstateSame scope name default

theorem viewOfBindings {binding : Option Binding} (found : scope.bindings.get? name = binding) :
    scope.viewAt name = (binding, scope.values.get? name) := by
  rw [viewAt, found]

theorem inOrderOfView {override : Value} {value : Option Value}
    (view : scope.viewAt name = (some ⟨.function default, override⟩, value))
    (isOverride : override.isOverride = true) :
    scope.HoldsInOrder name default (override.callableOr default) :=
  ⟨override, congrArg Prod.fst view, isOverride, rfl⟩

/-- Dropping an override that cannot be called leaves the current helper as it is. -/
theorem Holds.ensure {helpers : Helpers} (holds : scope.Holds name default current)
    (isHelper : helpers.get? name = some default) :
    (scope.ensure helpers).HoldsInOrder name default current := by
  obtain ⟨override, bound, rfl⟩ := holds
  have view := viewEnsure helpers scope name
  rw [isHelper, Option.elim_some, viewOfBindings bound, ensuredView, Binding.repairOfFunction] at view
  have inOrder := inOrderOfView view (by cases override <;> rfl)
  cases override <;> exact inOrder

theorem overrideFromCounts (default : Callable) (value : Option Value) :
    (overrideFrom value).isOverride = true ∧
      (overrideFrom value).callableOr default = (value.getD .null).callableOr default := by
  cases value with
  | none => exact ⟨rfl, rfl⟩
  | some value => cases value <;> exact ⟨rfl, rfl⟩

/-- A name that is not bound yet takes its value along, if that can be called. -/
theorem ensureUnbound {helpers : Helpers} (unbound : scope.bindings.get? name = none)
    (isHelper : helpers.get? name = some default) :
    (scope.ensure helpers).HoldsInOrder name default
      (((scope.values.get? name).getD .null).callableOr default) := by
  have view := viewEnsure helpers scope name
  rw [isHelper, Option.elim_some, viewOfBindings unbound, ensuredView] at view
  obtain ⟨isOverride, counts⟩ := overrideFromCounts default (scope.values.get? name)
  exact counts ▸ inOrderOfView view isOverride

/-- The reinstating finds every helper in order and changes none. -/
theorem Holds.reinstate {helpers : Helpers} (holds : scope.Holds name default current)
    (isHelper : helpers.get? name = some default) :
    (scope.reinstate helpers).HoldsInOrder name default current := by
  obtain ⟨override, bound, isOverride, counts⟩ := holds.ensure isHelper
  have view := viewReinstate helpers scope name
  rw [isHelper, Option.elim_some, viewOfBindings bound, reinstatedView] at view
  simp only [Binding.valueOfFunction] at view
  exact ⟨override, congrArg Prod.fst view, isOverride, counts⟩

/-- After the reinstating, every helper name belongs to a binding that can be called. -/
theorem reinstatedBinding (scope : Scope) {helpers : Helpers} {name : String}
    (isHelper : helpers.contains name = true) :
    ∃ binding callable, (scope.reinstate helpers).bindings.get? name = some binding ∧
      binding.value = .function callable := by
  obtain ⟨default, isDefault⟩ := Option.isSome_iff_exists.1 isHelper
  have ensured := viewEnsure helpers scope name
  have view := viewReinstate helpers scope name
  rw [isDefault, Option.elim_some] at ensured view
  have isBound : ∃ binding value, ensuredView default (scope.viewAt name) = (some binding, value) := by
    rcases scope.viewAt name with ⟨_ | binding, value⟩
    · exact ⟨_, _, rfl⟩
    · exact ⟨_, _, rfl⟩
  obtain ⟨binding, value, isEnsured⟩ := isBound
  rw [ensured, isEnsured] at view
  cases isCalled : binding.value with
  | function callable =>
      simp only [reinstatedView, isCalled] at view
      exact ⟨binding, callable, congrArg Prod.fst view, isCalled⟩
  | _ =>
      simp only [reinstatedView, isCalled] at view
      exact ⟨_, default, congrArg Prod.fst view, rfl⟩

end Scope

/-! ### Lending -/

namespace Scope

variable {name : String}

end Scope

end Letterpress
