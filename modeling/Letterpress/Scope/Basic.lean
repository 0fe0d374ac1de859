import Letterpress.Value.Basic

/-!
This file holds the names that a script sees. Some names are plain values; a helper name is a
binding, which yields its default whenever its override cannot be called. Helpers are installed in a
scope and lent to a shared scope for the time of one render.
-/

namespace Letterpress

/-- A binding has a default and remembers what a script assigned to it. -/
structure Binding where
  default : Value
  override : Value
  deriving DecidableEq, Repr

namespace Binding

/-- An override counts only if it can be called. -/
def value (binding : Binding) : Value :=
  if binding.override.isCallable then binding.override else binding.default

def assign (binding : Binding) (value : Value) : Binding := { binding with override := value }

/-- An override that cannot be called is corrupt. -/
def isCorrupt (binding : Binding) : Bool :=
  !binding.override.isNull && !binding.override.isCallable

/-- This drops a corrupt override. -/
def repair (binding : Binding) : Binding :=
  if binding.isCorrupt then { binding with override := .null } else binding

end Binding

/-- A scope resolves names through its bindings first and its values then. -/
structure Scope where
  values : Table Value
  bindings : Table Binding

namespace Scope

def empty : Scope := ⟨Table.empty, Table.empty⟩

def has (scope : Scope) (name : String) : Bool :=
  scope.bindings.contains name || scope.values.contains name

def lookup? (scope : Scope) (name : String) : Option Value :=
  match scope.bindings.get? name with
  | some binding => some binding.value
  | none => scope.values.get? name

/-- A binding records the value as its override. -/
def assign (scope : Scope) (name : String) (value : Value) : Scope :=
  match scope.bindings.get? name with
  | some binding => { scope with bindings := scope.bindings.insert name (binding.assign value) }
  | none => { scope with values := scope.values.insert name value }

/-- A deleted binding loses its override; a deleted value counts unless it was null. -/
def delete (scope : Scope) (name : String) : Bool × Scope :=
  match scope.bindings.get? name with
  | some binding =>
      (true, { scope with bindings := scope.bindings.insert name (binding.assign .null) })
  | none =>
      (!((scope.values.get? name).getD .null).isNull,
        { scope with values := scope.values.erase name })

def bind (scope : Scope) (name : String) (binding : Binding) : Scope :=
  { scope with bindings := scope.bindings.insert name binding }

/-- This removes a binding and tells whether there was one. -/
def unbind (scope : Scope) (name : String) : Bool × Scope :=
  (scope.bindings.contains name, { scope with bindings := scope.bindings.erase name })

/-- This repairs one binding and tells whether it was corrupt. -/
def reset (scope : Scope) (name : String) : Bool × Scope :=
  match scope.bindings.get? name with
  | some binding => (binding.isCorrupt, scope.bind name binding.repair)
  | none => (false, scope)

end Scope

/-- Helpers are callables by name. -/
abbrev Helpers := Table Callable

namespace Helpers

/-- The standard helper is named `c`. -/
def standard : Helpers := Table.empty.insert "c" .helper

/-- An empty choice of helpers stands for the standard one. -/
def orStandard (helpers : Helpers) : Helpers :=
  if helpers.entries.isEmpty then standard else helpers

end Helpers

namespace Scope

/-- A callable value found under the name of a helper becomes the override. -/
def overrideFrom (value : Option Value) : Value :=
  match value with
  | some (.function function) => .function function
  | _ => .null

/-- A helper that is already installed is repaired, and any other is installed. -/
def ensureOne (scope : Scope) (name : String) (default : Callable) : Scope :=
  match scope.bindings.get? name with
  | some binding => scope.bind name binding.repair
  | none =>
      { values := scope.values.erase name
        bindings :=
          scope.bindings.insert name ⟨.function default, overrideFrom (scope.values.get? name)⟩ }

/-- This makes every helper name a binding. -/
def ensure (helpers : Helpers) (scope : Scope) : Scope :=
  helpers.entries.foldl (fun result helper => result.ensureOne helper.1 helper.2) scope

/-- A name that cannot be called is bound to the helper anew. -/
def reinstateOne (scope : Scope) (name : String) (default : Callable) : Scope :=
  match scope.lookup? name with
  | some (.function _) => scope
  | _ => scope.bind name ⟨.function default, .null⟩

/-- After this every helper name can be called. -/
def reinstate (helpers : Helpers) (scope : Scope) : Scope :=
  helpers.entries.foldl (fun result helper => result.reinstateOne helper.1 helper.2)
    (scope.ensure helpers)

/-- This is what a scope had under one name. -/
structure Saved where
  name : String
  binding : Option Binding
  value : Option Value

def save (helpers : Helpers) (scope : Scope) : List Saved :=
  helpers.names.map fun name => ⟨name, scope.bindings.get? name, scope.values.get? name⟩

/-- The helper itself is its first override. -/
def lendOne (scope : Scope) (name : String) (default : Callable) : Scope where
  values := scope.values.erase name
  bindings := scope.bindings.insert name ⟨.function default, .function default⟩

/-- This lends the helpers to a scope. -/
def lend (helpers : Helpers) (scope : Scope) : Scope :=
  helpers.entries.foldl (fun result helper => result.lendOne helper.1 helper.2) scope

def restoreOne (scope : Scope) (saved : Saved) : Scope where
  values := match saved.value with
    | some value => scope.values.insert saved.name value
    | none => scope.values.erase saved.name
  bindings := match saved.binding with
    | some binding => scope.bindings.insert saved.name binding
    | none => scope.bindings.erase saved.name

/-- This takes the helpers back and restores what the scope had under their names. -/
def restore (saved : List Saved) (scope : Scope) : Scope := saved.foldl restoreOne scope

end Scope

end Letterpress
