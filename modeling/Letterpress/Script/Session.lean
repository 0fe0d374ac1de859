import Letterpress.Script.Evaluation

/-!
This file strings together what can be done to a scope of its own and to the shared one: single
operations, runs of scripts, and lending the helpers.
-/

namespace Letterpress.Script

/-- An operation on a single scope. -/
inductive ScopeAction
  | has (name : String)
  | assign (name : String) (value : Value)
  | delete (name : String)
  | bind (name : String) (binding : Binding)
  | unbind (name : String)
  | reset (name : String)
  | ensure
  | reinstate

namespace ScopeAction

def quiet (scope : Scope) : Value × Scope := (.null, scope)

def telling (outcome : Bool × Scope) : Value × Scope := (.bool outcome.1, outcome.2)

/-- An operation that tells nothing yields null. -/
def apply (helpers : Helpers) (action : ScopeAction) (scope : Scope) : Value × Scope :=
  match action with
  | has name => (.bool (scope.has name), scope)
  | assign name value => quiet (scope.assign name value)
  | delete name => telling (scope.delete name)
  | bind name binding => quiet (scope.bind name binding)
  | unbind name => telling (scope.unbind name)
  | reset name => telling (scope.reset name)
  | ensure => quiet (scope.ensure helpers)
  | reinstate => quiet (scope.reinstate helpers)

end ScopeAction

inductive Target
  | own
  | shared
  deriving DecidableEq, Repr

/-- Whoever lends the helpers to the shared scope takes them back in turn, the last one first. An
entry that lends nothing takes nothing back. -/
structure Session where
  machine : Machine
  helpers : Helpers
  isOpen : Bool
  lent : List (Option (List Scope.Saved))

namespace Session

def scope (session : Session) : Target → Scope
  | .own => session.machine.scope
  | .shared => session.machine.shared

def setScope (session : Session) (target : Target) (scope : Scope) : Session :=
  match target with
  | .own => { session with machine := session.machine.setScope scope }
  | .shared => { session with machine := { session.machine with shared := scope } }

def act (session : Session) (target : Target) (action : ScopeAction) : Value × Session :=
  let (value, scope) := action.apply session.helpers (session.scope target)
  (value, session.setScope target scope)

def lookup (session : Session) (target : Target) (name : String) : Except Failure Value :=
  let found := match target with
    | .own => session.machine.lookup? name
    | .shared => session.machine.shared.lookup? name
  match found with
  | some value => .ok value
  | none => .error (.problem (.undefinedName name))

/-- Only callables can be called by name. -/
def call (host : Host) (session : Session) (target : Target) (name : String)
    (arguments : List Value) : Except Failure Value := do
  match ← session.lookup target name with
  | .function callable => liftFault (host.apply session.machine.heap callable arguments)
  | _ => throw (.fault .wrongType)

/-- Scripts always run on the own scope. -/
def run (host : Host) (session : Session) (source : String) : Except Failure Value × Session :=
  let (result, after) :=
    runProtected host session.helpers session.isOpen source session.machine
  (result, { session with machine := after })

/-- The shared scope stays when the own one is new. -/
def renew (session : Session) (self : Reference) : Session :=
  { session with machine := Machine.fresh session.machine.heap self session.machine.shared }

def enter (session : Session) (isLending : Bool) : Session :=
  let shared := session.machine.shared
  if isLending then
    { session.setScope .shared (shared.lend session.helpers) with
      lent := some (shared.save session.helpers) :: session.lent }
  else { session with lent := none :: session.lent }

/-- This ends the last entry, if there is one. -/
def exit (session : Session) : Session :=
  match session.lent with
  | [] => session
  | none :: rest => { session with lent := rest }
  | some saved :: rest =>
      { session.setScope .shared (session.machine.shared.restore saved) with lent := rest }

end Session

end Letterpress.Script
