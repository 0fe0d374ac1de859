import Letterpress.Proofs.Scope.Helper
import Letterpress.Script.Session

/-!
This file follows the shared scope through entries that lend helpers to it. Entries and exits are
nested, and whatever happens between them, an exit restores what its entry found.
-/

namespace Letterpress.Script

/-- A script runs on values and bindings of its own. -/
structure Context where
  heap : Heap
  self : Reference
  bindings : Table Binding

/-- An entry is left in the normal way, or by a failure that nothing inside of it has caught. -/
inductive Departure
  | normal
  | failing
  deriving DecidableEq, Repr

/-- What happens to a session. Everything comes with helpers of its own, and a script also with its
host and its context. -/
inductive Event
  | act (helpers : Helpers) (target : Target) (action : ScopeAction)
  | run (host : Host) (helpers : Helpers) (isOpen : Bool) (source : String) (context : Context)
  | enter (helpers : Helpers) (isLending : Bool)
  | exit (departure : Departure)

namespace Session

def choose (helpers : Helpers) (session : Session) : Session :=
  { session with helpers := helpers.orStandard }

/-- Another context takes the place of the own one and stands beside the same shared scope. -/
def turnTo (context : Context) (isOpen : Bool) (session : Session) : Session :=
  { session with
    machine := ⟨context.heap, context.self, context.bindings, session.machine.shared, false⟩
    isOpen := isOpen }

/-- The departure makes no difference: the exit restores the shared scope in both cases. -/
def step (session : Session) : Event → Session
  | .act helpers target action => ((session.choose helpers).act target action).2
  | .run host helpers isOpen source context =>
      (((session.choose helpers).turnTo context isOpen).run host source).2
  | .enter helpers isLending => (session.choose helpers).enter isLending
  | .exit _ => session.exit

def after (session : Session) (events : List Event) : Session := events.foldl step session

def shared (session : Session) : Scope := session.machine.shared

end Session

end Letterpress.Script
