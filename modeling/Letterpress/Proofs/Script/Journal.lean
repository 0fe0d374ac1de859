import Letterpress.Proofs.Script.Correspondence

/-!
This file watches scripts. A watched run keeps a journal of what the script does with names, and
apart from the journal it is the run itself.
-/

namespace Letterpress.Script

/-- A script looks a name up on a machine, assigns to it or deletes it. -/
inductive NameEvent
  | lookup (name : String) (machine : Machine)
  | assign (name : String) (value : Value)
  | delete (name : String)

/-- The latest event comes first. -/
abbrev Journal := List NameEvent

structure Watch where
  machine : Machine
  journal : Journal

/-- A watch begins with an empty journal. -/
def Watch.start (machine : Machine) : Watch := ⟨machine, []⟩

def Watch.note (watch : Watch) (event : NameEvent) : Watch :=
  { watch with journal := event :: watch.journal }

abbrev WatchedRun := ExceptT Failure (StateM Watch)

namespace WatchedRun

/-- This runs on the machine and notes nothing. -/
def unnoted {Result : Type} (run : Run Result) : WatchedRun Result :=
  ExceptT.mk fun watch =>
    let (result, machine) := outcome run watch.machine
    (result, { watch with machine := machine })

/-- The event is noted before the operation, with the machine as it is then. -/
def noted {Result : Type} (event : Machine → NameEvent) (run : Run Result) :
    WatchedRun Result :=
  ExceptT.mk fun watch => StateT.run (ExceptT.run (unnoted run)) (watch.note (event watch.machine))

instance : Scripting WatchedRun where
  query read := unnoted (Run.query read)
  self := unnoted Scripting.self
  lookup name := noted (.lookup name) (Run.lookup name)
  assign name value := noted (fun _ => .assign name value) (Run.assign name value)
  delete name := noted (fun _ => .delete name) (Run.delete name)
  newList items := unnoted (Run.newList items)
  setMember object key value := unnoted (Run.setMember object key value)
  deleteMember object key := unnoted (Run.deleteMember object key)

theorem outcomeUnnoted {Result : Type} (run : Run Result) (watch : Watch) :
    outcome (unnoted run) watch =
      ((outcome run watch.machine).1, { watch with machine := (outcome run watch.machine).2 }) := rfl

end WatchedRun

/-- This forgets the journal. -/
def Watch.forget {Result : Type} (watched : Result × Watch) : Result × Machine :=
  (watched.1, watched.2.machine)

/-- A watched run differs from the run only in its journal. -/
def forgetting : Correspondence WatchedRun Run where
  Related watched run :=
    ∀ watch, Watch.forget (outcome watched watch) = outcome run watch.machine
  pure _ _ := rfl
  bind {_ _ left right leftNext rightNext} related relatedNext watch := by
    have same := related watch
    change Watch.forget (outcome (left >>= leftNext) watch) =
      outcome (right >>= rightNext) watch.machine
    rw [outcomeBind, outcomeBind, ← same]
    rcases outcome left watch with ⟨result, after⟩
    cases result with
    | ok result => exact relatedNext result after
    | error failure => rfl
  query _ _ := rfl
  self _ := rfl
  lookup _ _ := rfl
  assign _ _ _ := rfl
  delete _ _ := rfl
  newList _ _ := rfl
  setMember _ _ _ _ := rfl
  deleteMember _ _ _ := rfl

/-- These are the changes that the operations on names make. -/
def Watch.lookup (watch : Watch) (name : String) : Watch := watch.note (.lookup name watch.machine)

def Watch.assign (watch : Watch) (name : String) (value : Value) : Watch where
  machine := watch.machine.setScope (watch.machine.scope.assign name value)
  journal := .assign name value :: watch.journal

def Watch.delete (watch : Watch) (name : String) : Watch where
  machine := watch.machine.setScope (watch.machine.scope.delete name).2
  journal := .delete name :: watch.journal

/-- A property of the bindings and the journal that the operations on names keep. -/
structure WatchInvariant (property : Watch → Prop) : Prop where
  frame {watch : Watch} {machine : Machine} :
    machine.bindings = watch.machine.bindings → property watch →
      property { watch with machine := machine }
  lookup {watch : Watch} (name : String) : property watch → property (watch.lookup name)
  assign {watch : Watch} (name : String) (value : Value) :
    property watch → property (watch.assign name value)
  delete {watch : Watch} (name : String) : property watch → property (watch.delete name)

namespace WatchInvariant

variable {property : Watch → Prop}

theorem keepsUnnoted (invariant : WatchInvariant property) {Result : Type} {run : Run Result}
    {watch : Watch} (same : (outcome run watch.machine).2.bindings = watch.machine.bindings)
    (holds : property watch) : property (outcome (WatchedRun.unnoted run) watch).2 := by
  rw [WatchedRun.outcomeUnnoted]
  exact invariant.frame same holds

/-- A run keeps a property if the property holds after it, also when it fails. -/
def keeping (invariant : WatchInvariant property) : Correspondence WatchedRun WatchedRun where
  Related run _ := ∀ watch, property watch → property (outcome run watch).2
  pure _ _ holds := holds
  bind {_ _ left _ leftNext _} keepsFirst keepsNext watch holds := by
    have afterFirst := keepsFirst watch holds
    change property (outcome (left >>= leftNext) watch).2
    rw [outcomeBind]
    revert afterFirst
    rcases outcome left watch with ⟨result, after⟩
    intro afterFirst
    cases result with
    | ok result => exact keepsNext result after afterFirst
    | error failure => exact afterFirst
  query _ _ holds := invariant.keepsUnnoted rfl holds
  self _ holds := invariant.keepsUnnoted rfl holds
  lookup name watch holds := by
    have same : (outcome (Run.lookup name) watch.machine).2 = watch.machine := by
      rw [Run.outcomeLookup]
    exact invariant.keepsUnnoted (congrArg Machine.bindings same) (invariant.lookup name holds)
  assign name value _ holds := invariant.assign name value holds
  delete name _ holds := invariant.delete name holds
  newList _ _ holds := invariant.keepsUnnoted rfl holds
  setMember object key value watch holds := by
    refine invariant.keepsUnnoted ?_ holds
    rw [Run.outcomeSetMember]
    split <;> rfl
  deleteMember object key watch holds := by
    refine invariant.keepsUnnoted ?_ holds
    rw [Run.outcomeDeleteMember]
    split <;> rfl

end WatchInvariant

/-- A protected run is watched while the script runs. -/
def runWatched (host : Host) (helpers : Helpers) (isOpen : Bool) (source : String)
    (watch : Watch) : Except Failure Value × Watch :=
  let (result, after) := outcome (runSource host source : WatchedRun Value)
    { watch with machine := watch.machine.prepare helpers isOpen }
  (result, { after with machine := after.machine.recover helpers })

theorem forgetRunWatched (host : Host) (helpers : Helpers) (isOpen : Bool) (source : String)
    (watch : Watch) :
    Watch.forget (runWatched host helpers isOpen source watch) =
      runProtected host helpers isOpen source watch.machine := by
  have same := forgetting.relatedRunSource host source
    { watch with machine := watch.machine.prepare helpers isOpen }
  simp only [runProtected, ← same]
  rfl

/-- This runs sources one after the other and lists the results. -/
def runEach {State : Type} (run : String → State → Except Failure Value × State) :
    List String → State → List (Except Failure Value) × State
  | [], state => ([], state)
  | source :: rest, state =>
      let (result, next) := run source state
      let (results, final) := runEach run rest next
      (result :: results, final)

theorem stateRunEach {State : Type} (run : String → State → Except Failure Value × State)
    (source : String) (rest : List String) (state : State) :
    (runEach run (source :: rest) state).2 = (runEach run rest (run source state).2).2 := rfl

theorem forgetRunEach (host : Host) (helpers : Helpers) (isOpen : Bool) (sources : List String)
    (watch : Watch) :
    Watch.forget (runEach (runWatched host helpers isOpen) sources watch) =
      runEach (runProtected host helpers isOpen) sources watch.machine := by
  induction sources generalizing watch with
  | nil => rfl
  | cons source rest inductionHypothesis =>
      simp only [runEach, ← forgetRunWatched, ← inductionHypothesis, Watch.forget]

end Letterpress.Script
