import Letterpress.Proofs.Scope.Helper
import Letterpress.Proofs.Script.Journal

/-!
This file shows that no script takes a helper away. Whatever scripts assign or delete, a helper
can be called at every look-up and after every run.
-/

namespace Letterpress.Script

/-- The value that was given to a name last, by an assignment or a deletion. -/
def Journal.lastGiven (name : String) (initial : Value) : Journal → Value
  | [] => initial
  | .lookup _ _ :: earlier => lastGiven name initial earlier
  | .assign other value :: earlier =>
      if name = other then value else lastGiven name initial earlier
  | .delete other :: earlier =>
      if name = other then .null else lastGiven name initial earlier

/-- A helper is replaced by the value that was given to its name last, if that can be called. -/
def Journal.currentHelper (name : String) (default : Callable) (initial : Value)
    (journal : Journal) : Callable :=
  (journal.lastGiven name initial).callableOr default

/-- A resilient helper is held by the scope, and it could be called at every look-up so far. -/
structure Resilient (name : String) (default : Callable) (initial : Value) (watch : Watch) :
    Prop where
  holds : watch.machine.scope.Holds name default (watch.journal.currentHelper name default initial)
  looked : ∀ later other machine earlier,
    watch.journal = later ++ .lookup other machine :: earlier →
      machine.lookup? name = some (.function (Journal.currentHelper name default initial earlier))

namespace Resilient

variable {name : String} {default : Callable} {initial : Value} {watch : Watch}

theorem lookupHelper (resilient : Resilient name default initial watch) :
    watch.machine.lookup? name =
      some (.function (watch.journal.currentHelper name default initial)) := by
  rw [Machine.lookup?, resilient.holds.lookup]

/-- An event that is no look-up leaves the look-ups before it as they were. -/
theorem lookedBefore {event : NameEvent} {later : Journal} {other : String} {machine : Machine}
    {earlier : Journal} (resilient : Resilient name default initial watch)
    (split : event :: watch.journal = later ++ .lookup other machine :: earlier)
    (isNoLookup : ∀ other machine, event ≠ .lookup other machine) :
    machine.lookup? name =
      some (.function (Journal.currentHelper name default initial earlier)) := by
  cases later with
  | nil => exact absurd (List.cons.inj split).1 (isNoLookup other machine)
  | cons first rest => exact resilient.looked rest other machine earlier (List.cons.inj split).2

theorem frame {machine : Machine} (same : machine.bindings = watch.machine.bindings)
    (resilient : Resilient name default initial watch) :
    Resilient name default initial { watch with machine := machine } where
  holds := by
    obtain ⟨override, bound, counts⟩ := resilient.holds
    exact ⟨override, (congrArg (·.get? name) same).trans bound, counts⟩
  looked := resilient.looked

theorem lookup (other : String) (resilient : Resilient name default initial watch) :
    Resilient name default initial (watch.lookup other) where
  holds := resilient.holds
  looked := by
    intro later looked machine earlier split
    cases later with
    | nil =>
        obtain ⟨sameEvent, rfl⟩ := List.cons.inj split
        obtain ⟨-, rfl⟩ := NameEvent.lookup.inj sameEvent
        exact resilient.lookupHelper
    | cons first rest => exact resilient.looked rest looked machine earlier (List.cons.inj split).2

theorem assign (other : String) (value : Value)
    (resilient : Resilient name default initial watch) :
    Resilient name default initial (watch.assign other value) where
  holds := by
    change (watch.machine.scope.assign other value).Holds name default
      ((if name = other then value else watch.journal.lastGiven name initial).callableOr default)
    by_cases same : name = other
    · subst same
      rw [if_pos rfl]
      exact resilient.holds.assignSame value
    · rw [if_neg same]
      exact resilient.holds.assignOther same value
  looked _ _ _ _ split := resilient.lookedBefore split nofun

theorem delete (other : String) (resilient : Resilient name default initial watch) :
    Resilient name default initial (watch.delete other) where
  holds := by
    obtain ⟨override, bound, counts⟩ := (resilient.assign other .null).holds
    refine ⟨override, ?_, counts⟩
    exact (congrArg (·.get? name) (watch.machine.scope.bindingsDelete other)).trans bound
  looked _ _ _ _ split := resilient.lookedBefore split nofun

theorem invariant (name : String) (default : Callable) (initial : Value) :
    WatchInvariant (Resilient name default initial) :=
  ⟨frame, lookup, assign, delete⟩

/-- The helpers of a machine are reinstated in order. -/
theorem recover {helpers : Helpers} (resilient : Resilient name default initial watch)
    (isHelper : helpers.get? name = some default) :
    (watch.machine.recover helpers).scope.HoldsInOrder name default
      (watch.journal.currentHelper name default initial) :=
  resilient.holds.reinstate isHelper

end Resilient

/-- A watch is ready if its helper is resilient as soon as the helpers are installed. -/
def Ready (helpers : Helpers) (isOpen : Bool) (name : String) (default : Callable)
    (initial : Value) (watch : Watch) : Prop :=
  Resilient name default initial { watch with machine := watch.machine.prepare helpers isOpen }

section

variable {helpers : Helpers} {name : String} {default : Callable} {initial : Value}
  {watch : Watch} (host : Host) (isOpen : Bool)

theorem readyOfFresh (isHelper : helpers.get? name = some default) (heap : Heap)
    (self : Reference) (shared : Scope) :
    Ready helpers isOpen name default (((heap.record self).get? name).getD .null)
      (Watch.start (Machine.fresh heap self shared)) where
  holds := (Scope.ensureUnbound rfl isHelper).holds
  looked _ _ _ _ split := absurd split.symm (List.append_ne_nil_of_right_ne_nil _ (List.cons_ne_nil _ _))

theorem readyOfResilient (isHelper : helpers.get? name = some default)
    (resilient : Resilient name default initial watch) :
    Ready helpers isOpen name default initial watch where
  holds := (resilient.holds.ensure isHelper).holds
  looked := resilient.looked

/-- A run begins and ends with resilient helpers, and it ends with helpers in order. -/
theorem resilientAfterRun (isHelper : helpers.get? name = some default)
    (ready : Ready helpers isOpen name default initial watch) (source : String) :
    let after := (runWatched host helpers isOpen source watch).2
    Resilient name default initial after ∧
      after.machine.scope.HoldsInOrder name default
        (after.journal.currentHelper name default initial) := by
  have resilient := (Resilient.invariant name default initial).keeping.relatedRunSource host source
    { watch with machine := watch.machine.prepare helpers isOpen } ready
  have inOrder := resilient.recover isHelper
  exact ⟨⟨inOrder.holds, resilient.looked⟩, inOrder⟩

theorem resilientAfterRuns (isHelper : helpers.get? name = some default)
    (ready : Ready helpers isOpen name default initial watch) (source : String)
    (rest : List String) :
    let after := (runEach (runWatched host helpers isOpen) (source :: rest) watch).2
    Resilient name default initial after ∧
      after.machine.scope.HoldsInOrder name default
        (after.journal.currentHelper name default initial) := by
  rw [stateRunEach]
  induction rest generalizing source watch with
  | nil => exact resilientAfterRun host isOpen isHelper ready source
  | cons next rest inductionHypothesis =>
      have afterFirst := (resilientAfterRun host isOpen isHelper ready source).1
      rw [stateRunEach]
      exact inductionHypothesis (readyOfResilient isOpen isHelper afterFirst) next

end

/-- Scripts that run one after the other on a fresh scope never lose a helper. The journal of the
runs tells what was given to its name; a look-up at any time and the binding after any run agree
with it. -/
theorem helperSurvivesRuns (host : Host) (helpers : Helpers) (isOpen : Bool)
    (sources : List String) (heap : Heap) (self : Reference) (shared : Scope) (name : String)
    (default : Callable) (isHelper : helpers.get? name = some default) :
    let fresh := Machine.fresh heap self shared
    let initial := ((heap.record self).get? name).getD .null
    let ran := runEach (runProtected host helpers isOpen) sources fresh
    let watched := runEach (runWatched host helpers isOpen) sources (Watch.start fresh)
    Watch.forget watched = ran ∧
      (∀ later looked machine earlier,
        watched.2.journal = later ++ .lookup looked machine :: earlier →
          machine.lookup? name =
            some (.function (Journal.currentHelper name default initial earlier))) ∧
      (sources ≠ [] →
        (∃ override, ran.2.bindings.get? name = some ⟨.function default, override⟩ ∧
          (override = .null ∨ override.isCallable = true)) ∧
        ran.2.lookup? name =
          some (.function (watched.2.journal.currentHelper name default initial))) := by
  intro fresh initial ran watched
  have forgotten : Watch.forget watched = ran := forgetRunEach host helpers isOpen sources _
  have machineSame : watched.2.machine = ran.2 := congrArg Prod.snd forgotten
  have ready := readyOfFresh isOpen isHelper heap self shared
  refine ⟨forgotten, ?_, ?_⟩
  · cases sources with
    | nil => exact ready.looked
    | cons source rest => exact (resilientAfterRuns host isOpen isHelper ready source rest).1.looked
  · intro someSource
    obtain ⟨source, rest, rfl⟩ := List.exists_cons_of_ne_nil someSource
    obtain ⟨resilient, inOrder⟩ := resilientAfterRuns host isOpen isHelper ready source rest
    rw [← machineSame]
    refine ⟨?_, resilient.lookupHelper⟩
    obtain ⟨override, bound, isOverride, -⟩ := inOrder
    refine ⟨override, bound, ?_⟩
    cases override <;> simp_all [Value.isOverride, Value.isNull, Value.isCallable]

/-- The standard helper survives scripts that overwrite, shadow and delete it, and a failure. -/
theorem standardHelperSurvives :
    Helpers.standard.get? "c" = some .helper ∧
      let ran := runEach (runProtected Host.standard Helpers.standard false)
        ["c = 42; missing", "delete c; this.c = 'x'"] (Machine.fresh Heap.empty 0 Scope.empty)
      (∃ override, ran.2.bindings.get? "c" = some ⟨.function .helper, override⟩ ∧
        (override = .null ∨ override.isCallable = true)) :=
  ⟨rfl, ((helperSurvivesRuns Host.standard Helpers.standard false
    ["c = 42; missing", "delete c; this.c = 'x'"] Heap.empty 0 Scope.empty "c" .helper rfl).2.2
    (by decide)).1⟩

example : (runProtected Host.standard Helpers.standard false "c = 42; c"
    (Machine.start Heap.empty Table.empty Scope.empty)).1.toOption =
      some (.function .helper) := by
  decide +kernel

end Letterpress.Script
