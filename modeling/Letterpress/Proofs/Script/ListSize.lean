import Letterpress.Proofs.Script.Correspondence
import Letterpress.Proofs.Script.MemberChange
import Letterpress.Proofs.Value.Growth

/-!
This file shows that no script resizes a list. An application may act on the heap while a script runs,
as long as it resizes none either.
-/

namespace Letterpress.Script

/-! ### Applications that act -/

/-- A stage holds a machine and what the application is going to do to its heap. -/
structure Stage where
  machine : Machine
  actions : List (Heap → Heap)

/-- The next action is done, if there is one left. -/
def Stage.act (stage : Stage) : Stage :=
  match stage.actions with
  | [] => stage
  | action :: rest => ⟨{ stage.machine with heap := action stage.machine.heap }, rest⟩

abbrev StagedRun := ExceptT Failure (StateM Stage)

namespace StagedRun

def onMachine {Result : Type} (run : Run Result) : StagedRun Result :=
  ExceptT.mk fun stage =>
    let (result, machine) := outcome run stage.machine
    (result, { stage with machine := machine })

/-- A function of the application is called by a query, so the application acts before each one. -/
def query {Result : Type} (read : Heap → Except Failure Result) : StagedRun Result :=
  ExceptT.mk fun stage => StateT.run (ExceptT.run (onMachine (Run.query read))) stage.act

instance : Scripting StagedRun where
  query := query
  self := onMachine Scripting.self
  lookup name := onMachine (Run.lookup name)
  assign name value := onMachine (Run.assign name value)
  delete name := onMachine (Run.delete name)
  newList items := onMachine (Run.newList items)
  setMember object key value := onMachine (Run.setMember object key value)
  deleteMember object key := onMachine (Run.deleteMember object key)

end StagedRun

/-- The helpers are installed before a run and reinstated after it. -/
def runStaged (host : Host) (helpers : Helpers) (isOpen : Bool) (source : String) (stage : Stage) :
    Except Failure Value × Stage :=
  let (result, after) := outcome (runSource host source : StagedRun Value)
    { stage with machine := stage.machine.prepare helpers isOpen }
  (result, { after with machine := after.machine.recover helpers })

/-- This is the stage of an application that does nothing. -/
def Stage.idle (machine : Machine) : Stage := ⟨machine, []⟩

/-- Without actions a staged run is a run. -/
def idling : Correspondence StagedRun Run where
  Related staged run :=
    ∀ machine, outcome staged (.idle machine) = ((outcome run machine).1, .idle (outcome run machine).2)
  pure _ _ := rfl
  bind {_ _ left right leftNext rightNext} related relatedNext machine := by
    have same := related machine
    change outcome (left >>= leftNext) (.idle machine) =
      ((outcome (right >>= rightNext) machine).1, .idle (outcome (right >>= rightNext) machine).2)
    rw [outcomeBind, outcomeBind, same]
    rcases outcome right machine with ⟨result, after⟩
    cases result with
    | ok result => exact relatedNext result after
    | error failure => rfl
  query _ _ := rfl
  self _ := rfl
  lookup _ _ := rfl
  assign _ _ _ := rfl
  delete _ _ := rfl
  newList _ _ := rfl
  setMember _ _ _ _ := rfl
  deleteMember _ _ _ := rfl

theorem runStagedIdle (host : Host) (helpers : Helpers) (isOpen : Bool) (source : String)
    (machine : Machine) : runStaged host helpers isOpen source (.idle machine) =
      ((runProtected host helpers isOpen source machine).1,
        .idle (runProtected host helpers isOpen source machine).2) := by
  have same := idling.relatedRunSource host source (machine.prepare helpers isOpen)
  exact congrArg (fun ran : Except Failure Value × Stage =>
    (ran.1, { ran.2 with machine := ran.2.machine.recover helpers })) same

/-! ### Sizes of lists -/

/-- The application resizes no list. -/
def Stage.ActsInSize (stage : Stage) : Prop :=
  ∀ action ∈ stage.actions, ∀ heap : Heap, heap.KeepsSizes (action heap)

/-- Lists keep their sizes, and no action is new. -/
structure Stage.KeepsSizes (before after : Stage) : Prop where
  heap : before.machine.heap.KeepsSizes after.machine.heap
  actions : after.actions ⊆ before.actions

section

variable {before middle after stage : Stage}

theorem Stage.KeepsSizes.trans (first : before.KeepsSizes middle) (second : middle.KeepsSizes after) :
    before.KeepsSizes after :=
  ⟨first.heap.trans second.heap, List.Subset.trans second.actions first.actions⟩

theorem Stage.ActsInSize.later (acts : before.ActsInSize) (keeps : before.KeepsSizes after) :
    after.ActsInSize :=
  fun action isInside => acts action (keeps.actions isInside)

theorem Stage.actKeepsSizes (acts : stage.ActsInSize) : stage.KeepsSizes stage.act := by
  rcases stage with ⟨machine, actions⟩
  cases actions with
  | nil => exact ⟨.refl _, List.Subset.refl _⟩
  | cons action rest =>
      exact ⟨acts action (List.mem_cons_self ..) machine.heap, List.subset_cons_self ..⟩

theorem onMachineKeepsSizes {Result : Type} {run : Run Result}
    (keeps : ∀ machine : Machine, machine.heap.KeepsSizes (outcome run machine).2.heap) (stage : Stage) :
    stage.KeepsSizes (outcome (StagedRun.onMachine run) stage).2 :=
  ⟨keeps stage.machine, List.Subset.refl _⟩

theorem setScopeKeepsSizes (machine : Machine) (scope : Scope) :
    machine.heap.KeepsSizes (machine.setScope scope).heap :=
  Heap.setRecordKeepsSizes ..

theorem setMemberKeepsSizes {heap after : Heap} {object key value : Value}
    (isSet : setMember heap object key value = .ok after) : heap.KeepsSizes after := by
  rcases heapAfterSet isSet with ⟨reference, name, -, rfl⟩ | ⟨reference, place, -, rfl⟩
  · exact Heap.setRecordKeepsSizes ..
  · exact Heap.setItemKeepsSizes ..

theorem deleteMemberKeepsSizes {heap after : Heap} {object key : Value} {counts : Bool}
    (isDeleted : deleteMember heap object key = .ok (counts, after)) : heap.KeepsSizes after := by
  rcases heapAfterDeletion isDeleted with rfl | ⟨reference, name, -, rfl⟩
  · exact .refl _
  · exact Heap.setRecordKeepsSizes ..

/-- Every single operation of a script keeps the sizes of lists. -/
def keepingSizes : Correspondence StagedRun StagedRun where
  Related run _ := ∀ stage : Stage, stage.ActsInSize → stage.KeepsSizes (outcome run stage).2
  pure _ _ _ := ⟨.refl _, List.Subset.refl _⟩
  bind {_ _ left _ leftNext _} related relatedNext stage acts := by
    have first := related stage acts
    change stage.KeepsSizes (outcome (left >>= leftNext) stage).2
    rw [outcomeBind]
    rcases ran : outcome left stage with ⟨result, middle⟩
    rw [ran] at first
    cases result with
    | ok result => exact first.trans (relatedNext result middle (acts.later first))
    | error failure => exact first
  query _ _ acts := Stage.actKeepsSizes acts
  self stage _ := onMachineKeepsSizes (fun _ => .refl _) stage
  lookup name stage _ := onMachineKeepsSizes (fun machine => by
    rw [Run.outcomeLookup]
    exact .refl _) stage
  assign name value stage _ := onMachineKeepsSizes (fun machine => by
    rw [Run.outcomeAssign]
    exact setScopeKeepsSizes machine _) stage
  delete name stage _ := onMachineKeepsSizes (fun machine => by
    rw [Run.outcomeDelete]
    exact setScopeKeepsSizes machine _) stage
  newList items stage _ := onMachineKeepsSizes (fun machine => by
    rw [Run.outcomeNewList]
    exact Heap.addListKeepsSizes ..) stage
  setMember object key value stage _ := by
    refine onMachineKeepsSizes (fun machine => ?_) stage
    rw [Run.outcomeSetMember]
    cases isSet : setMember machine.heap object key value with
    | ok after => exact setMemberKeepsSizes isSet
    | error failure => exact .refl _
  deleteMember object key stage _ := by
    refine onMachineKeepsSizes (fun machine => ?_) stage
    rw [Run.outcomeDeleteMember]
    cases isDeleted : deleteMember machine.heap object key with
    | ok outcome => exact deleteMemberKeepsSizes isDeleted
    | error failure => exact .refl _

/-- A run keeps the sizes of all lists, whether it succeeds or fails. -/
theorem runKeepsSizes (host : Host) (helpers : Helpers) (isOpen : Bool) (source : String)
    (acts : stage.ActsInSize) :
    stage.machine.heap.KeepsSizes (runStaged host helpers isOpen source stage).2.machine.heap := by
  have prepared : stage.KeepsSizes { stage with machine := stage.machine.prepare helpers isOpen } :=
    ⟨Heap.setRecordKeepsSizes .., List.Subset.refl _⟩
  have ran := keepingSizes.relatedRunSource host source _ (acts.later prepared)
  exact (prepared.trans ran).heap.trans (setScopeKeepsSizes _ _)

end

end Letterpress.Script
