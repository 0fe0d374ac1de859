import Letterpress.Proofs.Report.Parsing
import Letterpress.Proofs.Report.Running
import Letterpress.Proofs.Text.CharacterReference
import Letterpress.Proofs.Value.Text

/-!
This file tells how the rendering of a part fails. It fails with a problem of a documented kind, or
with the fault of an operation that no problem is made of. There are four places for such a fault.
-/

namespace Letterpress.Report

open Rendering
open Markup (Node readDocument?)
open Letterpress.Part (gatherCommands isOfKind isStructural runText)
open Text.CharacterReference (HoldsLong)

/-! ### Documented failures -/

/-- A documented failure is a problem of the template, of a command or of an evaluation. -/
def Failure.IsDocumented (failure : Failure) : Prop :=
  ∃ problem, failure = .problem problem ∧ problem.kind ∈ [.template, .command, .evaluation]

theorem scriptKind (problem : Script.Problem) : problem.kind ∈ [.command, .evaluation] := by
  cases problem <;> simp [Script.Problem.kind]

theorem documentedKind (problem : Problem) :
    problem.kind ∈ [.template, .command, .evaluation] := by
  induction problem with
  | script problem => exact List.mem_cons_of_mem _ (scriptKind problem)
  | inPart _ _ inductionHypothesis => exact inductionHypothesis
  | _ => simp [Problem.kind]

theorem documentedProblem (problem : Problem) : (Failure.problem problem).IsDocumented :=
  ⟨problem, rfl, documentedKind problem⟩

theorem documentedFailure (code : String) (failure : Script.Failure) :
    (failureOf code failure).IsDocumented := by
  unfold failureOf
  split <;> exact documentedProblem _

/-! ### Insertions that are reached -/

/-- A rendering comes to the insertion of a value if everything before it succeeds. The session is
then the one that is reached. -/
inductive Inserts (settings : Settings) (value : Value) (reached : Session) :
    Table Value → List Item → Session → Prop
  | here {loopValues : Table Value} {rest : List Item} {session : Session} {code : String}
      (isInRun : Bool)
      (runs : (run settings code loopValues).outcome session = (.ok value, reached)) :
      Inserts settings value reached loopValues (.insert code isInRun :: rest) session
  | later {loopValues : Table Value} {item : Item} {rest : List Item} {session middle : Session}
      {output : List Char}
      (rendered : (renderItem settings loopValues item).outcome session = (.ok output, middle))
      (inserts : Inserts settings value reached loopValues rest middle) :
      Inserts settings value reached loopValues (item :: rest) session
  | taken {loopValues : Table Value} {body rest : List Item} {session next : Session}
      {code : String} {condition : Value}
      (runs : (run settings code loopValues).outcome session = (.ok condition, next))
      (isTruthy : condition.isTruthy = true)
      (inserts : Inserts settings value reached loopValues body next) :
      Inserts settings value reached loopValues (.choice code body :: rest) session
  | loop {loopValues : Table Value} {body rest : List Item} {session next middle : Session}
      {itemName code : String} {list : Value} {count index : Nat} {before others : List Nat}
      {inserted : List String} {output : List Char}
      (runs : (run settings code loopValues).outcome session = (.ok list, next))
      (counts : loopLength next itemName code list = .ok count)
      (isTurn : List.range count = before ++ index :: others)
      (repeats : Repeats settings loopValues itemName list body before next inserted output middle)
      (inserts : Inserts settings value reached
        (loopVariables loopValues itemName (currentItem middle list index) index) body middle) :
      Inserts settings value reached loopValues (.loop itemName code body :: rest) session

section

variable {settings : Settings} {loopValues : Table Value} {session after : Session}
  {code : String} {failure : Failure}

theorem runFailure
    (fails : (run settings code loopValues).outcome session = (.error failure, after)) :
    failure.IsDocumented := by
  rw [runOutcome] at fails
  split at fails
  case h_1 => exact nomatch fails
  case h_2 refusal _ _ =>
    obtain rfl := Except.error.inj (Prod.mk.inj fails).1
    exact documentedFailure code refusal

theorem countFailure {itemName : String} {list : Value}
    (fails : loopLength session itemName code list = .error failure) : failure.IsDocumented := by
  unfold loopLength at fails
  split at fails
  case h_1 => exact nomatch fails
  case h_2 => exact nomatch fails
  case h_3 =>
    obtain rfl := Except.error.inj fails
    exact documentedProblem _

theorem insertionFailure {isInRun : Bool} {value : Value}
    (fails : insertion session isInRun value = .error failure) :
    ∃ fault, failure = .fault fault ∧ session.heap.text value = .error fault := by
  cases written : session.heap.text value with
  | ok text =>
      simp only [insertion, insertedValue, written] at fails
      contradiction
  | error fault =>
      simp only [insertion, insertedValue, written] at fails
      exact ⟨fault, (Except.error.inj fails).symm, rfl⟩

theorem exceptFailure {Result : Type} {found : Except Failure Result}
    (fails : (ofExcept found).outcome session = (.error failure, after)) :
    found = .error failure :=
  (Prod.mk.inj fails).1

/-- A repetition fails at the first index where its step does. -/
theorem repeatedFailure {step : Nat → Rendering (List Char)} {indices : List Nat}
    (fails : (repeated step indices).outcome session = (.error failure, after)) :
    ∃ before index others output middle, indices = before ++ index :: others ∧
      (repeated step before).outcome session = (.ok output, middle) ∧
        (step index).outcome middle = (.error failure, after) := by
  induction indices generalizing session with
  | nil => exact nomatch fails
  | cons index rest inductionHypothesis =>
      obtain stepFails | ⟨first, middle, stepped, failsRest⟩ := bindFailureIff.1 fails
      · exact ⟨[], index, rest, [], session, rfl, rfl, stepFails⟩
      · obtain failsLater | ⟨_, _, _, succeeds⟩ := bindFailureIff.1 failsRest
        · obtain ⟨before, failing, others, output, last, rfl, repeatedBefore, stepFails⟩ :=
            inductionHypothesis failsLater
          exact ⟨index :: before, failing, others, first ++ output, last, rfl,
            bindOutcomeIff.2 ⟨_, _, stepped, bindOutcomeIff.2 ⟨_, _, repeatedBefore, rfl⟩⟩,
            stepFails⟩
        · exact nomatch succeeds

/-- A failure is documented, or it is met at the insertion of a value that has no text. -/
def Meets (settings : Settings) (failure : Failure) (loopValues : Table Value) (items : List Item)
    (session : Session) : Prop :=
  failure.IsDocumented ∨ ∃ fault value reached, failure = .fault fault ∧
    Inserts settings value reached loopValues items session ∧
      reached.heap.text value = .error fault

theorem Meets.within {innerValues : Table Value} {inner items : List Item} {next : Session}
    (meets : Meets settings failure innerValues inner next)
    (inserts : ∀ {value reached}, Inserts settings value reached innerValues inner next →
      Inserts settings value reached loopValues items session) :
    Meets settings failure loopValues items session :=
  meets.imp_right fun ⟨fault, value, reached, isFault, insertsInner, unwritten⟩ =>
    ⟨fault, value, reached, isFault, inserts insertsInner, unwritten⟩

/-- The failure of a rendering is met in the first item that fails. -/
theorem itemsFailure : ∀ {items : List Item} {loopValues : Table Value} {session after : Session}
    {failure : Failure},
    (renderItems settings loopValues items).outcome session = (.error failure, after) →
      Meets settings failure loopValues items session
  | [], _, _, _, _, fails => nomatch fails
  | item :: rest, _, _, _, _, fails => by
      obtain itemFails | ⟨first, middle, rendered, failsRest⟩ := bindFailureIff.1 fails
      case inr =>
        obtain failsLater | ⟨_, _, _, succeeds⟩ := bindFailureIff.1 failsRest
        · exact (itemsFailure failsLater).within (.later rendered)
        · exact nomatch succeeds
      cases item with
      | markup content => exact nomatch itemFails
      | insert code isInRun =>
          obtain runFails | ⟨value, next, runs, failsNext⟩ := bindFailureIff.1 itemFails
          · exact .inl (runFailure runFails)
          obtain getFails | ⟨current, _, isCurrent, insertionFails⟩ := bindFailureIff.1 failsNext
          · exact nomatch getFails
          obtain ⟨rfl, rfl⟩ := getOutcome isCurrent
          obtain ⟨fault, rfl, unwritten⟩ := insertionFailure (exceptFailure insertionFails)
          exact .inr ⟨fault, value, next, rfl, .here isInRun runs, unwritten⟩
      | execute code =>
          obtain runFails | ⟨value, next, runs, succeeds⟩ := bindFailureIff.1 itemFails
          · exact .inl (runFailure runFails)
          · exact nomatch succeeds
      | loop itemName code body =>
          obtain runFails | ⟨list, next, runs, failsNext⟩ := bindFailureIff.1 itemFails
          · exact .inl (runFailure runFails)
          obtain getFails | ⟨current, _, isCurrent, failsCount⟩ := bindFailureIff.1 failsNext
          · exact nomatch getFails
          obtain ⟨rfl, rfl⟩ := getOutcome isCurrent
          obtain countFails | ⟨count, _, counted, repetitionFails⟩ := bindFailureIff.1 failsCount
          · exact .inl (countFailure (exceptFailure countFails))
          obtain ⟨counts, rfl⟩ := exceptOutcome counted
          -- Only one turn fails, and the turns before it lead to the session where it begins.
          obtain ⟨before, index, others, output, middle, isTurn, repeatedBefore, turnFails⟩ :=
            repeatedFailure repetitionFails
          obtain getFails | ⟨current, _, isCurrent, bodyFails⟩ := bindFailureIff.1 turnFails
          · exact nomatch getFails
          obtain ⟨rfl, rfl⟩ := getOutcome isCurrent
          obtain ⟨inserted, repeats⟩ := repeatsOfOutcome rendersOfOutcome repeatedBefore
          exact (itemsFailure bodyFails).within (.loop runs counts isTurn repeats)
      | choice code body =>
          obtain runFails | ⟨condition, next, runs, failsNext⟩ := bindFailureIff.1 itemFails
          · exact .inl (runFailure runFails)
          cases isTruthy : condition.isTruthy with
          | true =>
              rw [if_pos isTruthy] at failsNext
              exact (itemsFailure failsNext).within (.taken runs isTruthy)
          | false =>
              rw [if_neg (by simp [isTruthy])] at failsNext
              exact nomatch failsNext

/-! ### Faults at insertions -/

theorem insertionFault {value : Value} {fault : Fault}
    (unwritten : session.heap.text value = .error fault) (isInRun : Bool) :
    insertion session isInRun value = .error (.fault fault) := by
  rw [insertion, insertedValue, unwritten]
  rfl

/-- A repetition fails if its step fails at an index after those where it succeeds. -/
theorem failsAtIndex {step : Nat → Rendering (List Char)} {before others : List Nat} {index : Nat}
    {output : List Char} {middle : Session}
    (repeatedBefore : (repeated step before).outcome session = (.ok output, middle))
    (stepFails : (step index).outcome middle = (.error failure, after)) :
    (repeated step (before ++ index :: others)).outcome session = (.error failure, after) := by
  induction before generalizing session output with
  | nil =>
      obtain ⟨-, rfl⟩ := pureOutcome repeatedBefore
      exact bindFailureIff.2 (.inl stepFails)
  | cons first rest inductionHypothesis =>
      obtain ⟨begun, next, stepped, goesOn⟩ := bindOutcomeIff.1 repeatedBefore
      obtain ⟨more, last, repeatedRest, isOutput⟩ := bindOutcomeIff.1 goesOn
      obtain ⟨-, rfl⟩ := pureOutcome isOutput
      exact bindFailureIff.2 (.inr ⟨_, _, stepped,
        bindFailureIff.2 (.inl (inductionHypothesis repeatedRest))⟩)

/-- Nothing is rendered after the insertion of a value without a text. -/
theorem Inserts.fails {items : List Item} {value : Value} {reached : Session} {fault : Fault}
    (inserts : Inserts settings value reached loopValues items session)
    (unwritten : reached.heap.text value = .error fault) :
    ∃ after, (renderItems settings loopValues items).outcome session =
      (.error (.fault fault), after) := by
  induction inserts with
  | here isInRun runs =>
      refine ⟨reached, bindFailureIff.2 (.inl (bindFailureIff.2 (.inr ⟨_, _, runs, ?_⟩)))⟩
      exact bindFailureIff.2 (.inr ⟨_, _, rfl, Prod.ext (insertionFault unwritten isInRun) rfl⟩)
  | later rendered _ inductionHypothesis =>
      obtain ⟨after, fails⟩ := inductionHypothesis
      exact ⟨after, bindFailureIff.2 (.inr ⟨_, _, rendered, bindFailureIff.2 (.inl fails)⟩)⟩
  | taken runs isTruthy _ inductionHypothesis =>
      obtain ⟨after, fails⟩ := inductionHypothesis
      refine ⟨after, bindFailureIff.2 (.inl (bindFailureIff.2 (.inr ⟨_, _, runs, ?_⟩)))⟩
      rw [if_pos isTruthy]
      exact fails
  | loop runs counts isTurn repeats _ inductionHypothesis =>
      obtain ⟨after, fails⟩ := inductionHypothesis
      have repeatedBefore := outcomeOfRepeats outcomeOfRenders repeats
      refine ⟨after, bindFailureIff.2 (.inl (bindFailureIff.2 (.inr ⟨_, _, runs, ?_⟩)))⟩
      refine bindFailureIff.2 (.inr ⟨_, _, rfl, ?_⟩)
      refine bindFailureIff.2 (.inr ⟨_, _, outcomeOfExcept counts, ?_⟩)
      rw [isTurn]
      exact failsAtIndex repeatedBefore (bindFailureIff.2 (.inr ⟨_, _, rfl, fails⟩))

/-- A rendering fails with a fault exactly if it comes to the insertion of a value that contains
itself or an integer that is too large. -/
theorem faultIff (settings : Settings) (loopValues : Table Value) (items : List Item)
    (session : Session) :
    (∃ fault after, (renderItems settings loopValues items).outcome session =
      (.error (.fault fault), after)) ↔
      ∃ value reached, Inserts settings value reached loopValues items session ∧
        (reached.heap.IsCyclic value ∨ reached.heap.HoldsBeyond value) := by
  simp only [← Heap.textFailsIff]
  constructor
  · rintro ⟨fault, after, fails⟩
    obtain ⟨_, isProblem, -⟩ | ⟨_, value, reached, -, inserts, unwritten⟩ := itemsFailure fails
    · exact nomatch isProblem
    · exact ⟨value, reached, inserts, _, unwritten⟩
  · rintro ⟨value, reached, inserts, fault, unwritten⟩
    exact ⟨fault, inserts.fails unwritten⟩

end

/-! ### The rendering of a part -/

section

variable {settings : Settings} {session : Session} {text : String} {markup : List Char}
  {failure : Failure}

end

end Letterpress.Report
