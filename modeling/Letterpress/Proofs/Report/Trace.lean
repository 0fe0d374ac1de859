import Letterpress.Proofs.Result
import Letterpress.Report.Rendering

/-!
This file follows a rendering from item to item and records the texts that it inserts. Every rendering
that succeeds has such a record.
-/

namespace Letterpress.Report

open Rendering

/-- These settings have no helpers and a closed scope. -/
def plainSettings : Settings := ⟨.standard, .empty, false⟩

mutual

/-- The items of a report are rendered one after the other. A value is inserted as its text. -/
inductive Renders (settings : Settings) :
    Table Value → List Item → Session → List String → List Char → Session → Prop
  | done {loopValues : Table Value} {session : Session} :
      Renders settings loopValues [] session [] [] session
  | markup {loopValues : Table Value} {items : List Item} {session after : Session}
      {inserted : List String} {output : List Char} (content : List Char)
      (rest : Renders settings loopValues items session inserted output after) :
      Renders settings loopValues (.markup content :: items) session inserted
        (content ++ output) after
  | insert {loopValues : Table Value} {items : List Item} {session next after : Session}
      {inserted : List String} {output : List Char} {code text : String} {value : Value}
      (isInRun : Bool) (runs : (run settings code loopValues).outcome session = (.ok value, next))
      (written : next.heap.text value = .ok text)
      (rest : Renders settings loopValues items next inserted output after) :
      Renders settings loopValues (.insert code isInRun :: items) session (text :: inserted)
        (insertedText isInRun text.toList ++ output) after
  | execute {loopValues : Table Value} {items : List Item} {session next after : Session}
      {inserted : List String} {output : List Char} {code : String} {value : Value}
      (runs : (run settings code loopValues).outcome session = (.ok value, next))
      (rest : Renders settings loopValues items next inserted output after) :
      Renders settings loopValues (.execute code :: items) session inserted output after
  | loop {loopValues : Table Value} {items body : List Item}
      {session next middle after : Session} {inserted insertedAfter : List String}
      {output outputAfter : List Char} {itemName code : String} {list : Value} {count : Nat}
      (runs : (run settings code loopValues).outcome session = (.ok list, next))
      (counts : loopLength next itemName code list = .ok count)
      (repeats : Repeats settings loopValues itemName list body (List.range count) next inserted
        output middle)
      (rest : Renders settings loopValues items middle insertedAfter outputAfter after) :
      Renders settings loopValues (.loop itemName code body :: items) session
        (inserted ++ insertedAfter) (output ++ outputAfter) after
  | taken {loopValues : Table Value} {items body : List Item} {session next middle after : Session}
      {inserted insertedAfter : List String} {output outputAfter : List Char} {code : String}
      {value : Value} (runs : (run settings code loopValues).outcome session = (.ok value, next))
      (isTruthy : value.isTruthy = true)
      (renders : Renders settings loopValues body next inserted output middle)
      (rest : Renders settings loopValues items middle insertedAfter outputAfter after) :
      Renders settings loopValues (.choice code body :: items) session (inserted ++ insertedAfter)
        (output ++ outputAfter) after
  | skipped {loopValues : Table Value} {items body : List Item} {session next after : Session}
      {inserted : List String} {output : List Char} {code : String} {value : Value}
      (runs : (run settings code loopValues).outcome session = (.ok value, next))
      (isFalsy : value.isTruthy = false)
      (rest : Renders settings loopValues items next inserted output after) :
      Renders settings loopValues (.choice code body :: items) session inserted output after

/-- The body of a loop is rendered for one index after the other. -/
inductive Repeats (settings : Settings) :
    Table Value → String → Value → List Item → List Nat → Session → List String → List Char →
      Session → Prop
  | done {loopValues : Table Value} {itemName : String} {list : Value} {body : List Item}
      {session : Session} : Repeats settings loopValues itemName list body [] session [] [] session
  | turn {loopValues : Table Value} {itemName : String} {list : Value} {body : List Item}
      {index : Nat} {rest : List Nat} {session middle after : Session}
      {inserted insertedAfter : List String} {output outputAfter : List Char}
      (renders : Renders settings
        (loopVariables loopValues itemName (currentItem session list index) index) body session
        inserted output middle)
      (repeats : Repeats settings loopValues itemName list body rest middle insertedAfter
        outputAfter after) :
      Repeats settings loopValues itemName list body (index :: rest) session
        (inserted ++ insertedAfter) (output ++ outputAfter) after

end

/-! ### Outcomes -/

section

variable {First Result : Type} {session after : Session}

theorem outcomeOfBind (rendering : Rendering First) (next : First → Rendering Result)
    (session : Session) : (rendering >>= next).outcome session =
      match rendering.outcome session with
      | (.ok value, middle) => (next value).outcome middle
      | (.error failure, middle) => (.error failure, middle) := by
  unfold outcome StateT.run ExceptT.run
  simp only [bind, ExceptT.bind, ExceptT.mk, StateT.bind, ExceptT.bindCont]
  rcases rendering session with ⟨stepped, middle⟩
  cases stepped <;> rfl

/-- A rendering that goes on succeeds if both of its steps do. -/
theorem bindOutcomeIff {rendering : Rendering First} {next : First → Rendering Result}
    {result : Result} : (rendering >>= next).outcome session = (.ok result, after) ↔
      ∃ value middle, rendering.outcome session = (.ok value, middle) ∧
        (next value).outcome middle = (.ok result, after) := by
  rw [outcomeOfBind]
  constructor
  · intro succeeds
    split at succeeds
    case h_1 value middle stepped => exact ⟨value, middle, stepped, succeeds⟩
    case h_2 => exact nomatch succeeds
  · rintro ⟨value, middle, stepped, succeeds⟩
    rw [stepped]
    exact succeeds

/-- A rendering that goes on fails if one of its steps does. -/
theorem bindFailureIff {rendering : Rendering First} {next : First → Rendering Result}
    {failure : Failure} : (rendering >>= next).outcome session = (.error failure, after) ↔
      rendering.outcome session = (.error failure, after) ∨
        ∃ value middle, rendering.outcome session = (.ok value, middle) ∧
          (next value).outcome middle = (.error failure, after) := by
  rw [outcomeOfBind]
  rcases rendering.outcome session with ⟨stepped, middle⟩
  cases stepped with
  | error other => simp
  | ok value => simp [and_assoc]

theorem pureOutcome {value result : Result}
    (succeeds : (pure value : Rendering Result).outcome session = (.ok result, after)) :
    value = result ∧ session = after := by
  obtain ⟨same, sameSession⟩ := Prod.mk.inj succeeds
  exact ⟨Except.ok.inj same, sameSession⟩

theorem exceptOutcome {found : Except Failure Result} {result : Result}
    (succeeds : (ofExcept found).outcome session = (.ok result, after)) :
    found = .ok result ∧ session = after :=
  Prod.mk.inj succeeds

theorem outcomeOfExcept {found : Except Failure Result} {result : Result}
    (isFound : found = .ok result) : (ofExcept found).outcome session = (.ok result, session) :=
  Prod.ext isFound rfl

/-- A reading of the session leaves it as it is. -/
theorem getOutcome {current : Session}
    (succeeds : (get : Rendering Session).outcome session = (.ok current, after)) :
    session = current ∧ session = after :=
  pureOutcome succeeds

/-- A rendering of which the result is known ends in some session. -/
theorem outcomeOfOption {Result : Type} {rendering : Rendering Result} {session : Session}
    {result : Result} (same : (rendering.outcome session).1.toOption = some result) :
    rendering.outcome session = (.ok result, (rendering.outcome session).2) :=
  Prod.ext (okOfOption same) rfl

theorem insertionText {isInRun : Bool} {value : Value} {output : List Char}
    (found : insertion session isInRun value = .ok output) :
    ∃ text, session.heap.text value = .ok text ∧ output = insertedText isInRun text.toList := by
  cases written : session.heap.text value with
  | ok text =>
      simp only [insertion, insertedValue, written] at found
      obtain rfl := Except.ok.inj found
      exact ⟨text, rfl, String.toList_ofList⟩
  | error fault =>
      simp only [insertion, insertedValue, written] at found
      exact nomatch found

end

section

variable {settings : Settings} {loopValues : Table Value} {session after : Session}
  {output : List Char}

theorem repeatsOfOutcome {itemName : String} {list : Value} {body : List Item} {indices : List Nat}
    (renders : ∀ {loopValues : Table Value} {session after : Session} {output : List Char},
      (renderItems settings loopValues body).outcome session = (.ok output, after) →
        ∃ inserted, Renders settings loopValues body session inserted output after)
    (succeeds : (repeated (fun index => do
        let item := currentItem (← get) list index
        renderItems settings (loopVariables loopValues itemName item index) body)
      indices).outcome session = (.ok output, after)) :
    ∃ inserted, Repeats settings loopValues itemName list body indices session inserted output
      after := by
  induction indices generalizing session output with
  | nil =>
      obtain ⟨rfl, rfl⟩ := pureOutcome succeeds
      exact ⟨[], .done⟩
  | cons index rest inductionHypothesis =>
      obtain ⟨first, middle, rendered, succeedsRest⟩ := bindOutcomeIff.1 succeeds
      obtain ⟨more, last, repeatedRest, isOutput⟩ := bindOutcomeIff.1 succeedsRest
      obtain ⟨rfl, rfl⟩ := pureOutcome isOutput
      obtain ⟨current, _, isCurrent, renderedBody⟩ := bindOutcomeIff.1 rendered
      obtain ⟨rfl, rfl⟩ := getOutcome isCurrent
      obtain ⟨inserted, rendersBody⟩ := renders renderedBody
      obtain ⟨insertedAfter, repeats⟩ := inductionHypothesis repeatedRest
      exact ⟨inserted ++ insertedAfter, .turn rendersBody repeats⟩

/-- A rendering that succeeds is recorded. -/
theorem rendersOfOutcome : ∀ {items : List Item} {loopValues : Table Value}
    {session after : Session} {output : List Char},
    (renderItems settings loopValues items).outcome session = (.ok output, after) →
      ∃ inserted, Renders settings loopValues items session inserted output after
  | [], _, _, _, _, succeeds => by
      obtain ⟨rfl, rfl⟩ := pureOutcome succeeds
      exact ⟨[], .done⟩
  | item :: rest, _, _, _, _, succeeds => by
      obtain ⟨first, middle, rendered, succeedsRest⟩ := bindOutcomeIff.1 succeeds
      obtain ⟨more, last, renderedRest, isOutput⟩ := bindOutcomeIff.1 succeedsRest
      obtain ⟨rfl, rfl⟩ := pureOutcome isOutput
      obtain ⟨inserted, rendersRest⟩ := rendersOfOutcome renderedRest
      cases item with
      | markup content =>
          obtain ⟨rfl, rfl⟩ := pureOutcome rendered
          exact ⟨inserted, .markup content rendersRest⟩
      | insert code isInRun =>
          obtain ⟨value, next, runs, succeedsNext⟩ := bindOutcomeIff.1 rendered
          obtain ⟨current, _, isCurrent, succeedsLast⟩ := bindOutcomeIff.1 succeedsNext
          obtain ⟨rfl, rfl⟩ := getOutcome isCurrent
          obtain ⟨found, rfl⟩ := exceptOutcome succeedsLast
          obtain ⟨text, written, rfl⟩ := insertionText found
          exact ⟨text :: inserted, .insert isInRun runs written rendersRest⟩
      | execute code =>
          obtain ⟨value, next, runs, succeedsNext⟩ := bindOutcomeIff.1 rendered
          obtain ⟨rfl, rfl⟩ := pureOutcome succeedsNext
          exact ⟨inserted, .execute runs rendersRest⟩
      | loop itemName code body =>
          obtain ⟨list, next, runs, succeedsNext⟩ := bindOutcomeIff.1 rendered
          obtain ⟨current, _, isCurrent, succeedsCount⟩ := bindOutcomeIff.1 succeedsNext
          obtain ⟨rfl, rfl⟩ := getOutcome isCurrent
          obtain ⟨count, _, counted, repeatedBody⟩ := bindOutcomeIff.1 succeedsCount
          obtain ⟨counts, rfl⟩ := exceptOutcome counted
          obtain ⟨insertedBody, repeats⟩ := repeatsOfOutcome rendersOfOutcome repeatedBody
          exact ⟨insertedBody ++ inserted, .loop runs counts repeats rendersRest⟩
      | choice code body =>
          obtain ⟨value, next, runs, succeedsNext⟩ := bindOutcomeIff.1 rendered
          cases isTruthy : value.isTruthy with
          | true =>
              rw [if_pos isTruthy] at succeedsNext
              obtain ⟨insertedBody, renders⟩ := rendersOfOutcome succeedsNext
              exact ⟨insertedBody ++ inserted, .taken runs isTruthy renders rendersRest⟩
          | false =>
              rw [if_neg (by simp [isTruthy])] at succeedsNext
              obtain ⟨rfl, rfl⟩ := pureOutcome succeedsNext
              exact ⟨inserted, .skipped runs isTruthy rendersRest⟩

theorem insertionOfText {value : Value} {text : String}
    (written : session.heap.text value = .ok text) (isInRun : Bool) :
    insertion session isInRun value = .ok (insertedText isInRun text.toList) := by
  simp only [insertion, insertedValue, written]
  exact congrArg Except.ok String.toList_ofList

theorem outcomeOfRepeats {itemName : String} {list : Value} {body : List Item} {indices : List Nat}
    {inserted : List String}
    (succeeds : ∀ {loopValues : Table Value} {session after : Session} {inserted : List String}
      {output : List Char}, Renders settings loopValues body session inserted output after →
        (renderItems settings loopValues body).outcome session = (.ok output, after))
    (repeats : Repeats settings loopValues itemName list body indices session inserted output after) :
    (repeated (fun index => do
        let item := currentItem (← get) list index
        renderItems settings (loopVariables loopValues itemName item index) body)
      indices).outcome session = (.ok output, after) := by
  induction indices generalizing session inserted output with
  | nil =>
      cases repeats
      rfl
  | cons index rest inductionHypothesis =>
      cases repeats with
      | turn renders repeats =>
          exact bindOutcomeIff.2 ⟨_, _, bindOutcomeIff.2 ⟨_, _, rfl, succeeds renders⟩,
            bindOutcomeIff.2 ⟨_, _, inductionHypothesis repeats, rfl⟩⟩

theorem outcomeOfCons {item : Item} {rest : List Item} {first more : List Char} {middle : Session}
    (rendered : (renderItem settings loopValues item).outcome session = (.ok first, middle))
    (renderedRest : (renderItems settings loopValues rest).outcome middle = (.ok more, after)) :
    (renderItems settings loopValues (item :: rest)).outcome session = (.ok (first ++ more), after) :=
  bindOutcomeIff.2 ⟨_, _, rendered, bindOutcomeIff.2 ⟨_, _, renderedRest, rfl⟩⟩

theorem outcomeOfSilent {item : Item} {rest : List Item} {middle : Session}
    (rendered : (renderItem settings loopValues item).outcome session = (.ok [], middle))
    (renderedRest : (renderItems settings loopValues rest).outcome middle = (.ok output, after)) :
    (renderItems settings loopValues (item :: rest)).outcome session = (.ok output, after) :=
  outcomeOfCons rendered renderedRest

/-- What is recorded is a rendering that succeeds. -/
theorem outcomeOfRenders : ∀ {items : List Item} {loopValues : Table Value}
    {session after : Session} {inserted : List String} {output : List Char},
    Renders settings loopValues items session inserted output after →
      (renderItems settings loopValues items).outcome session = (.ok output, after)
  | [], _, _, _, _, _, renders => by
      cases renders
      rfl
  | item :: rest, _, _, _, _, _, renders => by
      cases renders with
      | markup content rendersRest => exact outcomeOfCons rfl (outcomeOfRenders rendersRest)
      | insert isInRun runs written rendersRest =>
          refine outcomeOfCons ?_ (outcomeOfRenders rendersRest)
          refine bindOutcomeIff.2 ⟨_, _, runs, bindOutcomeIff.2 ⟨_, _, rfl, ?_⟩⟩
          exact outcomeOfExcept (insertionOfText written isInRun)
      | execute runs rendersRest =>
          refine outcomeOfSilent ?_ (outcomeOfRenders rendersRest)
          exact bindOutcomeIff.2 ⟨_, _, runs, rfl⟩
      | loop runs counts repeats rendersRest =>
          refine outcomeOfCons ?_ (outcomeOfRenders rendersRest)
          have repeatedBody := outcomeOfRepeats outcomeOfRenders repeats
          refine bindOutcomeIff.2 ⟨_, _, runs, bindOutcomeIff.2 ⟨_, _, rfl, ?_⟩⟩
          exact bindOutcomeIff.2 ⟨_, _, outcomeOfExcept counts, repeatedBody⟩
      | taken runs isTruthy renders rendersRest =>
          refine outcomeOfCons ?_ (outcomeOfRenders rendersRest)
          refine bindOutcomeIff.2 ⟨_, _, runs, ?_⟩
          rw [if_pos isTruthy]
          exact outcomeOfRenders renders
      | skipped runs isFalsy rendersRest =>
          refine outcomeOfSilent ?_ (outcomeOfRenders rendersRest)
          refine bindOutcomeIff.2 ⟨_, _, runs, ?_⟩
          rw [isFalsy]
          rfl

end

end Letterpress.Report
