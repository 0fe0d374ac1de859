import Letterpress.Proofs.Report.Running
import Letterpress.Proofs.Script.ListSize

/-!
This file renders reports with loops that look at their list again before every turn. No command resizes
the list, so the number of turns is known when the loop begins.
-/

namespace Letterpress.Report

open Script Rendering

/-! ### Loops over lists that may change -/

/-- A command runs its code with the variables of the loops around it. It yields a value and leaves a
session. -/
abbrev Commands := String → Table Value → Session → Value → Session → Prop

/-- These are the items that a list or a tuple has in a session. Other values have none. -/
def currentItems (session : Session) (list : Value) : Array Value :=
  (session.heap.items? list).getD #[]

def IsIterable (session : Session) (list : Value) : Prop :=
  list = .null ∨ (session.heap.items? list).isSome = true

mutual

/-- Items are rendered one after the other, and a loop has the turns that its list allows. -/
inductive LiveRenders (commands : Commands) :
    Table Value → List Item → Session → List Char → Session → Prop
  | done {loopValues : Table Value} {session : Session} :
      LiveRenders commands loopValues [] session [] session
  | markup {loopValues : Table Value} {items : List Item} {session after : Session}
      {output : List Char} (content : List Char)
      (rest : LiveRenders commands loopValues items session output after) :
      LiveRenders commands loopValues (.markup content :: items) session (content ++ output) after
  | insert {loopValues : Table Value} {items : List Item} {session next after : Session}
      {output : List Char} {code text : String} {value : Value} (isInRun : Bool)
      (runs : commands code loopValues session value next)
      (written : next.heap.text value = .ok text)
      (rest : LiveRenders commands loopValues items next output after) :
      LiveRenders commands loopValues (.insert code isInRun :: items) session
        (insertedText isInRun text.toList ++ output) after
  | execute {loopValues : Table Value} {items : List Item} {session next after : Session}
      {output : List Char} {code : String} {value : Value}
      (runs : commands code loopValues session value next)
      (rest : LiveRenders commands loopValues items next output after) :
      LiveRenders commands loopValues (.execute code :: items) session output after
  | loop {loopValues : Table Value} {items body : List Item} {session next middle after : Session}
      {turns : List (Table Value)} {output outputAfter : List Char} {itemName code : String}
      {list : Value} (runs : commands code loopValues session list next)
      (iterable : IsIterable next list)
      (live : LiveTurns commands loopValues itemName list body 0 next turns output middle)
      (rest : LiveRenders commands loopValues items middle outputAfter after) :
      LiveRenders commands loopValues (.loop itemName code body :: items) session
        (output ++ outputAfter) after
  | taken {loopValues : Table Value} {items body : List Item} {session next middle after : Session}
      {output outputAfter : List Char} {code : String} {value : Value}
      (runs : commands code loopValues session value next) (isTruthy : value.isTruthy = true)
      (renders : LiveRenders commands loopValues body next output middle)
      (rest : LiveRenders commands loopValues items middle outputAfter after) :
      LiveRenders commands loopValues (.choice code body :: items) session (output ++ outputAfter) after
  | skipped {loopValues : Table Value} {items body : List Item} {session next after : Session}
      {output : List Char} {code : String} {value : Value}
      (runs : commands code loopValues session value next) (isFalsy : value.isTruthy = false)
      (rest : LiveRenders commands loopValues items next output after) :
      LiveRenders commands loopValues (.choice code body :: items) session output after

/-- A loop goes on from an index until the list has no item there any more. Its turns are recorded by
the variables that the body sees. -/
inductive LiveTurns (commands : Commands) :
    Table Value → String → Value → List Item → Nat → Session → List (Table Value) → List Char →
      Session → Prop
  | finished {loopValues : Table Value} {itemName : String} {list : Value} {body : List Item}
      {index : Nat} {session : Session} (noItem : (currentItems session list)[index]? = none) :
      LiveTurns commands loopValues itemName list body index session [] [] session
  | turn {loopValues : Table Value} {itemName : String} {list item : Value} {body : List Item}
      {index : Nat} {session middle after : Session} {turns : List (Table Value)}
      {output outputAfter : List Char} (isItem : (currentItems session list)[index]? = some item)
      (renders : LiveRenders commands (loopVariables loopValues itemName item index) body session
        output middle)
      (live : LiveTurns commands loopValues itemName list body (index + 1) middle turns outputAfter
        after) :
      LiveTurns commands loopValues itemName list body index session
        (loopVariables loopValues itemName item index :: turns) (output ++ outputAfter) after

end

/-! ### Sizes -/

/-- No command resizes a list. -/
def Commands.KeepSizes (commands : Commands) : Prop :=
  ∀ code loopValues session value next, commands code loopValues session value next →
    session.heap.KeepsSizes next.heap

section

variable {commands : Commands} {loopValues : Table Value} {session after : Session}
  {output : List Char}

theorem turnsKeepSizes {itemName : String} {list : Value} {body : List Item} {index : Nat}
    {turns : List (Table Value)}
    (keeps : ∀ {loopValues : Table Value} {session after : Session} {output : List Char},
      LiveRenders commands loopValues body session output after → session.heap.KeepsSizes after.heap)
    (live : LiveTurns commands loopValues itemName list body index session turns output after) :
    session.heap.KeepsSizes after.heap := by
  induction turns generalizing index session output with
  | nil =>
      cases live with
      | finished => exact .refl _
  | cons turn turns inductionHypothesis =>
      cases live with
      | turn _ renders live => exact (keeps renders).trans (inductionHypothesis live)

/-- A rendering resizes no list. -/
theorem liveKeepsSizes (keeps : commands.KeepSizes) : ∀ {items : List Item} {loopValues : Table Value}
    {session after : Session} {output : List Char},
    LiveRenders commands loopValues items session output after → session.heap.KeepsSizes after.heap
  | [], _, _, _, _, live => by
      cases live
      exact .refl _
  | item :: rest, _, _, _, _, live => by
      cases live with
      | markup _ rest => exact liveKeepsSizes keeps rest
      | insert _ runs _ rest => exact (keeps _ _ _ _ _ runs).trans (liveKeepsSizes keeps rest)
      | execute runs rest => exact (keeps _ _ _ _ _ runs).trans (liveKeepsSizes keeps rest)
      | loop runs _ live rest =>
          have ofTurns := turnsKeepSizes (liveKeepsSizes keeps) live
          exact ((keeps _ _ _ _ _ runs).trans ofTurns).trans (liveKeepsSizes keeps rest)
      | taken runs _ renders rest =>
          exact ((keeps _ _ _ _ _ runs).trans (liveKeepsSizes keeps renders)).trans
            (liveKeepsSizes keeps rest)
      | skipped runs _ rest => exact (keeps _ _ _ _ _ runs).trans (liveKeepsSizes keeps rest)

/-- While there is an item, the number of items stays the same. -/
theorem currentSizeKept {list item : Value} {index : Nat} (keeps : session.heap.KeepsSizes after.heap)
    (isItem : (currentItems session list)[index]? = some item) :
    (currentItems after list).size = (currentItems session list).size := by
  obtain ⟨bound, -⟩ := Array.getElem?_eq_some_iff.1 isItem
  have notEmpty : (currentItems session list).size ≠ 0 := Nat.ne_of_gt (Nat.zero_lt_of_lt bound)
  unfold currentItems at notEmpty ⊢
  cases isFound : session.heap.items? list with
  | none =>
      rw [isFound] at notEmpty
      exact absurd rfl notEmpty
  | some found =>
      rw [isFound] at notEmpty
      obtain ⟨later, isLater, sameSize⟩ := keeps.items isFound notEmpty
      rw [isLater]
      exact sameSize

/-- From an index on there is one turn for each item, and each one sees its index. -/
theorem turnsOfSize (keeps : commands.KeepSizes) {itemName : String} {list : Value} {body : List Item}
    {index : Nat} {turns : List (Table Value)}
    (live : LiveTurns commands loopValues itemName list body index session turns output after) :
    turns.map (·.get? "$idx") =
      (List.range' index ((currentItems session list).size - index)).map
        fun index => some (.int index) := by
  induction turns generalizing index session output with
  | nil =>
      cases live with
      | finished noItem =>
          rw [Nat.sub_eq_zero_of_le (Array.getElem?_eq_none_iff.1 noItem)]
          rfl
  | cons turn turns inductionHypothesis =>
      cases live with
      | @turn _ _ _ item _ _ _ middle _ _ _ _ isItem renders live =>
          obtain ⟨bound, -⟩ := Array.getElem?_eq_some_iff.1 isItem
          have sameSize := currentSizeKept (liveKeepsSizes keeps renders) isItem
          have left : (currentItems session list).size - index =
              (currentItems session list).size - (index + 1) + 1 := by omega
          rw [List.map_cons, inductionHypothesis live, sameSize, left, List.range'_succ, List.map_cons]
          exact congrArg (· :: _) (getLoopVariables loopValues itemName item index).1

end

/-! ### Commands of an application -/

/-- This is what a command makes of the session when its run ends on a machine. -/
def sessionAfter (machine : Machine) (loopValues : Table Value) : Session :=
  ⟨machine.heap, ⟨valuesAfter machine loopValues, machine.bindings⟩, machine.shared⟩

/-- The code of a command is run, and the application may act on the heap meanwhile without resizing a
list. -/
def ActingCommand (settings : Settings) : Commands := fun code loopValues session value next =>
  ∃ actions after, Stage.ActsInSize ⟨machineOf session loopValues, actions⟩ ∧
    runStaged settings.host settings.helpers settings.isOpen code
      ⟨machineOf session loopValues, actions⟩ = (.ok value, after) ∧
    next = sessionAfter after.machine loopValues

/-- The application does nothing but answer. -/
def PlainCommand (settings : Settings) : Commands := fun code loopValues session value next =>
  (run settings code loopValues).outcome session = (.ok value, next)

section

variable {settings : Settings} {loopValues : Table Value} {session after : Session}
  {output : List Char}

theorem actingKeepsSizes (settings : Settings) : (ActingCommand settings).KeepSizes := by
  rintro code loopValues session value next ⟨actions, after, acts, ran, rfl⟩
  have started : session.heap.KeepsSizes (machineOf session loopValues).heap :=
    (Heap.growsByRecord session.heap _).keepsSizes
  have kept := runKeepsSizes settings.host settings.helpers settings.isOpen code acts
  rw [ran] at kept
  exact started.trans kept

/-- A plain command is one of an application that has nothing to do. -/
theorem actingOfPlain {code : String} {value : Value} {next : Session}
    (plain : PlainCommand settings code loopValues session value next) :
    ActingCommand settings code loopValues session value next := by
  rw [PlainCommand, runOutcome] at plain
  have staged := runStagedIdle settings.host settings.helpers settings.isOpen code
    (machineOf session loopValues)
  rcases ran : runProtected settings.host settings.helpers settings.isOpen code
    (machineOf session loopValues) with ⟨result, machine⟩
  rw [ran] at plain staged
  cases result with
  | ok result =>
      obtain ⟨sameValue, sameSession⟩ := Prod.mk.inj plain
      obtain rfl := Except.ok.inj sameValue
      refine ⟨[], .idle machine, ?_, staged, sameSession.symm⟩
      intro action isInside
      cases isInside
  | error failure => cases (Prod.mk.inj plain).1

theorem plainKeepsSizes (settings : Settings) : (PlainCommand settings).KeepSizes :=
  fun _ _ _ _ _ plain => actingKeepsSizes settings _ _ _ _ _ (actingOfPlain plain)

/-! ### Rendering with plain commands -/

theorem loopLengthIff {itemName code : String} {list : Value} {count : Nat} :
    loopLength session itemName code list = .ok count ↔
      IsIterable session list ∧ (currentItems session list).size = count := by
  unfold IsIterable currentItems
  cases found : session.heap.items? list with
  | some items =>
      have length : loopLength session itemName code list = .ok items.size := by
        rw [loopLength.eq_def, found]
      rw [length]
      simp
  | none =>
      cases list with
      | null =>
          have length : loopLength session itemName code .null = .ok 0 := rfl
          rw [length]
          simp
      | list reference => exact nomatch found
      | tuple reference => exact nomatch found
      | _ => simp [loopLength, Heap.items?]

theorem currentItemOf {list item : Value} {index : Nat}
    (isItem : (currentItems session list)[index]? = some item) :
    currentItem session list index = item := by
  rw [currentItem, Array.getD_eq_getD_getElem?]
  change ((currentItems session list)[index]?).getD .null = item
  rw [isItem, Option.getD_some]

/-- The turns of a number of indices are those of a loop that looks at its list again. -/
theorem liveOfRepeats {itemName : String} {list : Value} {body : List Item} {index count : Nat}
    {inserted : List String}
    (lives : ∀ {loopValues : Table Value} {session after : Session} {inserted : List String}
      {output : List Char}, Renders settings loopValues body session inserted output after →
        LiveRenders (PlainCommand settings) loopValues body session output after)
    (size : (currentItems session list).size = index + count)
    (repeats : Repeats settings loopValues itemName list body (List.range' index count) session inserted
      output after) :
    ∃ turns, LiveTurns (PlainCommand settings) loopValues itemName list body index session turns output
      after := by
  induction count generalizing index session inserted output with
  | zero =>
      cases repeats with
      | done => exact ⟨[], .finished (Array.getElem?_eq_none (Nat.le_of_eq size))⟩
  | succ count inductionHypothesis =>
      rw [List.range'_succ] at repeats
      cases repeats with
      | turn renders repeats =>
          have isItem := Array.getElem?_eq_getElem (show index < (currentItems session list).size by omega)
          rw [currentItemOf isItem] at renders
          have live := lives renders
          have sameSize := currentSizeKept (liveKeepsSizes (plainKeepsSizes settings) live) isItem
          obtain ⟨turns, liveRest⟩ := inductionHypothesis (by omega) repeats
          exact ⟨_, .turn isItem live liveRest⟩

theorem liveOfRenders : ∀ {items : List Item} {loopValues : Table Value} {session after : Session}
    {inserted : List String} {output : List Char},
    Renders settings loopValues items session inserted output after →
      LiveRenders (PlainCommand settings) loopValues items session output after
  | [], _, _, _, _, _, renders => by
      cases renders
      exact .done
  | item :: rest, _, _, _, _, _, renders => by
      cases renders with
      | markup content rest => exact .markup content (liveOfRenders rest)
      | insert isInRun runs written rest => exact .insert isInRun runs written (liveOfRenders rest)
      | execute runs rest => exact .execute runs (liveOfRenders rest)
      | @loop _ _ _ _ next _ _ _ _ _ _ _ _ list count runs counts repeats rest =>
          obtain ⟨iterable, size⟩ := loopLengthIff.1 counts
          rw [List.range_eq_range'] at repeats
          obtain ⟨turns, live⟩ := liveOfRepeats liveOfRenders (by rw [size, Nat.zero_add]) repeats
          exact .loop runs iterable live (liveOfRenders rest)
      | taken runs isTruthy renders rest =>
          exact .taken runs isTruthy (liveOfRenders renders) (liveOfRenders rest)
      | skipped runs isFalsy rest => exact .skipped runs isFalsy (liveOfRenders rest)

theorem repeatsOfLive {itemName : String} {list : Value} {body : List Item} {index : Nat}
    {turns : List (Table Value)}
    (renders : ∀ {loopValues : Table Value} {session after : Session} {output : List Char},
      LiveRenders (PlainCommand settings) loopValues body session output after →
        ∃ inserted, Renders settings loopValues body session inserted output after)
    (live : LiveTurns (PlainCommand settings) loopValues itemName list body index session turns output
      after) :
    ∃ inserted, Repeats settings loopValues itemName list body
      (List.range' index ((currentItems session list).size - index)) session inserted output after := by
  induction turns generalizing index session output with
  | nil =>
      cases live with
      | finished noItem =>
          rw [Nat.sub_eq_zero_of_le (Array.getElem?_eq_none_iff.1 noItem)]
          exact ⟨[], .done⟩
  | cons turn turns inductionHypothesis =>
      cases live with
      | turn isItem liveBody live =>
          obtain ⟨bound, -⟩ := Array.getElem?_eq_some_iff.1 isItem
          have sameSize := currentSizeKept (liveKeepsSizes (plainKeepsSizes settings) liveBody) isItem
          have left : (currentItems session list).size - index =
              (currentItems session list).size - (index + 1) + 1 := by omega
          obtain ⟨inserted, rendersBody⟩ := renders liveBody
          obtain ⟨insertedRest, repeats⟩ := inductionHypothesis live
          rw [sameSize] at repeats
          rw [left, List.range'_succ]
          rw [← currentItemOf isItem] at rendersBody
          exact ⟨inserted ++ insertedRest, .turn rendersBody repeats⟩

theorem rendersOfLive : ∀ {items : List Item} {loopValues : Table Value} {session after : Session}
    {output : List Char},
    LiveRenders (PlainCommand settings) loopValues items session output after →
      ∃ inserted, Renders settings loopValues items session inserted output after
  | [], _, _, _, _, live => by
      cases live
      exact ⟨[], .done⟩
  | item :: rest, _, _, _, _, live => by
      cases live with
      | markup content rest =>
          obtain ⟨inserted, renders⟩ := rendersOfLive rest
          exact ⟨inserted, .markup content renders⟩
      | @insert _ _ _ _ _ _ _ text _ isInRun runs written rest =>
          obtain ⟨inserted, renders⟩ := rendersOfLive rest
          exact ⟨text :: inserted, .insert isInRun runs written renders⟩
      | execute runs rest =>
          obtain ⟨inserted, renders⟩ := rendersOfLive rest
          exact ⟨inserted, .execute runs renders⟩
      | loop runs iterable live rest =>
          obtain ⟨insertedBody, repeats⟩ := repeatsOfLive rendersOfLive live
          obtain ⟨inserted, renders⟩ := rendersOfLive rest
          rw [Nat.sub_zero, ← List.range_eq_range'] at repeats
          exact ⟨insertedBody ++ inserted,
            .loop runs (loopLengthIff.2 ⟨iterable, rfl⟩) repeats renders⟩
      | taken runs isTruthy liveBody rest =>
          obtain ⟨insertedBody, rendersBody⟩ := rendersOfLive liveBody
          obtain ⟨inserted, renders⟩ := rendersOfLive rest
          exact ⟨insertedBody ++ inserted, .taken runs isTruthy rendersBody renders⟩
      | skipped runs isFalsy rest =>
          obtain ⟨inserted, renders⟩ := rendersOfLive rest
          exact ⟨inserted, .skipped runs isFalsy renders⟩

/-- A rendering whose loops look at their lists again before each turn is the rendering that counts the
turns beforehand. -/
theorem liveIff {items : List Item} :
    (renderItems settings loopValues items).outcome session = (.ok output, after) ↔
      LiveRenders (PlainCommand settings) loopValues items session output after := by
  constructor
  · intro succeeds
    obtain ⟨inserted, renders⟩ := rendersOfOutcome succeeds
    exact liveOfRenders renders
  · intro live
    obtain ⟨inserted, renders⟩ := rendersOfLive live
    exact outcomeOfRenders renders

/-! ### Numbers of turns -/

/-- A loop that comes to its end has one turn for each item that the list had when its expression was
evaluated, and `$idx` counts the turns from 0. -/
def Commands.TurnOncePerItem (commands : Commands) : Prop :=
  ∀ {loopValues : Table Value} {itemName code : String} {body rest : List Item}
    {session after : Session} {output : List Char},
    LiveRenders commands loopValues (.loop itemName code body :: rest) session output after →
      ∃ list next turns first middle remaining,
        commands code loopValues session list next ∧
        LiveTurns commands loopValues itemName list body 0 next turns first middle ∧
        LiveRenders commands loopValues rest middle remaining after ∧ output = first ++ remaining ∧
        turns.length = (currentItems next list).size ∧
        turns.map (·.get? "$idx") = (List.range turns.length).map fun index => some (.int index)

theorem Commands.KeepSizes.turnOncePerItem {commands : Commands} (keeps : commands.KeepSizes) :
    commands.TurnOncePerItem := by
  intro _ _ _ _ _ _ _ _ live
  cases live with
  | loop runs _ live rest =>
      have indices := turnsOfSize keeps live
      have count := congrArg List.length indices
      rw [List.length_map, List.length_map, List.length_range', Nat.sub_zero] at count
      rw [Nat.sub_zero, ← count, ← List.range_eq_range'] at indices
      exact ⟨_, _, _, _, _, _, runs, live, rest, rfl, count, indices⟩

end

/-- No script resizes a list, unless the application does so. Therefore every loop has one turn for
each item, whatever its body assigns. -/
theorem loopsTurnOncePerItem (settings : Settings) :
    (∀ (source : String) (stage : Script.Stage), stage.ActsInSize →
      ∀ reference < stage.machine.heap.lists.size,
        ((runStaged settings.host settings.helpers settings.isOpen source
          stage).2.machine.heap.list reference).size = (stage.machine.heap.list reference).size) ∧
      (∀ (source : String) (machine : Machine), ∀ reference < machine.heap.lists.size,
        ((runProtected settings.host settings.helpers settings.isOpen source machine).2.heap.list
          reference).size = (machine.heap.list reference).size) ∧
      (ActingCommand settings).TurnOncePerItem ∧ (PlainCommand settings).TurnOncePerItem ∧
      ∀ (loopValues : Table Value) (items : List Item) (session after : Session)
        (output : List Char),
        (renderItems settings loopValues items).outcome session = (.ok output, after) ↔
          LiveRenders (PlainCommand settings) loopValues items session output after := by
  refine ⟨fun source stage acts => ?_, fun source machine => ?_,
    (actingKeepsSizes settings).turnOncePerItem, (plainKeepsSizes settings).turnOncePerItem,
    fun _ _ _ _ _ => liveIff⟩
  · exact (runKeepsSizes settings.host settings.helpers settings.isOpen source acts).ofList
  · have idle : (Stage.idle machine).ActsInSize := by
      intro action isInside
      cases isInside
    have kept := runKeepsSizes settings.host settings.helpers settings.isOpen source idle
    rw [runStagedIdle] at kept
    exact kept.ofList

/-- This session has a list of two numbers under two names. -/
def sharedSession : Session :=
  ⟨⟨#[#[.int 7, .int 8]], #[], #[]⟩,
    ⟨.ofList [("items", .list 0), ("others", .list 0)], .empty⟩, .empty⟩

/-- The body of this loop changes the list under its other name and names another list `items`. -/
def sharedLoop : List Item :=
  [.loop "item" "items" [.execute "others[1] = 5; items = [1, 2, 3]", .insert "$item" false]]

/-- The loop has two turns, though the application changes an item and the body another one. -/
theorem changedListIsLoopedOver :
    let rendered := (renderItems plainSettings .empty sharedLoop).outcome sharedSession
    let stage : Script.Stage :=
      ⟨machineOf sharedSession .empty, [fun heap => heap.setItem 0 0 .null]⟩
    stage.ActsInSize ∧
      ((runStaged plainSettings.host plainSettings.helpers plainSettings.isOpen "items[1] = items[0]"
        stage).2.machine.heap.list 0).size = 2 ∧
      rendered.1 = .ok ['7', '5'] ∧
      ∃ list next turns first middle,
        LiveTurns (PlainCommand plainSettings) .empty "item" list
          [.execute "others[1] = 5; items = [1, 2, 3]", .insert "$item" false] 0 next turns first
          middle ∧
        turns.map (·.get? "$idx") = [some (.int 0), some (.int 1)] := by
  intro rendered stage
  have acts : stage.ActsInSize := by
    intro action isInside heap
    obtain rfl := List.mem_singleton.1 isInside
    exact Heap.setItemKeepsSizes ..
  obtain ⟨keepsStaged, -, -, turnOncePerItem, isLive⟩ := loopsTurnOncePerItem plainSettings
  have renders := outcomeOfOption (by decide +kernel : rendered.1.toOption = some ['7', '5'])
  obtain ⟨list, next, turns, first, middle, -, runs, live, -, -, count, indices⟩ :=
    turnOncePerItem ((isLive _ _ _ _ _).1 renders)
  have size : (let ran := (run plainSettings "items" .empty).outcome sharedSession
      ran.1.toOption.map fun list => (currentItems ran.2 list).size) = some 2 := by
    decide +kernel
  rw [show (run plainSettings "items" .empty).outcome sharedSession = (.ok list, next) from runs]
    at size
  rw [count.trans (Option.some.inj size)] at indices
  exact ⟨acts, keepsStaged _ stage acts 0 Nat.one_pos, congrArg Prod.fst renders, list, next, turns,
    first, middle, live, indices⟩

end Letterpress.Report
