import Letterpress.Proofs.Report.Running
import Letterpress.Proofs.Script.ReadOnly

/-!
This file shows what a report leaves alone whose commands only read. It adds nothing to the values
of the root scope and changes none of them, but it drops those that have the name of a loop
variable.
-/

namespace Letterpress.Report

open Script Rendering

/-! ### Reading reports -/

mutual

/-- An item only reads if none of its commands assigns, deletes or calls anything. -/
def Item.onlyReads : Item → Bool
  | .markup _ => true
  | .insert code _ => Script.onlyReads code
  | .execute code => Script.onlyReads code
  | .loop _ code body => Script.onlyReads code && itemsOnlyRead body
  | .choice code body => Script.onlyReads code && itemsOnlyRead body

def itemsOnlyRead : List Item → Bool
  | [] => true
  | item :: rest => item.onlyReads && itemsOnlyRead rest

end

mutual

/-- These are the names of the variables of all loops. -/
def Item.loopNames : Item → List String
  | .markup _ => []
  | .insert _ _ => []
  | .execute _ => []
  | .loop itemName _ body => ("$" ++ itemName) :: "$idx" :: itemsLoopNames body
  | .choice _ body => itemsLoopNames body

def itemsLoopNames : List Item → List String
  | [] => []
  | item :: rest => item.loopNames ++ itemsLoopNames rest

end

/-- A session is kept if only allowed names are taken from the root scope, and if the heap only
grows. -/
structure Session.Keeps (allowed : String → Prop) (before after : Session) : Prop where
  scope : before.root.Sheds allowed after.root
  heap : before.heap.Grows after.heap

section

variable {allowed : String → Prop} {before middle after session next : Session}
  {settings : Settings} {loopValues : Table Value} {code : String} {value : Value}

theorem Session.Keeps.refl (session : Session) : session.Keeps allowed session :=
  ⟨.refl _, .refl _⟩

theorem Session.Keeps.trans (first : before.Keeps allowed middle)
    (second : middle.Keeps allowed after) : before.Keeps allowed after :=
  ⟨first.scope.trans second.scope, first.heap.trans second.heap⟩

/-- These names may be lost: those of loop variables and those of missing helpers. -/
structure Allows (allowed : String → Prop) (settings : Settings) (session : Session)
    (loopValues : Table Value) : Prop where
  loopNames : ∀ name ∈ loopValues.names, allowed name
  helpers : ∀ name, Scope.Misses settings.helpers session.root name → allowed name

theorem Allows.kept (allows : Allows allowed settings before loopValues)
    (keeps : before.Keeps allowed after) : Allows allowed settings after loopValues :=
  ⟨allows.loopNames, fun name misses => allows.helpers name (keeps.scope.misses misses)⟩

theorem Allows.turn {itemName : String} {item : Value} {index : Nat}
    (allows : Allows allowed settings session loopValues) (allowsItem : allowed ("$" ++ itemName))
    (allowsIndex : allowed "$idx") :
    Allows allowed settings session (loopVariables loopValues itemName item index) := by
  refine ⟨fun name isVariable => ?_, allows.helpers⟩
  rw [← Table.containsIff, loopVariables, Table.contains, Table.getInsert, Table.getInsert]
    at isVariable
  by_cases isIndex : name = "$idx"
  · exact isIndex ▸ allowsIndex
  · by_cases isItem : name = "$" ++ itemName
    · exact isItem ▸ allowsItem
    · rw [if_neg isIndex, if_neg isItem] at isVariable
      exact allows.loopNames name (Table.containsIff.1 isVariable)

/-! ### Runs -/

/-- After the run of a command the variables of its loops are gone, and with them the values that
they hid. -/
theorem readingRunKeeps (onlyRead : Script.onlyReads code = true)
    (allows : Allows allowed settings session loopValues)
    (runs : (run settings code loopValues).outcome session = (.ok value, next)) :
    session.Keeps allowed next := by
  have spares := readingSpares settings.host settings.helpers settings.isOpen onlyRead
    (machineIsPlaced session loopValues)
  rw [runOutcome] at runs
  revert runs spares
  rcases runProtected settings.host settings.helpers settings.isOpen code
    (machineOf session loopValues) with ⟨result, after⟩
  intro runs spares
  cases result with
  | error failure => exact nomatch runs
  | ok result =>
      obtain ⟨-, rfl⟩ := Prod.mk.inj runs
      have sheds := spares.scope
      rw [scopeOfMachine] at sheds
      obtain ⟨lost, allMissing, sameValues⟩ := sheds.values
      refine ⟨⟨⟨lost ++ loopValues.names, ?_, ?_⟩, sheds.bindings⟩, ?_⟩
      · exact List.forall_mem_append.2
          ⟨fun name isLost => allows.helpers name (allMissing name isLost), allows.loopNames⟩
      · -- The loop variables hide the values of their names, and both are taken away together.
        rw [valuesAfterWithout, sameValues, Table.withoutBoth]
        exact Table.overlayWithout (List.subset_append_right lost loopValues.names)
      · exact spares.heap session.heap (Heap.growsByRecord session.heap _) (Nat.le_refl _)

theorem keepsOfRepeats {itemName : String} {list : Value} {body : List Item} {indices : List Nat}
    {inserted : List String} {output : List Char}
    (keepsBody : ∀ {loopValues : Table Value} {session after : Session} {inserted : List String}
      {output : List Char}, Renders settings loopValues body session inserted output after →
        Allows allowed settings session loopValues → session.Keeps allowed after)
    (allows : Allows allowed settings session loopValues) (allowsItem : allowed ("$" ++ itemName))
    (allowsIndex : allowed "$idx")
    (repeats : Repeats settings loopValues itemName list body indices session inserted output
      after) :
    session.Keeps allowed after := by
  induction indices generalizing session inserted output with
  | nil =>
      cases repeats
      exact .refl _
  | cons index rest inductionHypothesis =>
      cases repeats with
      | turn renders repeats =>
          have keepsTurn := keepsBody renders (allows.turn allowsItem allowsIndex)
          exact keepsTurn.trans (inductionHypothesis (allows.kept keepsTurn) repeats)

/-- A rendering keeps the session if all of its runs do. -/
theorem keepsOfRenders : ∀ {items : List Item} {loopValues : Table Value}
    {session after : Session} {inserted : List String} {output : List Char},
    itemsOnlyRead items = true → (∀ name ∈ itemsLoopNames items, allowed name) →
    Renders settings loopValues items session inserted output after →
      Allows allowed settings session loopValues → session.Keeps allowed after
  | [], _, _, _, _, _, _, _, renders, _ => by
      cases renders
      exact .refl _
  | item :: rest, _, _, _, _, _, onlyRead, allowsNames, renders, allows => by
      rw [itemsOnlyRead, Bool.and_eq_true] at onlyRead
      obtain ⟨allowsItem, allowsRest⟩ := List.forall_mem_append.1 allowsNames
      cases renders with
      | markup content rendersRest =>
          exact keepsOfRenders onlyRead.2 allowsRest rendersRest allows
      | insert isInRun runs written rendersRest =>
          have keeps := readingRunKeeps onlyRead.1 allows runs
          exact keeps.trans (keepsOfRenders onlyRead.2 allowsRest rendersRest (allows.kept keeps))
      | execute runs rendersRest =>
          have keeps := readingRunKeeps onlyRead.1 allows runs
          exact keeps.trans (keepsOfRenders onlyRead.2 allowsRest rendersRest (allows.kept keeps))
      | loop runs counts repeats rendersRest =>
          obtain ⟨readsCode, readsBody⟩ := Bool.and_eq_true_iff.1 onlyRead.1
          obtain ⟨allowsName, allowsOthers⟩ := List.forall_mem_cons.1 allowsItem
          obtain ⟨allowsIndex, allowsBody⟩ := List.forall_mem_cons.1 allowsOthers
          have keeps := readingRunKeeps readsCode allows runs
          have keepsLoop := keeps.trans (keepsOfRepeats (keepsOfRenders readsBody allowsBody)
            (allows.kept keeps) allowsName allowsIndex repeats)
          exact keepsLoop.trans
            (keepsOfRenders onlyRead.2 allowsRest rendersRest (allows.kept keepsLoop))
      | taken runs isTruthy rendersBody rendersRest =>
          obtain ⟨readsCode, readsBody⟩ := Bool.and_eq_true_iff.1 onlyRead.1
          have keeps := readingRunKeeps readsCode allows runs
          have keepsChoice := keeps.trans
            (keepsOfRenders readsBody allowsItem rendersBody (allows.kept keeps))
          exact keepsChoice.trans
            (keepsOfRenders onlyRead.2 allowsRest rendersRest (allows.kept keepsChoice))
      | skipped runs isFalsy rendersRest =>
          obtain ⟨readsCode, -⟩ := Bool.and_eq_true_iff.1 onlyRead.1
          have keeps := readingRunKeeps readsCode allows runs
          exact keeps.trans (keepsOfRenders onlyRead.2 allowsRest rendersRest (allows.kept keeps))

end

/-- When the rendering of commands that only read succeeds, the values of the root scope are those
from before, in their order, without the ones that share a name with a variable of a loop. If the
scope misses a helper, a value under the name of the helper may be lost as well. No container that
was on the heap is changed. -/
theorem readingKeepsRoot (settings : Settings) (loopValues : Table Value) (items : List Item)
    (session after : Session) (output : List Char) (onlyRead : itemsOnlyRead items = true)
    (renders : (renderItems settings loopValues items).outcome session = (.ok output, after)) :
    let mayBeLost := fun name => name ∈ loopValues.names ∨ name ∈ itemsLoopNames items ∨
      Scope.Misses settings.helpers session.root name
    (∃ lost, (∀ name ∈ lost, mayBeLost name) ∧
        after.root.values = session.root.values.without lost) ∧
      ((∀ name ∈ session.root.values.names, ¬ mayBeLost name) →
        after.root.values = session.root.values) ∧
      session.heap.Grows after.heap := by
  intro mayBeLost
  obtain ⟨inserted, rendered⟩ := rendersOfOutcome renders
  have allows : Allows mayBeLost settings session loopValues :=
    ⟨fun _ => .inl, fun _ misses => .inr (.inr misses)⟩
  have keeps := keepsOfRenders onlyRead (fun _ isName => .inr (.inl isName)) rendered allows
  obtain ⟨lost, allAllowed, sameValues⟩ := keeps.scope.values
  refine ⟨⟨lost, allAllowed, sameValues⟩, fun noneLost => ?_, keeps.heap⟩
  rw [sameValues, Table.withoutAbsent]
  exact fun name isLost isName => noneLost name isName (allAllowed name isLost)

/-- This session has a list of one text and another value under the given name. -/
def itemsSession (name : String) : Session :=
  ⟨⟨#[#[.text "v"]], #[], #[]⟩, ⟨.ofList [(name, .int 5), ("items", .list 0)], .empty⟩, .empty⟩

def itemLoop : List Item := [.loop "item" "items" [.insert "$item" false]]

theorem otherValueIsKept :
    let rendered := (renderItems plainSettings .empty itemLoop).outcome (itemsSession "total")
    itemsOnlyRead itemLoop = true ∧ rendered.1 = .ok ['v'] ∧
      (∀ name ∈ (itemsSession "total").root.values.names, name ∉ itemsLoopNames itemLoop) ∧
        rendered.2.root.values = (itemsSession "total").root.values := by
  intro rendered
  have onlyRead : itemsOnlyRead itemLoop = true := by decide +kernel
  have apart : ∀ name ∈ (itemsSession "total").root.values.names,
      name ∉ itemsLoopNames itemLoop := by
    decide
  have renders := outcomeOfOption (by decide +kernel : rendered.1.toOption = some ['v'])
  have keeps := readingKeepsRoot plainSettings .empty itemLoop (itemsSession "total") rendered.2
    ['v'] onlyRead renders
  refine ⟨onlyRead, congrArg Prod.fst renders, apart, keeps.2.1 fun name isName mayBeLost => ?_⟩
  obtain isVariable | isVariable | misses := mayBeLost
  · exact nomatch isVariable
  · exact apart name isName isVariable
  · exact Bool.false_ne_true misses.1

/-- The index of a loop takes a value of its name away. -/
theorem indexTakesValue :
    let rendered := (renderItems plainSettings .empty itemLoop).outcome (itemsSession "$idx")
    itemsOnlyRead itemLoop = true ∧ rendered.1.toOption = some ['v'] ∧
      (itemsSession "$idx").root.values.get? "$idx" = some (.int 5) ∧
        rendered.2.root.values.get? "$idx" = none := by
  decide +kernel

end Letterpress.Report
