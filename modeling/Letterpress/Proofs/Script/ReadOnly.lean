import Letterpress.Proofs.Scope.Shedding
import Letterpress.Proofs.Script.Reading

/-!
This file shows what code leaves alone that only reads. Without assignments, deletions and calls a
run changes nothing but the helpers and the lists that it makes.
-/

namespace Letterpress.Script

/-! ### Reading code -/

namespace Expression

mutual

/-- An expression only reads if it neither assigns nor calls anything. -/
def onlyReads : Expression → Bool
  | literal _ | name _ | this => true
  | array items => itemsOnlyRead items
  | member object key => object.onlyReads && key.onlyReads
  | call _ _ _ => false
  | unary _ operand => operand.onlyReads
  | binary _ left right | logical _ left right => left.onlyReads && right.onlyReads
  | conditional test consequent alternate =>
      test.onlyReads && consequent.onlyReads && alternate.onlyReads
  | assignName _ _ | assignMember _ _ _ => false

def itemsOnlyRead : List Expression → Bool
  | [] => true
  | item :: rest => item.onlyReads && itemsOnlyRead rest

end

end Expression

def Statement.onlyReads : Statement → Bool
  | expression value => value.onlyReads
  | deleteName _ => false
  | deleteMember _ _ => false

/-- Code that cannot be read does nothing at all. -/
def onlyReads (source : String) : Bool :=
  match parse source with
  | .ok program => program.all Statement.onlyReads
  | .error _ => true

/-! ### Runs -/

/-- A machine only adds lists to its heap and keeps everything else. -/
structure Machine.OnlyAdds (before after : Machine) : Prop where
  grows : before.heap.lists.toList <+: after.heap.lists.toList
  same : after = { before with heap := { before.heap with lists := after.heap.lists } }

theorem Machine.OnlyAdds.refl (machine : Machine) : machine.OnlyAdds machine :=
  ⟨List.prefix_rfl, rfl⟩

theorem Machine.OnlyAdds.trans {before middle after : Machine} (first : before.OnlyAdds middle)
    (second : middle.OnlyAdds after) : before.OnlyAdds after := by
  refine ⟨first.grows.trans second.grows, ?_⟩
  rw [second.same, first.same]

/-- A run only reads if the machine only adds lists, also when the run fails. -/
def Reads {Result : Type} (run : Run Result) : Prop :=
  ∀ machine : Machine, machine.OnlyAdds (outcome run machine).2

section

variable {First Result : Type}

theorem readsPure (result : Result) : Reads (pure result : Run Result) :=
  fun machine => Machine.OnlyAdds.refl machine

theorem readsBind {first : Run First} {next : First → Run Result} (readsFirst : Reads first)
    (readsNext : ∀ result, Reads (next result)) : Reads (first >>= next) := by
  intro machine
  have afterFirst := readsFirst machine
  rw [outcomeBind]
  revert afterFirst
  rcases outcome first machine with ⟨result, after⟩
  intro afterFirst
  cases result with
  | ok result => exact afterFirst.trans (readsNext result after)
  | error failure => exact afterFirst

theorem readsQuery (read : Heap → Except Failure Result) :
    Reads (Scripting.query read : Run Result) :=
  fun machine => Machine.OnlyAdds.refl machine

theorem readsNewList (items : List Value) : Reads (Scripting.newList items : Run Value) := by
  intro machine
  refine ⟨?_, rfl⟩
  change machine.heap.lists.toList <+: (machine.heap.lists.push items.toArray).toList
  simp

theorem readsLookup (name : String) : Reads (Scripting.lookup name : Run Value) := by
  intro machine
  change machine.OnlyAdds (outcome (Run.lookup name) machine).2
  rw [Run.outcomeLookup]
  exact .refl machine

end

/-- The induction follows the evaluation; lists of expressions go along with expressions. -/
theorem evaluateReads (host : Host) :
    (∀ expression, expression.onlyReads = true → Reads (evaluate host expression : Run Value)) ∧
      ∀ expressions, Expression.itemsOnlyRead expressions = true →
        Reads (evaluateAll host expressions : Run (List Value)) := by
  refine evaluate.mutual_induct _ _ ?literal ?name ?this ?array ?member ?memberCall ?call ?unary
    ?binary ?logical ?conditional ?assignName ?assignMember ?nil ?cons
  case literal => exact fun literal _ => readsPure literal.value
  case name => exact fun name _ => readsLookup name
  case this => exact fun _ machine => Machine.OnlyAdds.refl machine
  case array =>
    intro items readsItems onlyReads
    simp only [evaluate]
    exact readsBind (readsItems onlyReads) readsNewList
  case member =>
    intro object key readsObject readsKey onlyReads
    simp only [Expression.onlyReads, Bool.and_eq_true] at onlyReads
    simp only [evaluate]
    exact readsBind (readsObject onlyReads.1) fun _ =>
      readsBind (readsKey onlyReads.2) fun _ => readsQuery _
  case memberCall => exact fun _ _ _ _ _ _ _ onlyReads => (Bool.false_ne_true onlyReads).elim
  case call => exact fun _ _ _ _ _ _ onlyReads => (Bool.false_ne_true onlyReads).elim
  case unary =>
    intro operator operand readsOperand onlyReads
    simp only [evaluate]
    exact readsBind (readsOperand onlyReads) fun _ => readsQuery _
  case binary =>
    intro operator left right readsLeft readsRight onlyReads
    simp only [Expression.onlyReads, Bool.and_eq_true] at onlyReads
    simp only [evaluate]
    exact readsBind (readsLeft onlyReads.1) fun _ =>
      readsBind (readsRight onlyReads.2) fun _ => readsQuery _
  case logical =>
    intro operator left right readsLeft readsRight onlyReads
    simp only [Expression.onlyReads, Bool.and_eq_true] at onlyReads
    simp only [evaluate]
    refine readsBind (readsLeft onlyReads.1) fun first => ?_
    split
    · exact readsRight onlyReads.2
    · exact readsPure first
  case conditional =>
    intro test consequent alternate readsTest readsConsequent readsAlternate onlyReads
    simp only [Expression.onlyReads, Bool.and_eq_true] at onlyReads
    simp only [evaluate]
    refine readsBind (readsTest onlyReads.1.1) fun value => ?_
    split
    · exact readsConsequent onlyReads.1.2
    · exact readsAlternate onlyReads.2
  case assignName => exact fun _ _ _ onlyReads => (Bool.false_ne_true onlyReads).elim
  case assignMember => exact fun _ _ _ _ _ _ onlyReads => (Bool.false_ne_true onlyReads).elim
  case nil => exact fun _ => readsPure []
  case cons =>
    intro first rest readsFirst readsRest onlyReads
    simp only [Expression.itemsOnlyRead, Bool.and_eq_true] at onlyReads
    simp only [evaluateAll]
    exact readsBind (readsFirst onlyReads.1) fun value =>
      readsBind (readsRest onlyReads.2) fun _ => readsPure _

theorem executeAllReads (host : Host) (result : Value) {program : Program}
    (onlyRead : program.all Statement.onlyReads = true) :
    Reads (executeAll host result program : Run Value) := by
  induction program generalizing result with
  | nil => exact readsPure result
  | cons statement rest inductionHypothesis =>
      rw [List.all_cons, Bool.and_eq_true] at onlyRead
      refine readsBind ?_ fun next => inductionHypothesis next onlyRead.2
      cases statement with
      | expression value => exact (evaluateReads host).1 value onlyRead.1
      | deleteName name => exact nomatch onlyRead.1
      | deleteMember object key => exact nomatch onlyRead.1

theorem runSourceReads (host : Host) {source : String} (onlyRead : onlyReads source = true) :
    Reads (runSource host source : Run Value) := by
  unfold onlyReads at onlyRead
  intro machine
  rw [runSource, outcomeBind]
  cases isRead : parse source with
  | ok program =>
      rw [isRead] at onlyRead
      exact executeAllReads host .null onlyRead machine
  | error failure => exact .refl machine

/-! ### Protected runs -/

section

variable {helpers : Helpers} {before after machine : Machine}

theorem Machine.OnlyAdds.scopeSame (onlyAdds : before.OnlyAdds after) :
    after.scope = before.scope := by
  rw [onlyAdds.same]
  rfl

theorem Machine.OnlyAdds.placed (onlyAdds : before.OnlyAdds after) (isPlaced : before.IsPlaced) :
    after.IsPlaced := by
  rw [onlyAdds.same]
  exact isPlaced

theorem Machine.OnlyAdds.heapGrows (onlyAdds : before.OnlyAdds after) :
    before.heap.Grows after.heap where
  lists := onlyAdds.grows
  tuples := by
    have same : after.heap.tuples = before.heap.tuples := congrArg (·.heap.tuples) onlyAdds.same
    exact same ▸ List.prefix_rfl
  records := by
    have same : after.heap.records = before.heap.records := congrArg (·.heap.records) onlyAdds.same
    exact same ▸ List.prefix_rfl

theorem Machine.OnlyAdds.selfSame (onlyAdds : before.OnlyAdds after) :
    after.self = before.self := by
  rw [onlyAdds.same]

/-- A machine is spared if only names of missing helpers are taken from its scope, and if nothing
changes on the heap but its own record. -/
structure Machine.Spares (helpers : Helpers) (before after : Machine) : Prop where
  scope : before.scope.Sheds (Scope.Misses helpers before.scope) after.scope
  heap : ∀ earlier : Heap, earlier.Grows before.heap → earlier.records.size ≤ before.self →
    earlier.Grows after.heap

/-- A protected run of code that only reads spares its machine. -/
theorem readingSpares (host : Host) (helpers : Helpers) (isOpen : Bool) {source : String}
    (onlyRead : onlyReads source = true) (isPlaced : machine.IsPlaced) :
    machine.Spares helpers (runProtected host helpers isOpen source machine).2 := by
  have isPrepared : (machine.prepare helpers isOpen).IsPlaced := by
    simpa [Machine.IsPlaced, Machine.prepare, Machine.setScope, Heap.setRecord] using isPlaced
  have onlyAdds := runSourceReads host onlyRead (machine.prepare helpers isOpen)
  change machine.Spares helpers
    ((outcome (runSource host source) (machine.prepare helpers isOpen)).2.recover helpers)
  revert onlyAdds
  generalize (outcome (runSource host source) (machine.prepare helpers isOpen)).2 = ran
  intro onlyAdds
  constructor
  · have prepares : machine.scope.Sheds (Scope.Misses helpers machine.scope)
        (machine.prepare helpers isOpen).scope := by
      rw [Machine.scopeOfPrepare isPlaced]
      exact Scope.shedsByEnsure fun _ => id
    have recovers : ran.scope.Sheds (Scope.Misses helpers machine.scope)
        (ran.recover helpers).scope := by
      rw [Machine.recover, Machine.scopeOfSet (onlyAdds.placed isPrepared)]
      refine Scope.shedsByReinstate fun name misses => prepares.misses ?_
      exact onlyAdds.scopeSame ▸ misses
    exact prepares.trans (onlyAdds.scopeSame ▸ recovers)
  · intro earlier grows isLater
    have prepared : earlier.Grows (machine.prepare helpers isOpen).heap := grows.setRecord isLater _
    have growsRan := prepared.trans onlyAdds.heapGrows
    refine growsRan.setRecord ?_ _
    rw [onlyAdds.selfSame]
    exact isLater

end

end Letterpress.Script
