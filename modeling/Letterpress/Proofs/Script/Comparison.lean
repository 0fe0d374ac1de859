import Letterpress.Proofs.Script.Observation

/-!
This file compares two runs of a script where some containers are hidden. If the single operations
compare well as long as they get no hidden container, then every script compares well to itself.
-/

namespace Letterpress.Script

/-- A comparison relates two runs. A result satisfies a property, on which the next run may rely. -/
structure Comparison (visibility : Visibility) where
  Holds : {Result : Type} → (Result → Prop) → Run Result → Run Result → Prop
  pure {Result : Type} {property : Result → Prop} {result : Result} :
    property result → Holds property (Pure.pure result) (Pure.pure result)
  bind {First Second : Type} {property : First → Prop} {propertyNext : Second → Prop}
    {run other : Run First} {next otherNext : First → Run Second} :
    Holds property run other →
      (∀ result, property result → Holds propertyNext (next result) (otherNext result)) →
        Holds propertyNext (run >>= next) (other >>= otherNext)
  query {Result : Type} {property : Result → Prop} {read otherRead : Heap → Except Failure Result} :
    (∀ left right, Heap.LooksLike visibility left right →
      Agree property (read left) (otherRead right)) →
        Holds property (Scripting.query read) (Scripting.query otherRead)
  self : Holds visibility.records Scripting.self Scripting.self
  lookup (name : String) : Holds visibility.Shows (Run.lookup name) (Run.lookup name)
  assign (name : String) {value : Value} : visibility.Shows value →
    Holds (fun _ => True) (Run.assign name value) (Run.assign name value)
  delete (name : String) : Holds (fun _ => True) (Run.delete name) (Run.delete name)
  newList {items : List Value} : (∀ item ∈ items, visibility.Shows item) →
    Holds visibility.Shows (Run.newList items) (Run.newList items)
  setMember {object key value : Value} :
    visibility.Shows object → visibility.Shows key → visibility.Shows value →
      Holds (fun _ => True) (Run.setMember object key value) (Run.setMember object key value)
  deleteMember {object key : Value} : visibility.Shows object → visibility.Shows key →
    Holds (fun _ => True) (Run.deleteMember object key) (Run.deleteMember object key)

/-- The receiver of a method is not hidden. -/
def Callee.Shows (visibility : Visibility) : Callee → Prop
  | .callable _ => True
  | .method receiver _ => visibility.Shows receiver

variable {visibility : Visibility}

theorem memberCalleeShows {receiver : Value} (shows : visibility.Shows receiver) (key value : Value) :
    ∀ found, memberCallee? receiver key value = some found → found.Shows visibility := by
  intro found isFound
  unfold memberCallee? at isFound
  split at isFound
  · cases isFound
    trivial
  · split at isFound
    · cases isFound
      exact shows
    · cases isFound
  · cases isFound

theorem valueCalleeShows (value : Value) :
    ∀ found, valueCallee? value = some found → found.Shows visibility := by
  intro found isFound
  unfold valueCallee? at isFound
  split at isFound
  · cases isFound
    trivial
  · cases isFound

namespace Comparison

variable {comparison : Comparison visibility}

/-- Two hosts compare well if their attributes and their functions do. -/
structure OfHosts (comparison : Comparison visibility) (host other : Host) : Prop where
  member {object key : Value} : visibility.Shows object → visibility.Shows key →
    comparison.Holds visibility.Shows
      (Scripting.query fun heap => getMember host heap object key)
      (Scripting.query fun heap => getMember other heap object key)
  apply (callable : Callable) {arguments : List Value} :
    (∀ argument ∈ arguments, visibility.Shows argument) →
      comparison.Holds visibility.Shows
        (Scripting.query fun heap => liftFault (host.apply heap callable arguments))
        (Scripting.query fun heap => liftFault (other.apply heap callable arguments))

section

variable {Result : Type} {property : Result → Prop}

theorem fault {read otherRead : Heap → Except Fault Result}
    (agree : ∀ left right, Heap.LooksLike visibility left right →
      Agree property (read left) (otherRead right)) :
    comparison.Holds property (Scripting.query fun heap => liftFault (read heap))
      (Scripting.query fun heap => liftFault (otherRead heap)) :=
  comparison.query fun left right alike => (agree left right alike).mapError _

theorem ofExcept {result : Except Failure Result} (yields : Yields property result) :
    comparison.Holds property (Scripting.ofExcept result) (Scripting.ofExcept result) :=
  comparison.query fun _ _ _ => ⟨rfl, yields⟩

end

section

variable {host other : Host} {arguments : List Value}

theorem requireCallee (source : String) {callee : Option Callee}
    (shows : ∀ found, callee = some found → found.Shows visibility) :
    comparison.Holds (Callee.Shows visibility) (Script.requireCallee source callee)
      (Script.requireCallee source callee) := by
  cases callee with
  | none => exact comparison.ofExcept yieldsError
  | some callee => exact comparison.pure (shows callee rfl)

theorem invoke (hosts : comparison.OfHosts host other) {callee : Callee}
    (shows : callee.Shows visibility) (areShown : ∀ argument ∈ arguments, visibility.Shows argument) :
    comparison.Holds visibility.Shows (Script.invoke host callee arguments)
      (Script.invoke other callee arguments) := by
  cases callee with
  | callable callable => exact hosts.apply callable areShown
  | method receiver name =>
      refine comparison.bind (comparison.fault fun left right alike =>
        methodAgrees alike shows name areShown) fun result showsResult => ?_
      cases result with
      | value value => exact comparison.pure showsResult
      | list items => exact comparison.newList showsResult

/-- The induction follows the evaluation; lists of expressions go along with expressions. -/
theorem evaluate (hosts : comparison.OfHosts host other) :
    (∀ expression, comparison.Holds visibility.Shows (Script.evaluate host expression)
      (Script.evaluate other expression)) ∧
      ∀ expressions, comparison.Holds (fun values => ∀ value ∈ values, visibility.Shows value)
        (Script.evaluateAll host expressions) (Script.evaluateAll other expressions) := by
  refine evaluate.mutual_induct _ _ ?literal ?name ?this ?array ?member ?memberCall ?call ?unary
    ?binary ?logical ?conditional ?assignName ?assignMember ?nil ?cons
  case literal =>
    intro literal
    have shows : visibility.Shows literal.value := by cases literal <;> trivial
    exact comparison.pure shows
  case name => exact comparison.lookup
  case this =>
    simp only [Script.evaluate]
    exact comparison.bind comparison.self fun _ isVisible => comparison.pure isVisible
  case array =>
    intro items ofItems
    simp only [Script.evaluate]
    exact comparison.bind ofItems fun _ => comparison.newList
  case member =>
    intro object key ofObject ofKey
    simp only [Script.evaluate]
    exact comparison.bind ofObject fun _ showsObject =>
      comparison.bind ofKey fun _ => hosts.member showsObject
  case memberCall =>
    intro object key arguments source ofObject ofKey ofArguments
    simp only [Script.evaluate]
    exact comparison.bind ofObject fun receiver showsReceiver =>
      comparison.bind ofKey fun key showsKey =>
        comparison.bind (hosts.member showsReceiver showsKey) fun value _ =>
          comparison.bind (comparison.requireCallee source (memberCalleeShows showsReceiver key value))
            fun _ showsCallee => comparison.bind ofArguments fun _ => comparison.invoke hosts showsCallee
  case call =>
    intro callee arguments source notMember ofCallee ofArguments
    simp only [Script.evaluate]
    exact comparison.bind ofCallee fun value _ =>
      comparison.bind (comparison.requireCallee source (valueCalleeShows value)) fun _ showsCallee =>
        comparison.bind ofArguments fun _ => comparison.invoke hosts showsCallee
  case unary =>
    intro operator operand ofOperand
    simp only [Script.evaluate]
    exact comparison.bind ofOperand fun value _ => comparison.fault fun _ _ _ =>
      ⟨rfl, unaryShows operator value⟩
  case binary =>
    intro operator left right ofLeft ofRight
    simp only [Script.evaluate]
    exact comparison.bind ofLeft fun _ showsFirst => comparison.bind ofRight fun _ showsSecond =>
      comparison.fault fun _ _ alike => binaryAgrees alike operator showsFirst showsSecond
  case logical =>
    intro operator left right ofLeft ofRight
    simp only [Script.evaluate]
    refine comparison.bind ofLeft fun first shows => ?_
    split
    · exact ofRight
    · exact comparison.pure shows
  case conditional =>
    intro test consequent alternate ofTest ofConsequent ofAlternate
    simp only [Script.evaluate]
    refine comparison.bind ofTest fun value _ => ?_
    split
    · exact ofConsequent
    · exact ofAlternate
  case assignName =>
    intro name value ofValue
    simp only [Script.evaluate]
    exact comparison.bind ofValue fun _ shows =>
      comparison.bind (comparison.assign name shows) fun _ _ => comparison.pure shows
  case assignMember =>
    intro object key value ofValue ofObject ofKey
    simp only [Script.evaluate]
    exact comparison.bind ofValue fun _ shows => comparison.bind ofObject fun _ showsObject =>
      comparison.bind ofKey fun _ showsKey =>
        comparison.bind (comparison.setMember showsObject showsKey shows) fun _ _ =>
          comparison.pure shows
  case nil => exact comparison.pure (List.forall_mem_nil _)
  case cons =>
    intro first rest ofFirst ofRest
    simp only [Script.evaluateAll]
    exact comparison.bind ofFirst fun _ shows => comparison.bind ofRest fun _ areShown =>
      comparison.pure (List.forall_mem_cons.2 ⟨shows, areShown⟩)

theorem execute (hosts : comparison.OfHosts host other) (statement : Statement) :
    comparison.Holds visibility.Shows (Script.execute host statement)
      (Script.execute other statement) := by
  obtain ⟨ofExpression, -⟩ := evaluate hosts
  cases statement with
  | expression value => exact ofExpression value
  | deleteName name =>
      exact comparison.bind (comparison.delete name) fun _ _ => comparison.pure trivial
  | deleteMember object key =>
      exact comparison.bind (ofExpression object) fun _ showsObject =>
        comparison.bind (ofExpression key) fun _ showsKey =>
          comparison.bind (comparison.deleteMember showsObject showsKey) fun _ _ =>
            comparison.pure trivial

theorem executeAll (hosts : comparison.OfHosts host other) (result : Value)
    (shows : visibility.Shows result) (program : Program) :
    comparison.Holds visibility.Shows (Script.executeAll host result program)
      (Script.executeAll other result program) := by
  induction program generalizing result with
  | nil => exact comparison.pure shows
  | cons statement rest inductionHypothesis =>
      exact comparison.bind (execute hosts statement) inductionHypothesis

theorem runSource (hosts : comparison.OfHosts host other) (source : String) :
    comparison.Holds visibility.Shows (Script.runSource host source)
      (Script.runSource other source) :=
  comparison.bind (comparison.ofExcept yieldsTrue) fun program _ =>
    executeAll hosts .null trivial program

end

end Comparison

end Letterpress.Script
