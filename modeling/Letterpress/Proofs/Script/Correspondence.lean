import Letterpress.Script.Evaluation

/-!
This file compares two ways of running scripts. If their single operations are related and
sequencing keeps relations, then every script is related to itself.
-/

namespace Letterpress.Script

/-- A correspondence relates the computations of two ways of running scripts. -/
structure Correspondence (M N : Type → Type) [Scripting M] [Scripting N] where
  Related : {Result : Type} → M Result → N Result → Prop
  pure {Result : Type} (result : Result) : Related (Pure.pure result) (Pure.pure result)
  bind {First Second : Type} {left : M First} {right : N First} {leftNext : First → M Second}
    {rightNext : First → N Second} :
    Related left right → (∀ result, Related (leftNext result) (rightNext result)) →
      Related (left >>= leftNext) (right >>= rightNext)
  query {Result : Type} (read : Heap → Except Failure Result) :
    Related (Scripting.query read) (Scripting.query read)
  self : Related Scripting.self Scripting.self
  lookup (name : String) : Related (Scripting.lookup name) (Scripting.lookup name)
  assign (name : String) (value : Value) :
    Related (Scripting.assign name value) (Scripting.assign name value)
  delete (name : String) : Related (Scripting.delete name) (Scripting.delete name)
  newList (items : List Value) : Related (Scripting.newList items) (Scripting.newList items)
  setMember (object key value : Value) :
    Related (Scripting.setMember object key value) (Scripting.setMember object key value)
  deleteMember (object key : Value) :
    Related (Scripting.deleteMember object key) (Scripting.deleteMember object key)

namespace Correspondence

variable {M N : Type → Type} [Scripting M] [Scripting N] (relation : Correspondence M N)

theorem relatedOfExcept {Result : Type} (result : Except Failure Result) :
    relation.Related (Scripting.ofExcept result) (Scripting.ofExcept result) :=
  relation.query _

theorem relatedRequireCallee (source : String) (callee : Option Callee) :
    relation.Related (requireCallee source callee) (requireCallee source callee) := by
  cases callee with
  | none => exact relation.relatedOfExcept _
  | some callee => exact relation.pure callee

theorem relatedInvoke (host : Host) (callee : Callee) (arguments : List Value) :
    relation.Related (invoke host callee arguments) (invoke host callee arguments) := by
  cases callee with
  | callable callable => exact relation.query _
  | method receiver name =>
      refine relation.bind (relation.query _) fun result => ?_
      cases result with
      | value value => exact relation.pure value
      | list items => exact relation.newList items

/-- The induction follows the evaluation; lists of expressions go along with expressions. -/
theorem relatedEvaluateAll (host : Host) :
    (∀ expression, relation.Related (evaluate host expression) (evaluate host expression)) ∧
      ∀ expressions,
        relation.Related (evaluateAll host expressions) (evaluateAll host expressions) := by
  refine evaluate.mutual_induct _ _ ?literal ?name ?this ?array ?member ?memberCall ?call ?unary
    ?binary ?logical ?conditional ?assignName ?assignMember ?nil ?cons
  case literal =>
    intro literal
    exact relation.pure literal.value
  case name =>
    intro name
    exact relation.lookup name
  case this =>
    simp only [evaluate]
    exact relation.bind relation.self fun _ => relation.pure _
  case array =>
    intro items relatedItems
    simp only [evaluate]
    exact relation.bind relatedItems fun _ => relation.newList _
  case member =>
    intro object key relatedObject relatedKey
    simp only [evaluate]
    exact relation.bind relatedObject fun _ => relation.bind relatedKey fun _ => relation.query _
  case memberCall =>
    intro object key arguments source relatedObject relatedKey relatedArguments
    simp only [evaluate]
    exact relation.bind relatedObject fun _ => relation.bind relatedKey fun _ =>
      relation.bind (relation.query _) fun _ =>
        relation.bind (relation.relatedRequireCallee _ _) fun _ =>
          relation.bind relatedArguments fun _ => relation.relatedInvoke _ _ _
  case call =>
    intro callee arguments source notMember relatedCallee relatedArguments
    simp only [evaluate]
    exact relation.bind relatedCallee fun _ =>
      relation.bind (relation.relatedRequireCallee _ _) fun _ =>
        relation.bind relatedArguments fun _ => relation.relatedInvoke _ _ _
  case unary =>
    intro operator operand relatedOperand
    simp only [evaluate]
    exact relation.bind relatedOperand fun _ => relation.relatedOfExcept _
  case binary =>
    intro operator left right relatedLeft relatedRight
    simp only [evaluate]
    exact relation.bind relatedLeft fun _ => relation.bind relatedRight fun _ => relation.query _
  case logical =>
    intro operator left right relatedLeft relatedRight
    simp only [evaluate]
    refine relation.bind relatedLeft fun first => ?_
    split
    · exact relatedRight
    · exact relation.pure first
  case conditional =>
    intro test consequent alternate relatedTest relatedConsequent relatedAlternate
    simp only [evaluate]
    refine relation.bind relatedTest fun value => ?_
    split
    · exact relatedConsequent
    · exact relatedAlternate
  case assignName =>
    intro name value relatedValue
    simp only [evaluate]
    exact relation.bind relatedValue fun _ =>
      relation.bind (relation.assign _ _) fun _ => relation.pure _
  case assignMember =>
    intro object key value relatedValue relatedObject relatedKey
    simp only [evaluate]
    exact relation.bind relatedValue fun _ => relation.bind relatedObject fun _ =>
      relation.bind relatedKey fun _ => relation.bind (relation.setMember _ _ _) fun _ =>
        relation.pure _
  case nil =>
    exact relation.pure []
  case cons =>
    intro first rest relatedFirst relatedRest
    simp only [evaluateAll]
    exact relation.bind relatedFirst fun _ => relation.bind relatedRest fun _ => relation.pure _

theorem relatedEvaluate (host : Host) (expression : Expression) :
    relation.Related (evaluate host expression) (evaluate host expression) :=
  (relation.relatedEvaluateAll host).1 expression

theorem relatedExecute (host : Host) (statement : Statement) :
    relation.Related (execute host statement) (execute host statement) := by
  cases statement with
  | expression value => exact relation.relatedEvaluate host value
  | deleteName name => exact relation.bind (relation.delete name) fun _ => relation.pure _
  | deleteMember object key =>
      exact relation.bind (relation.relatedEvaluate host object) fun _ =>
        relation.bind (relation.relatedEvaluate host key) fun _ =>
          relation.bind (relation.deleteMember _ _) fun _ => relation.pure _

theorem relatedExecuteAll (host : Host) (result : Value) (program : Program) :
    relation.Related (executeAll host result program) (executeAll host result program) := by
  induction program generalizing result with
  | nil => exact relation.pure result
  | cons first rest inductionHypothesis =>
      exact relation.bind (relation.relatedExecute host first) inductionHypothesis

/-- Whatever a source does, it does alike in both ways of running it. -/
theorem relatedRunSource (host : Host) (source : String) :
    relation.Related (runSource host source) (runSource host source) :=
  relation.bind (relation.relatedOfExcept _) fun program =>
    relation.relatedExecuteAll host .null program

end Correspondence

end Letterpress.Script
