import Letterpress.Bracket.Path
import Letterpress.Proofs.Script.MemberPath
import Letterpress.Proofs.Script.Reading

/-!
This file shows which root expressions can be read, and what they read. A body that holds a bare
name which is no name of the language, or that begins with the keyword of a statement, spoils its
expression.
-/

open Letterpress.Script

namespace Letterpress.Bracket

/-! ### Paths -/

/-- A segment stands bare if it is an identifier. -/
def segmentStep (segment : String) : PathStep :=
  if Text.isIdentifierSegment segment then .bare segment else .quoted segment

/-- The whole body is one member of the scope. -/
def wholePath (body : String) : MemberPath := ⟨"this", [.quoted body]⟩

/-- Each segment is a step, and a blank one spoils them all. -/
def pathSteps? : List (List Char) → Option (List PathStep)
  | [] => some []
  | segment :: rest =>
      let trimmed := String.ofList (Text.stripList segment)
      if trimmed = "" then none else (pathSteps? rest).map (segmentStep trimmed :: ·)

/-- This is the path that the root expression of a body spells. -/
def rootPath (body : String) : MemberPath :=
  match Text.splitWhere (· = '.') body.toList with
  | head :: second :: rest =>
      if Text.isIdentifierSegment (String.ofList head) then
        ((pathSteps? (second :: rest)).map (MemberPath.mk (String.ofList head))).getD
          (wholePath body)
      else wholePath body
  | _ => if Text.isIdentifierSegment body then ⟨body, []⟩ else wholePath body

theorem segmentAccessText (segment : String) :
    (segmentAccess segment).toList = Word.joined (segmentStep segment).words := by
  unfold segmentAccess segmentStep
  split
  · simp [Word.joined, PathStep.words, Word.symbol, Word.name]
  · simp [Word.joined, PathStep.words, Word.symbol]

theorem wholeFieldText (body : String) : wholeField body = (wholePath body).text := by
  rw [← String.toList_inj, MemberPath.text, String.toList_ofList]
  simp [wholeField, wholePath, Word.joined, MemberPath.words, PathStep.words, Word.symbol,
    Word.name]

/-- A path grows by the words of its steps. -/
theorem pathFromText (expression : String) (segments : List (List Char)) :
    (pathFrom expression segments).map String.toList = (pathSteps? segments).map fun steps =>
      expression.toList ++ Word.joined (steps.flatMap PathStep.words) := by
  induction segments generalizing expression with
  | nil => simp [pathFrom, pathSteps?, Word.joined]
  | cons segment rest inductionHypothesis =>
      simp only [pathFrom, pathSteps?]
      split
      · rfl
      · rw [inductionHypothesis, Option.map_map]
        congr 1
        funext steps
        simp [Word.joined, String.toList_append, segmentAccessText]

/-- The root expression spells its path. -/
theorem rootExpressionText {body : String} (notEmpty : body ≠ "") :
    toRootExpression body = (rootPath body).text := by
  have plain : (if Text.isIdentifierSegment body then body else wholeField body) =
      (if Text.isIdentifierSegment body then MemberPath.mk body []
        else wholePath body).text := by
    split
    · rw [MemberPath.text, ← String.toList_inj, String.toList_ofList]
      simp [MemberPath.words, Word.joined, Word.name]
    · exact wholeFieldText body
  rw [toRootExpression, if_neg notEmpty, rootPath]
  cases Text.splitWhere (· = '.') body.toList with
  | nil => exact plain
  | cons head rest =>
      cases rest with
      | nil => exact plain
      | cons second rest =>
          simp only
          split
          case isFalse => exact wholeFieldText body
          case isTrue =>
            have same := pathFromText (String.ofList head) (second :: rest)
            cases found : pathSteps? (second :: rest) with
            | none =>
                rw [found, Option.map_none, Option.map_eq_none_iff] at same
                rw [same]
                exact wholeFieldText body
            | some steps =>
                rw [found, Option.map_some, Option.map_eq_some_iff] at same
                obtain ⟨path, isPath, isText⟩ := same
                rw [isPath]
                exact String.toList_inj.1 (isText.trans String.toList_ofList.symm)

theorem segmentStepIsSegment (segment : String) : (segmentStep segment).isSegment = true := by
  unfold segmentStep
  split
  case isTrue isSegment => exact isSegment
  case isFalse => rfl

theorem pathStepsAreSegments {segments : List (List Char)} {steps : List PathStep}
    (found : pathSteps? segments = some steps) : steps.all PathStep.isSegment = true := by
  induction segments generalizing steps with
  | nil =>
      obtain rfl := Option.some.inj found
      rfl
  | cons segment rest inductionHypothesis =>
      simp only [pathSteps?] at found
      split at found
      · exact nomatch found
      · obtain ⟨others, foundOthers, rfl⟩ := Option.map_eq_some_iff.1 found
        rw [List.all_cons, segmentStepIsSegment, inductionHypothesis foundOthers, Bool.and_true]

theorem wholePathSegmented (body : String) : (wholePath body).isSegmented = true :=
  Bool.and_eq_true_iff.2 ⟨(by decide : Text.isIdentifierSegment "this" = true), rfl⟩

/-- Every bare name of a root expression is a segment. -/
theorem rootPathSegmented (body : String) : (rootPath body).isSegmented = true := by
  have plain : (if Text.isIdentifierSegment body then MemberPath.mk body []
      else wholePath body).isSegmented = true := by
    split
    case isTrue isSegment => exact Bool.and_eq_true_iff.2 ⟨isSegment, rfl⟩
    case isFalse => exact wholePathSegmented body
  rw [rootPath]
  cases Text.splitWhere (· = '.') body.toList with
  | nil => exact plain
  | cons head rest =>
      cases rest with
      | nil => exact plain
      | cons second rest =>
          simp only
          split
          case isFalse => exact wholePathSegmented body
          case isTrue isSegment =>
            cases found : pathSteps? (second :: rest) with
            | none => exact wholePathSegmented body
            | some steps => exact Bool.and_eq_true_iff.2 ⟨isSegment, pathStepsAreSegments found⟩

/-! ### Reading -/

/-- These names stand for other values than those of the scope. -/
def literalNames : List String := ["true", "false", "null", "undefined", "this"]

theorem nameOutsideLiterals {itemName : String} (isOutside : itemName ∉ literalNames) :
    Parser.nameExpression itemName = .name itemName := by
  simp only [literalNames, List.mem_cons, List.not_mem_nil, or_false, not_or] at isOutside
  unfold Parser.nameExpression
  split
  all_goals simp_all

/-- Without a point the body is a bare name, or it is quoted as a whole. -/
theorem rootPathPlain {body : String} (noPoint : '.' ∉ body.toList) :
    rootPath body = if Text.isIdentifierSegment body then ⟨body, []⟩ else wholePath body := by
  obtain ⟨first, pieces, splits, whole, -, -⟩ := Text.splitWhereSource '.' body.toList
  cases pieces with
  | nil => rw [rootPath, splits]
  | cons piece pieces =>
      rw [whole] at noPoint
      exact absurd (by simp) noPoint

/-- A token for a value at the root compiles to a single expression exactly if its path is readable.
The expression of a body without a point then reads the value of that name, unless the name belongs
to a helper or stands for another value. -/
theorem rootExpressionReads (body : String) (notEmpty : body ≠ "") :
    ((∃ value, parse (toRootExpression body) = .ok [.expression value]) ↔
      (rootPath body).isReadable = true) ∧
      ∀ (host : Host) (helpers : Helpers) (isOpen : Bool) (heap : Heap) (values : Table Value)
        (shared : Scope) (value : Value),
        (rootPath body).isReadable = true → '.' ∉ body.toList → body ∉ literalNames →
        helpers.get? body = none → values.get? body = some value →
          (runProtected host helpers isOpen (toRootExpression body)
            (Machine.start heap values shared)).1 = .ok value := by
  rw [rootExpressionText notEmpty]
  refine ⟨pathIsReadIff (rootPathSegmented body), ?_⟩
  intro host helpers isOpen heap values shared value readable noPoint isOutside notHelper isValue
  have isPlaced := Machine.startIsPlaced heap values shared
  have found : (Machine.start heap values shared).scope.lookup? body = some value := by
    rw [Machine.scopeOfStart]
    exact isValue
  rw [runExpression (pathIsRead readable), rootPathPlain noPoint]
  split
  case isTrue =>
    have isName : (MemberPath.mk body []).expression = .name body := nameOutsideLiterals isOutside
    rw [isName, evaluateName (Machine.lookupPrepared isPlaced notHelper found)]
  case isFalse =>
    have isMember : (wholePath body).expression = .member .this (.literal (.text body)) := rfl
    rw [isMember, evaluateOwn, Machine.scopeOfPrepare isPlaced, (Scope.otherEnsure _ notHelper).2,
      Machine.scopeOfStart, isValue, Option.getD_some]

/-- A name with a blank is quoted, so that its expression reads the value. -/
theorem spacedNameIsRead :
    let values := Table.empty.insert "total net" (.int 7)
    (rootPath "total net").isReadable = true ∧
      (∃ value, parse (toRootExpression "total net") = .ok [.expression value]) ∧
      (runProtected Host.standard Helpers.standard false (toRootExpression "total net")
        (Machine.start Heap.empty values Scope.empty)).1 = .ok (.int 7) := by
  intro values
  have isReadable : (rootPath "total net").isReadable = true := by decide
  have reads := rootExpressionReads "total net" (by decide)
  refine ⟨isReadable, reads.1.2 isReadable, ?_⟩
  exact reads.2 Host.standard Helpers.standard false Heap.empty values Scope.empty (.int 7)
    isReadable (by decide) (by decide) rfl rfl

/-- A letter with a combining accent belongs to identifiers but to no name, so that its expression
cannot be read. -/
theorem combiningAccentIsRefused :
    Text.strip "e\u0301" = "e\u0301" ∧
      ¬ ∃ value, parse (toRootExpression "e\u0301") = .ok [.expression value] := by
  refine ⟨by decide, ?_⟩
  rintro ⟨value, reads⟩
  have refused : (parse (toRootExpression "e\u0301")).toOption = none := by decide +kernel
  rw [reads] at refused
  exact nomatch refused

end Letterpress.Bracket
