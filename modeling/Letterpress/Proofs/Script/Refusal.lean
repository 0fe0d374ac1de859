import Letterpress.Proofs.Script.RoundTrip

/-!
This file tells how the source of a script is refused. A problem of the source is a problem of its
syntax, and an operand that follows a complete statement is such a problem.
-/

open Letterpress.Script.Parser Letterpress.Script.Expression

namespace Letterpress.Script

/-! ### Problems of the source -/

theorem cutProblem {source : String} {cut : List Token} {fuel position : Nat}
    {characters : List Char} {problem : Problem}
    (refused : Token.cutFrom source cut fuel position characters = .error problem) :
    problem.kind = .command := by
  induction fuel generalizing cut position characters with
  | zero => exact nomatch refused
  | succ fuel inductionHypothesis =>
      cases characters with
      | nil => exact nomatch refused
      | cons character rest =>
          rw [Token.cutFrom] at refused
          split at refused
          case isTrue => exact inductionHypothesis refused
          case isFalse =>
            split at refused
            case h_1 =>
              obtain rfl := Except.error.inj refused
              rfl
            case h_2 => exact inductionHypothesis refused

/-- A source that is refused with a problem has a problem of syntax. -/
theorem parseProblem {source : String} {problem : Problem}
    (refused : parse source = .error (.problem problem)) : problem.kind = .command := by
  unfold parse parseTo at refused
  split at refused
  case h_1 found cutRefused =>
    obtain rfl := Failure.problem.inj (Except.error.inj refused)
    exact cutProblem cutRefused
  case h_2 tokens _ =>
    dsimp only at refused
    cases read : Parser.statementsFrom (Parser.nestedTo (sliceOf source) maximalDepth) []
      tokens.length tokens with
    | ok program =>
        rw [read] at refused
        exact nomatch refused
    | error refusal =>
        rw [read] at refused
        have isFailure : refusal.failure source = .problem problem := Except.error.inj refused
        cases refusal with
        | unexpected expectation found =>
            obtain rfl := Failure.problem.inj isFailure
            rfl
        | fault => exact nomatch isFailure

/-! ### Operands without an operator -/

theorem keepsFewer {token : Token} {cut tokens : List Token}
    (keeps : (token :: cut).reverse <+: tokens) : cut.reverse <+: tokens := by
  rw [List.reverse_cons] at keeps
  exact (List.prefix_append ..).trans keeps

/-- The tokens that are cut already stay in front. -/
theorem cutKeeps {source : String} {cut tokens : List Token} {fuel position : Nat}
    {characters : List Char} (isCut : Token.cutFrom source cut fuel position characters = .ok tokens) :
    cut.reverse <+: tokens := by
  induction fuel generalizing cut position characters with
  | zero =>
      obtain rfl := Except.ok.inj isCut
      exact keepsFewer List.prefix_rfl
  | succ fuel inductionHypothesis =>
      cases characters with
      | nil =>
          obtain rfl := Except.ok.inj isCut
          exact keepsFewer List.prefix_rfl
      | cons character rest =>
          rw [Token.cutFrom] at isCut
          split at isCut
          case isTrue => exact inductionHypothesis isCut
          case isFalse =>
            split at isCut
            case h_1 => contradiction
            case h_2 => exact keepsFewer (inductionHypothesis isCut)

/-- The token of an operand begins with a character of a name. -/
structure IsOperand (token : Token) : Prop where
  kind : token.kind = .number ∨ token.kind = .name
  begins : ∃ first more, token.text.toList = first :: more ∧ Token.isNameContinue first = true

/-- A character of a name begins an operand. -/
theorem operandStarts {first : Char} (rest : List Char) (isInName : Token.isNameContinue first = true) :
    ∃ kind length, Token.start? (first :: rest) = some (kind, length + 1) ∧
      (kind = .number ∨ kind = .name) := by
  by_cases isDigit : Text.isDecimal first = true
  · obtain ⟨length, isLength⟩ : ∃ length, Token.numberLength (first :: rest) = length + 1 := by
      refine Nat.exists_eq_succ_of_ne_zero ?_
      simp only [Token.numberLength, List.takeWhile_cons_of_pos isDigit]
      split <;> simp
    exact ⟨.number, length, startOfNumber isLength (Nat.succ_ne_zero _), .inl rfl⟩
  · have starts : Token.isNameStart first = true := by
      simpa [Token.isNameStart, Token.isNameContinue, isDigit] using isInName
    obtain ⟨-, notDigit, notPoint, notDouble, notSingle⟩ := nameStartApart starts
    have isLength : Token.nameLength (first :: rest) =
        (rest.takeWhile Token.isNameContinue).length + 1 := by
      rw [Token.nameLength, if_pos starts, Nat.add_comm]
    exact ⟨.name, _, startOfName (noNumberLength notDigit notPoint) (noTextLength notDouble notSingle)
      isLength (Nat.succ_ne_zero _), .inr rfl⟩

theorem nameContinueNotBlank {character : Char} (isInName : Token.isNameContinue character = true) :
    Text.isBlank character = false := by
  obtain isDollar | isWord := Bool.or_eq_true_iff.1 isInName
  · obtain rfl := of_decide_eq_true isDollar
    decide
  · exact Text.wordNotBlank isWord

/-- No symbol that goes on with a statement or ends it is an operand. -/
theorem IsOperand.apart {token : Token} (isOperand : IsOperand token) {symbol : String}
    (isContinuing : symbol ∈ ";" :: (List.range (boundary assignmentRank)).flatMap continuing) :
    isWordSymbol token.word symbol = false := by
  have allApart : ∀ symbol ∈ ";" :: (List.range (boundary assignmentRank)).flatMap continuing,
      symbol.toList.all (! Token.isNameContinue ·) = true := by decide
  obtain ⟨first, more, isText, isInName⟩ := isOperand.begins
  have differs : token.text ≠ symbol := by
    intro same
    have notInName := List.all_eq_true.1 (allApart symbol isContinuing) first
      (by simp [← same, isText])
    simp [isInName] at notInName
  simp [isWordSymbol, Token.word, differs]

/-- After a statement an operand is refused, for it needs an operator. -/
theorem operandIsRefused {depth : Nat} {target : Statement} (slice : Nat → Nat → String)
    (printable : target.IsPrintable) (enough : 2 * target.height < depth) {tokens : List Token}
    (spelled : tokens.map Token.word = target.words) {operand : Token} (isOperand : IsOperand operand)
    (rest : List Token) (read : Program) (fuel : Nat) :
    statementsFrom (nestedTo slice depth) read (fuel + 1) (tokens ++ operand :: rest) =
      .error (.unexpected (.symbol ";") operand) := by
  have follows : Follows assignmentRank (operand :: rest) :=
    followsWord rfl fun other isBelow symbol isInside =>
      isOperand.apart (List.mem_cons_of_mem _ (List.mem_flatMap.2
        ⟨other, List.mem_range.2 isBelow, isInside⟩))
  have notFinish : operand.word.kind ≠ .finish := by
    rcases isOperand.kind with isNumber | isName <;> simp [Token.word, *]
  obtain ⟨parsed, -, reads⟩ :=
    statementsFromStatement slice printable enough spelled follows read fuel
  rw [reads, continues notFinish, if_neg nofun, expect, acceptWord rfl,
    isOperand.apart (List.mem_cons_self ..)]
  rfl

/-- These are the tokens of `END-FOR`. -/
def endOfLoop : List Token := [⟨.name, "END", 0⟩, ⟨.operator, "-", 3⟩, ⟨.name, "FOR", 4⟩]

/-- The end of a loop is cut into its own tokens first, and then comes an operand. -/
theorem endOfLoopCut {body : String} {first : Char} {tokens : List Token}
    (begins : body.toList.head? = some first) (isInName : Token.isNameContinue first = true)
    (isCut : tokenize ("END-FOR " ++ body) = .ok tokens) :
    ∃ operand rest, tokens = endOfLoop ++ operand :: rest ∧ IsOperand operand := by
  obtain ⟨others, characters⟩ := List.head?_eq_some_iff.1 begins
  obtain ⟨kind, length, starts, isKind⟩ := operandStarts others isInName
  have isSource : ("END-FOR " ++ body).toList = "END-FOR ".toList ++ first :: others := by
    simp [characters]
  have cutLater : Token.cutFrom ("END-FOR " ++ body) endOfLoop.reverse (others.length + 5) 8
      (first :: others) = .ok tokens := by
    rw [← isCut, tokenize, isSource]
    rfl
  rw [Token.cutFrom, if_neg (by simp [nameContinueNotBlank isInName]), starts] at cutLater
  obtain ⟨rest, rfl⟩ := cutKeeps cutLater
  refine ⟨⟨kind, String.ofList ((first :: others).take (length + 1)), 8⟩, rest, ?_, isKind, first,
    others.take length, String.toList_ofList, isInName⟩
  simp only [List.reverse_cons, List.reverse_reverse, List.append_assoc, List.singleton_append]

/-- The end of a loop is a complete statement, which no operand goes on with. -/
theorem endOfLoopIsRefused {body : String} {first : Char} (begins : body.toList.head? = some first)
    (isInName : Token.isNameContinue first = true) :
    ∃ problem, parse ("END-FOR " ++ body) = .error (.problem problem) := by
  unfold parse parseTo
  cases isCut : tokenize ("END-FOR " ++ body) with
  | error problem => exact ⟨problem, rfl⟩
  | ok tokens =>
      obtain ⟨operand, rest, rfl, isOperand⟩ := endOfLoopCut begins isInName isCut
      have printable : (Statement.expression (.binary .subtract (.name "END") (.name "FOR"))).IsPrintable :=
        .binary (.name (by decide)) (.name (by decide))
      have isLength : (endOfLoop ++ operand :: rest).length = (endOfLoop ++ rest).length + 1 := rfl
      dsimp only
      rw [isLength, operandIsRefused _ printable (by decide) (by decide) isOperand]
      exact ⟨_, rfl⟩

end Letterpress.Script
