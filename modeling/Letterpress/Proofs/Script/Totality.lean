import Letterpress.Proofs.Script.Settling
import Letterpress.Proofs.Script.Tree

/-!
This file shows that every source is read or refused. Each reader of the grammar settles on every
stream of tokens, since it passes a token before it nests or goes on.
-/

open Letterpress.Script.Parser

namespace Letterpress.Script

variable {limit bound : Nat} {slice : Nat → Nat → String} {tokens rest : List Token} {Result : Type}

/-! ### The readers -/

/-- A reader for each depth settles on the streams up to a length. -/
def ReaderSettles (limit bound size : Nat) (reader : Nat → TokenReader Result) : Prop :=
  ∀ ⦃tokens⦄, IsStream limit tokens → tokens.length ≤ size → Settles limit bound tokens fun setting =>
    reader setting.depth (tokens ++ setting.behind)

/-- The readers of nested expressions settle on the streams up to a length. -/
structure NestedSettle (limit bound : Nat) (slice : Nat → Nat → String) : Prop where
  assignment : ReaderSettles limit bound bound fun depth => (nestedTo slice depth).assignment
  unary : ReaderSettles limit bound bound fun depth => (nestedTo slice depth).unary

/-- Fuel for a token is fuel for a step, and what is left of it is enough after a token is passed. -/
theorem fuelForStep {fuel : Setting → Nat} (isStream : IsStream limit tokens)
    (enough : ∀ setting, tokens.length ≤ fuel setting) :
    ∃ less : Setting → Nat, (fuel = fun setting => less setting + 1) ∧
      ∀ count < tokens.length, ∀ setting, count ≤ less setting := by
  have positive : 0 < tokens.length := by cases isStream <;> exact Nat.succ_pos _
  refine ⟨fun setting => fuel setting - 1, ?_, fun count isShorter setting => ?_⟩
  · funext setting
    exact (Nat.sub_add_cancel (positive.trans_le (enough setting))).symm
  · exact Nat.le_sub_one_of_lt (isShorter.trans_le (enough setting))

section

variable (nested : NestedSettle limit bound slice)

include nested

theorem itemsFromSettle (closing : String) (read : List Expression) {fuel : Setting → Nat}
    (isStream : IsStream limit tokens) (fits : tokens.length ≤ bound)
    (enough : ∀ setting, tokens.length ≤ fuel setting) :
    Settles limit bound tokens fun setting =>
      itemsFrom (nestedTo slice setting.depth) closing read (fuel setting)
        (tokens ++ setting.behind) := by
  induction size : tokens.length using Nat.strong_induction_on generalizing tokens read fuel with
  | _ size inductionHypothesis =>
      obtain ⟨less, rfl, isLess⟩ := fuelForStep isStream enough
      simp only [itemsFrom]
      refine (nested.assignment isStream fits).bind fun item rest leaves => ?_
      simp only [acceptBehind leaves.isStream]
      cases accepted : accept? closing rest with
      | some after => exact .ofRead (acceptPasses leaves.isStream accepted).toLeaves
      | none =>
          -- The comma is a token that is passed for every unit of fuel.
          refine .expect leaves.isStream "," fun after passes => ?_
          have isShorter := passes.isShorter.trans_le leaves.notLonger
          exact inductionHypothesis _ (size ▸ isShorter) _ passes.isStream
            (isShorter.le.trans fits) (isLess _ isShorter) rfl

theorem itemsSettle (closing : String) :
    ReaderSettles limit bound bound fun depth => items (nestedTo slice depth) closing := by
  intro tokens isStream fits
  simp only [items, acceptBehind isStream]
  cases accepted : accept? closing tokens with
  | some after => exact .ofRead (acceptPasses isStream accepted).toLeaves
  | none =>
      refine itemsFromSettle nested closing [] isStream fits fun setting => ?_
      exact (List.prefix_append ..).length_le

omit nested in
theorem numberSettles (isStream : IsStream limit tokens) (isNumber : (current tokens).kind = .number) :
    Settles limit bound tokens fun setting => do
      return (← numberLiteral (current tokens).text, tokens.tail ++ setting.behind) := by
  have passes := tailPasses isStream (by simp [isNumber])
  have isInside : (current tokens).IsInside limit := by
    cases isStream with
    | finish => exact nomatch isNumber
    | token isInside => exact isInside
  obtain ⟨expression, isValue⟩ | ⟨isTooLong, noValue⟩ := isInside.hasValue isNumber
  · simp only [isValue]
    exact .ofRead passes.toLeaves
  · simp only [noValue]
    exact .refuses (.tooLong (currentInside isStream) isNumber isTooLong) (.refl _)

theorem primarySettles :
    ReaderSettles limit bound (bound + 1) fun depth => primary (nestedTo slice depth) := by
  intro tokens isStream fits
  simp only [primary, currentBehind isStream, tailBehind isStream, acceptBehind isStream]
  cases isKind : (current tokens).kind
  case number => exact numberSettles isStream isKind
  case text => exact .ofRead (tailPasses isStream (by simp [isKind])).toLeaves
  case name => exact .ofRead (tailPasses isStream (by simp [isKind])).toLeaves
  all_goals
    cases isOpened : accept? "(" tokens with
    | some inside =>
        have passes := acceptPasses isStream isOpened
        refine passes.settles fits fun fitsInside => ?_
        refine (nested.assignment passes.isStream fitsInside).bind fun expression rest leaves => ?_
        exact .expect leaves.isStream ")" fun after passes => .ofRead passes.isStream.leaves
    | none =>
        cases isBracket : accept? "[" tokens with
        | some inside =>
            have passes := acceptPasses isStream isBracket
            refine passes.settles fits fun fitsInside => ?_
            refine (itemsSettle nested "]" passes.isStream fitsInside).bind fun elements rest leaves => ?_
            dsimp only
            exact .ofRead leaves.isStream.leaves
        | none => exact .ofRefuse isStream .operand

theorem suffixesSettle (start : Nat) (expression : Expression) {fuel : Setting → Nat}
    (isStream : IsStream limit tokens) (fits : tokens.length ≤ bound + 1)
    (enough : ∀ setting, tokens.length ≤ fuel setting) :
    Settles limit bound tokens fun setting =>
      suffixes (nestedTo slice setting.depth) slice start (fuel setting) expression
        (tokens ++ setting.behind) := by
  induction size : tokens.length using Nat.strong_induction_on generalizing tokens expression fuel with
  | _ size inductionHypothesis =>
      obtain ⟨less, rfl, isLess⟩ := fuelForStep isStream enough
      -- Each suffix begins with a token of its own, so the tokens left shrink with the fuel.
      have goesOn {rest : List Token} (expression : Expression) (passes : Passes limit tokens rest) :
          Settles limit bound rest fun setting =>
            suffixes (nestedTo slice setting.depth) slice start (less setting) expression
              (rest ++ setting.behind) :=
        inductionHypothesis _ (size ▸ passes.isShorter) _ passes.isStream
          (passes.isShorter.le.trans fits) (isLess _ passes.isShorter) rfl
      simp only [suffixes, acceptBehind isStream, currentBehind isStream]
      cases isPoint : accept? "." tokens with
      | some afterDot =>
          have passes := acceptPasses isStream isPoint
          refine Settles.later ?_ passes.isSuffix
          simp only [Option.map_some, currentBehind passes.isStream, tailBehind passes.isStream]
          split
          case isTrue isName =>
            have passesName := tailPasses passes.isStream (by simp [isName])
            exact (goesOn _ (passes.trans passesName.toLeaves)).later passesName.isSuffix
          case isFalse => exact .ofRefuse passes.isStream .propertyName
      | none =>
          cases isBracket : accept? "[" tokens with
          | some inside =>
              have passes := acceptPasses isStream isBracket
              refine passes.settles fits fun fitsInside => ?_
              refine (nested.assignment passes.isStream fitsInside).bind fun key rest leaves => ?_
              refine .expect leaves.isStream "]" fun after passesEnd => ?_
              exact goesOn (.member expression key) ((passes.trans leaves).trans passesEnd.toLeaves)
          | none =>
              cases isCall : accept? "(" tokens with
              | some inside =>
                  have passes := acceptPasses isStream isCall
                  refine passes.settles fits fun fitsInside => ?_
                  refine (itemsSettle nested ")" passes.isStream fitsInside).bind
                    fun arguments rest leaves => ?_
                  exact goesOn (.call expression arguments _) (passes.trans leaves)
              | none => exact .ofRead isStream.leaves

theorem suffixedSettles :
    ReaderSettles limit bound (bound + 1) fun depth => suffixed (nestedTo slice depth) slice := by
  intro tokens isStream fits
  simp only [suffixed, currentBehind isStream]
  refine (primarySettles nested isStream fits).bind fun expression rest leaves => ?_
  refine suffixesSettle nested _ expression leaves.isStream (leaves.notLonger.trans fits) fun _ => ?_
  exact (List.prefix_append ..).length_le

theorem unarySettles :
    ReaderSettles limit bound (bound + 1) fun depth => unary (nestedTo slice depth) slice := by
  intro tokens isStream fits
  simp only [unary, acceptOneBehind isStream]
  cases accepted : acceptOne? unarySymbols tokens with
  | none => exact suffixedSettles nested isStream fits
  | some found =>
      have passes := acceptOnePasses isStream accepted
      refine passes.settles fits fun fitsInside => ?_
      refine (nested.unary passes.isStream fitsInside).bind fun operand rest leaves => ?_
      dsimp only
      exact .ofRead leaves.isStream.leaves

omit nested in
theorem chainFromSettles (level : Level) {operand : Nat → TokenReader Expression}
    (settles : ReaderSettles limit bound (bound + 1) operand) (left : Expression)
    {fuel : Setting → Nat} (isStream : IsStream limit tokens) (fits : tokens.length ≤ bound + 1)
    (enough : ∀ setting, tokens.length ≤ fuel setting) :
    Settles limit bound tokens fun setting =>
      chainFrom level (operand setting.depth) (fuel setting) left (tokens ++ setting.behind) := by
  induction size : tokens.length using Nat.strong_induction_on generalizing tokens left fuel with
  | _ size inductionHypothesis =>
      obtain ⟨less, rfl, isLess⟩ := fuelForStep isStream enough
      simp only [chainFrom, acceptOneBehind isStream]
      cases accepted : acceptOne? level tokens with
      | none => exact .ofRead isStream.leaves
      | some found =>
          have passes := acceptOnePasses isStream accepted
          refine Settles.later ?_ passes.isSuffix
          refine (settles passes.isStream (passes.isShorter.le.trans fits)).bind
            fun right rest leaves => ?_
          have isShorter := leaves.notLonger.trans_lt passes.isShorter
          exact inductionHypothesis _ (size ▸ isShorter) (found.1 left right) leaves.isStream
            (isShorter.le.trans fits) (isLess _ isShorter) rfl

omit nested in
theorem chainSettles (level : Level) {operand : Nat → TokenReader Expression}
    (settles : ReaderSettles limit bound (bound + 1) operand) :
    ReaderSettles limit bound (bound + 1) fun depth => chain level (operand depth) := by
  intro tokens isStream fits
  simp only [chain]
  refine (settles isStream fits).bind fun left rest leaves => ?_
  refine chainFromSettles level settles left leaves.isStream (leaves.notLonger.trans fits) fun _ => ?_
  exact (List.prefix_append ..).length_le

omit nested in
theorem levelsSettle (levels : List Level) {operand : Nat → TokenReader Expression}
    (settles : ReaderSettles limit bound (bound + 1) operand) :
    ReaderSettles limit bound (bound + 1) fun depth =>
      levels.foldl (fun operand level => chain level operand) (operand depth) := by
  induction levels generalizing operand with
  | nil => exact settles
  | cons level rest inductionHypothesis => exact inductionHypothesis (chainSettles level settles)

theorem conditionalSettles :
    ReaderSettles limit bound (bound + 1) fun depth => conditional (nestedTo slice depth) slice := by
  intro tokens isStream fits
  simp only [conditional]
  refine (levelsSettle levels (unarySettles nested) isStream fits).bind fun test rest leaves => ?_
  simp only [acceptBehind leaves.isStream]
  cases accepted : accept? "?" rest with
  | none => exact .ofRead leaves.isStream.leaves
  | some afterMark =>
      have passes := acceptPasses leaves.isStream accepted
      refine passes.settles (leaves.notLonger.trans fits) fun fitsInside => ?_
      refine (nested.assignment passes.isStream fitsInside).bind fun consequent after leavesMark => ?_
      refine .expect leavesMark.isStream ":" fun afterColon passesColon => ?_
      have fitsColon := passesColon.notLonger.trans (leavesMark.notLonger.trans fitsInside)
      refine (nested.assignment passesColon.isStream fitsColon).bind fun alternate last leavesLast => ?_
      dsimp only
      exact .ofRead leavesLast.isStream.leaves

theorem assignmentSettles :
    ReaderSettles limit bound (bound + 1) fun depth => assignment (nestedTo slice depth) slice := by
  intro tokens isStream fits
  simp only [assignment]
  refine (conditionalSettles nested isStream fits).bind fun target rest leaves => ?_
  simp only [acceptBehind leaves.isStream]
  cases accepted : accept? "=" rest with
  | none => exact .ofRead leaves.isStream.leaves
  | some afterSign =>
      have passes := acceptPasses leaves.isStream accepted
      have settles := fun fitsInside => nested.assignment passes.isStream fitsInside
      cases target with
      | name name =>
          refine passes.settles (leaves.notLonger.trans fits) fun fitsInside => ?_
          refine (settles fitsInside).bind fun value after leavesSign => ?_
          dsimp only
          exact .ofRead leavesSign.isStream.leaves
      | member object key =>
          refine passes.settles (leaves.notLonger.trans fits) fun fitsInside => ?_
          refine (settles fitsInside).bind fun value after leavesSign => ?_
          dsimp only
          exact .ofRead leavesSign.isStream.leaves
      | _ => exact .ofRefuse leaves.isStream .assignmentTarget

end

/-- A reader of one level more needs one more of the depth. -/
theorem ReaderSettles.deepen {reader deeper : Nat → TokenReader Result}
    (settles : ReaderSettles limit bound (bound + 1) reader)
    (tooDeep : ∀ tokens, deeper 0 tokens = .error (.fault .tooDeep))
    (isDeeper : ∀ depth, deeper (depth + 1) = reader depth) :
    ReaderSettles limit (bound + 1) (bound + 1) deeper := by
  have deepens {tokens : List Token} {outcome : Setting → Except Refusal (Result × List Token)}
      (comes : ComesTo bound (fun setting => reader setting.depth (tokens ++ setting.behind)) outcome)
      (noDepth : ∀ depth other behind spare,
        outcome ⟨depth, behind, spare⟩ = outcome ⟨other, behind, spare⟩) :
      ComesTo (bound + 1) (fun setting => deeper setting.depth (tokens ++ setting.behind)) outcome := by
    obtain ⟨needed, fits, isRun⟩ := comes
    refine ⟨needed + 1, Nat.succ_le_succ fits, ?_⟩
    rintro ⟨depth, behind, spare⟩
    cases depth with
    | zero => exact (tooDeep _).trans (if_pos (Nat.succ_pos needed)).symm
    | succ depth =>
        simp only [isDeeper, isRun ⟨depth, behind, spare⟩, Nat.add_lt_add_iff_right,
          noDepth (depth + 1) depth behind spare]
  intro tokens isStream fits
  cases settles isStream fits with
  | reads leaves comes => exact .reads leaves (deepens comes fun _ _ _ _ => rfl)
  | refuses isRefusal comes => exact .refuses isRefusal (deepens comes fun _ _ _ _ => rfl)

/-- The induction is on the number of tokens that are left, since a token is passed before an
expression is nested. -/
theorem nestedSettle (limit bound : Nat) (slice : Nat → Nat → String) :
    NestedSettle limit bound slice := by
  induction bound with
  | zero =>
      have none {tokens : List Token} (isStream : IsStream limit tokens) : ¬ tokens.length ≤ 0 := by
        cases isStream <;> exact Nat.not_succ_le_zero _
      exact ⟨fun _ isStream fits => absurd fits (none isStream),
        fun _ isStream fits => absurd fits (none isStream)⟩
  | succ bound inductionHypothesis =>
      exact ⟨(assignmentSettles inductionHypothesis).deepen (fun _ => rfl) fun _ => rfl,
        (unarySettles inductionHypothesis).deepen (fun _ => rfl) fun _ => rfl⟩

/-! ### Statements -/

theorem declarationSettles :
    ReaderSettles limit bound bound fun depth => declaration (nestedTo slice depth) := by
  intro tokens isStream fits
  have nested := nestedSettle limit bound slice
  simp only [declaration, currentBehind isStream, tailBehind isStream]
  by_cases isName : (current tokens).kind = .name
  · simp only [if_pos isName]
    have passes := tailPasses isStream (by simp [isName])
    simp only [acceptBehind passes.isStream]
    cases accepted : accept? "=" tokens.tail with
    | none => exact .ofRead passes.toLeaves
    | some afterSign =>
        have passesSign := passes.trans (acceptPasses passes.isStream accepted).toLeaves
        refine passesSign.settles (fits.trans (Nat.le_succ _)) fun fitsInside => ?_
        refine (nested.assignment passesSign.isStream fitsInside).bind fun value after leaves => ?_
        dsimp only
        exact .ofRead leaves.isStream.leaves
  · simp only [if_neg isName]
    exact .ofRefuse isStream .variableName

theorem deletionSettles :
    ReaderSettles limit bound bound fun depth => deletion (nestedTo slice depth) := by
  intro tokens isStream fits
  have nested := nestedSettle limit bound slice
  simp only [deletion]
  refine (nested.unary isStream fits).bind fun target rest leaves => ?_
  cases target with
  | name name => exact .ofRead leaves.isStream.leaves
  | member object key => exact .ofRead leaves.isStream.leaves
  | _ => exact .ofRefuse leaves.isStream .deleteTarget

theorem statementSettles :
    ReaderSettles limit bound bound fun depth => statement (nestedTo slice depth) := by
  intro tokens isStream fits
  have nested := nestedSettle limit bound slice
  simp only [statement, acceptBehind isStream, acceptOneBehind isStream]
  cases isDeletion : accept? "delete" tokens with
  | some rest =>
      have passes := acceptPasses isStream isDeletion
      refine passes.settles (fits.trans (Nat.le_succ _)) fun fitsInside => ?_
      exact deletionSettles passes.isStream fitsInside
  | none =>
      cases isDeclaration : acceptOne? declarations tokens with
      | some found =>
          have passes := acceptOnePasses isStream isDeclaration
          refine passes.settles (fits.trans (Nat.le_succ _)) fun fitsInside => ?_
          exact declarationSettles passes.isStream fitsInside
      | none =>
          refine (nested.assignment isStream fits).bind fun expression rest leaves => ?_
          dsimp only
          exact .ofRead leaves.isStream.leaves

/-- A program is read or refused in all settings that are deep enough. -/
def ProgramSettles (bound : Nat) (tokens : List Token) (run : Setting → Except Refusal Program) :
    Prop :=
  ∃ outcome, (∀ refusal, outcome = .error refusal → IsRefusal tokens refusal) ∧
    ComesTo bound run fun _ => outcome

theorem ProgramSettles.comesFrom {run other : Setting → Except Refusal Program}
    (settles : ProgramSettles bound tokens other) (comes : ComesTo bound run other) :
    ProgramSettles bound tokens run :=
  let ⟨outcome, isRefusal, same⟩ := settles
  ⟨outcome, isRefusal, comes.trans same⟩

theorem ProgramSettles.ofRead (read : Program) : ProgramSettles bound tokens fun _ => .ok read :=
  ⟨.ok read, nofun, .refl _⟩

theorem ProgramSettles.ofRefusal {refusal : Refusal} (isRefusal : IsRefusal tokens refusal) :
    ProgramSettles bound tokens fun _ => .error refusal :=
  ⟨.error refusal, fun _ same => Except.error.inj same ▸ isRefusal, .refl _⟩

theorem isFinishedBehind (isStream : IsStream limit tokens) (behind : List Token) :
    isFinished (tokens ++ behind) = isFinished tokens := by
  rw [isFinished, isFinished, currentBehind isStream]

theorem statementsSettle (read : Program) {fuel : Setting → Nat} (isStream : IsStream limit tokens)
    (fits : tokens.length ≤ bound) (enough : ∀ setting, tokens.length ≤ fuel setting) :
    ProgramSettles bound tokens fun setting =>
      statementsFrom (nestedTo slice setting.depth) read (fuel setting)
        (tokens ++ setting.behind) := by
  induction size : tokens.length using Nat.strong_induction_on generalizing tokens read fuel with
  | _ size inductionHypothesis =>
      obtain ⟨less, rfl, isLess⟩ := fuelForStep isStream enough
      have goesOn {rest : List Token} (read : Program) (passes : Passes limit tokens rest) :
          ProgramSettles bound tokens fun setting =>
            statementsFrom (nestedTo slice setting.depth) read (less setting)
              (rest ++ setting.behind) := by
        obtain ⟨outcome, isRefusal, comes⟩ := inductionHypothesis _ (size ▸ passes.isShorter) read
          passes.isStream (passes.isShorter.le.trans fits) (isLess _ passes.isShorter) rfl
        exact ⟨outcome, fun refusal same => (isRefusal refusal same).later passes.isSuffix, comes⟩
      simp only [statementsFrom, isFinishedBehind isStream, acceptBehind isStream]
      split
      case isTrue => exact .ofRead read.reverse
      case isFalse =>
        cases accepted : accept? ";" tokens with
        | some rest => exact goesOn read (acceptPasses isStream accepted)
        | none =>
            simp only [Option.map_none]
            cases statementSettles isStream fits with
            | refuses isRefusal comes =>
                exact (ProgramSettles.ofRefusal isRefusal).comesFrom (comes.bind _)
            | @reads first rest leaves comes =>
                refine ProgramSettles.comesFrom ?_ (comes.bind _)
                simp only [bind, Except.bind, isFinishedBehind leaves.isStream]
                split
                case isTrue => exact .ofRead (first :: read).reverse
                case isFalse =>
                  simp only [Parser.expect, acceptBehind leaves.isStream]
                  cases isNext : accept? ";" rest with
                  | some after =>
                      exact goesOn (first :: read) (leaves.passes (acceptPasses leaves.isStream isNext))
                  | none =>
                      simp only [Option.map_none, refuse, currentBehind leaves.isStream]
                      have isInside := leaves.isSuffix.mem (currentInside leaves.isStream)
                      exact .ofRefusal (.unexpected (.symbol ";") isInside)

/-! ### Sources -/

/-- A source is read as a well-formed program. Otherwise it has a problem of syntax, which tells a
place in it, or an integer of too many digits. -/
inductive IsReading (source : String) : Except Failure Program → Prop
  | program {program : Program}
      (wellFormed : ∀ target ∈ program, target.node.IsWellFormed) : IsReading source (.ok program)
  | problem {problem : Problem} {position : Nat} (isSyntax : problem.kind = .command)
      (details : problem.details = [("source", .text source), ("position", .int position)])
      (isInside : position ≤ source.length) : IsReading source (.error (.problem problem))
  | tooLong {tokens : List Token} {token : Token} (isCut : tokenize source = .ok tokens)
      (isInside : token ∈ tokens) (isNumber : token.kind = .number)
      (isTooLong : IsTooLong token.text) : IsReading source (.error (.fault .badValue))

theorem refusalIsReading {source : String} {refusal : Refusal}
    (isCut : tokenize source = .ok tokens) (isStream : IsStream source.length tokens)
    (isRefusal : IsRefusal tokens refusal) : IsReading source (.error (refusal.failure source)) := by
  cases isRefusal with
  | unexpected expectation isInside => exact .problem rfl rfl (isStream.position _ isInside)
  | tooLong isInside isNumber isTooLong => exact .tooLong isCut isInside isNumber isTooLong

/-- The statements of a stream come to one outcome from some depth on, whatever lies behind the
stream and however much fuel is left. -/
theorem streamSettles {source : String} (isCut : tokenize source = .ok tokens)
    (isStream : IsStream source.length tokens) : ∃ outcome, IsReading source outcome ∧
      ∃ needed ≤ tokens.length, ∀ depth behind fuel, tokens.length ≤ fuel →
        (statementsFrom (nestedTo (sliceOf source) depth) [] fuel (tokens ++ behind)).mapError
          (Refusal.failure source) =
            if depth < needed then .error (.fault .tooDeep) else outcome := by
  obtain ⟨outcome, isRefusal, needed, fits, comes⟩ :
      ProgramSettles tokens.length tokens fun setting =>
        statementsFrom (nestedTo (sliceOf source) setting.depth) [] (tokens.length + setting.spare)
          (tokens ++ setting.behind) :=
    statementsSettle [] isStream (Nat.le_refl _) fun setting => Nat.le_add_right _ setting.spare
  refine ⟨outcome.mapError (Refusal.failure source), ?_, needed, fits, ?_⟩
  · cases outcome with
    | ok program => exact .program fun target _ => statementIsWellFormed target
    | error refusal => exact refusalIsReading isCut isStream (isRefusal refusal rfl)
  · intro depth behind fuel enough
    have isRun := comes ⟨depth, behind, fuel - tokens.length⟩
    simp only [Nat.add_sub_cancel' enough] at isRun
    rw [isRun]
    split <;> rfl

/-- Every source is read or refused. A source has a depth that it needs, and it comes to the same
outcome at every depth from there on. Its tokens end with exactly one that finishes it, and reading
them is the same with any other tokens behind that one and with any more fuel: no reader passes the
end, and none runs out of fuel. -/
theorem parsingSettles (source : String) : ∃ outcome needed, IsReading source outcome ∧
    needed ≤ source.length + 1 ∧
    (∀ depth, parseTo depth source =
      if depth < needed then .error (.fault .tooDeep) else outcome) ∧
    ∀ tokens, tokenize source = .ok tokens → IsStream source.length tokens ∧
      ∀ depth behind fuel, tokens.length ≤ fuel →
        (statementsFrom (nestedTo (sliceOf source) depth) [] fuel (tokens ++ behind)).mapError
          (Refusal.failure source) = parseTo depth source := by
  obtain ⟨tokens, isCut, isStream, isShort⟩ | ⟨position, character, refused, isInside⟩ :=
    tokensSettle source
  · obtain ⟨outcome, isReading, needed, fits, settles⟩ := streamSettles isCut isStream
    have isParse (depth : Nat) : parseTo depth source =
        if depth < needed then .error (.fault .tooDeep) else outcome := by
      simp only [parseTo, isCut]
      rw [← settles depth [] tokens.length (Nat.le_refl _), List.append_nil]
    refine ⟨outcome, needed, isReading, fits.trans isShort, isParse, fun others isCutToo => ?_⟩
    obtain rfl := Except.ok.inj (isCut.symm.trans isCutToo)
    exact ⟨isStream, fun depth behind fuel enough =>
      (settles depth behind fuel enough).trans (isParse depth).symm⟩
  · refine ⟨.error (.problem (.unexpectedCharacter source position character)), 0,
      .problem rfl rfl isInside.le, Nat.zero_le _, fun depth => ?_, fun tokens isCut => ?_⟩
    · rw [if_neg (Nat.not_lt_zero _), parseTo, refused]
    · exact nomatch refused.symm.trans isCut

end Letterpress.Script
