import Letterpress.Proofs.Script.SourceToken
import Mathlib.Order.MinMax

/-!
This file tells what it means that a reading of tokens settles. A reader passes tokens from the front
of a stream and never passes its end, so what lies behind the end does not matter, and only the depth
of nesting can be too small.
-/

open Letterpress.Script.Parser

namespace Letterpress.Script

variable {limit bound : Nat} {slice : Nat → Nat → String} {tokens rest : List Token}
  {Found Result Next Meaning : Type}

/-! ### Passing tokens -/

/-- A reader that starts at a stream leaves an end of it. -/
structure Leaves (limit : Nat) (tokens rest : List Token) : Prop where
  isSuffix : rest <:+ tokens
  isStream : IsStream limit rest

/-- Some token is passed. -/
structure Passes (limit : Nat) (tokens rest : List Token) : Prop extends Leaves limit tokens rest where
  isShorter : rest.length < tokens.length

theorem IsStream.leaves (isStream : IsStream limit tokens) : Leaves limit tokens tokens :=
  ⟨List.suffix_rfl, isStream⟩

theorem Leaves.notLonger (leaves : Leaves limit tokens rest) : rest.length ≤ tokens.length :=
  leaves.isSuffix.length_le

theorem Passes.trans {after : List Token} (passes : Passes limit tokens rest)
    (leaves : Leaves limit rest after) : Passes limit tokens after :=
  ⟨⟨leaves.isSuffix.trans passes.isSuffix, leaves.isStream⟩,
    leaves.notLonger.trans_lt passes.isShorter⟩

theorem Leaves.passes {after : List Token} (leaves : Leaves limit tokens rest)
    (passes : Passes limit rest after) : Passes limit tokens after :=
  ⟨⟨passes.isSuffix.trans leaves.isSuffix, passes.isStream⟩,
    passes.isShorter.trans_le leaves.notLonger⟩

section

variable (isStream : IsStream limit tokens) (behind : List Token)

include isStream

theorem currentBehind : current (tokens ++ behind) = current tokens := by
  cases isStream <;> rfl

theorem tailBehind : (tokens ++ behind).tail = tokens.tail ++ behind := by
  cases isStream <;> rfl

theorem acceptBehind (symbol : String) :
    accept? symbol (tokens ++ behind) = (accept? symbol tokens).map (· ++ behind) := by
  cases isStream with
  | finish => rfl
  | token =>
      rw [List.cons_append, accept?, accept?]
      split <;> rfl

theorem acceptOneBehind (symbols : List (String × Meaning)) :
    acceptOne? symbols (tokens ++ behind) =
      (acceptOne? symbols tokens).map fun (meaning, rest) => (meaning, rest ++ behind) := by
  simp only [acceptOne?, acceptBehind isStream, Option.map_map, List.map_findSome?,
    Function.comp_def]

omit behind

theorem currentInside : current tokens ∈ tokens := by
  cases isStream <;> exact List.mem_cons_self

theorem tailPasses (notFinish : (current tokens).kind ≠ .finish) :
    Passes limit tokens tokens.tail := by
  cases isStream with
  | finish => exact absurd rfl notFinish
  | token isInside isStream => exact ⟨⟨List.suffix_cons .., isStream⟩, Nat.lt_succ_self _⟩

theorem acceptPasses {symbol : String} (accepted : accept? symbol tokens = some rest) :
    Passes limit tokens rest := by
  cases isStream with
  | finish => exact nomatch accepted
  | token isInside isStream =>
      obtain ⟨-, isRest⟩ := Option.ite_none_right_eq_some.1 accepted
      obtain rfl := Option.some.inj isRest
      exact ⟨⟨List.suffix_cons .., isStream⟩, Nat.lt_succ_self _⟩

theorem acceptOnePasses {symbols : List (String × Meaning)} {meaning : Meaning}
    (accepted : acceptOne? symbols tokens = some (meaning, rest)) : Passes limit tokens rest := by
  obtain ⟨⟨symbol, other⟩, -, isFound⟩ := List.exists_of_findSome?_eq_some accepted
  obtain ⟨after, isAccepted, same⟩ := Option.map_eq_some_iff.1 isFound
  obtain ⟨-, rfl⟩ := Prod.mk.inj same
  exact acceptPasses isStream isAccepted

end

/-! ### Readings -/

/-- A reading may go to a depth, tokens may lie behind the end of what is read, and fuel may be to
spare. -/
structure Setting where
  depth : Nat
  behind : List Token
  spare : Nat

/-- Two readings come to the same from some depth on, and below it the first one fails. -/
def ComesTo (bound : Nat) (run outcome : Setting → Except Refusal Found) : Prop :=
  ∃ needed ≤ bound, ∀ setting,
    run setting = if setting.depth < needed then .error (.fault .tooDeep) else outcome setting

theorem ComesTo.refl (run : Setting → Except Refusal Found) : ComesTo bound run run :=
  ⟨0, Nat.zero_le _, fun _ => (if_neg (Nat.not_lt_zero _)).symm⟩

theorem ComesTo.trans {run other outcome : Setting → Except Refusal Found}
    (first : ComesTo bound run other) (second : ComesTo bound other outcome) :
    ComesTo bound run outcome := by
  obtain ⟨needed, fits, isRun⟩ := first
  obtain ⟨neededNext, fitsNext, isOther⟩ := second
  refine ⟨max needed neededNext, max_le fits fitsNext, fun setting => ?_⟩
  rw [isRun, isOther, ← ite_or]
  simp only [lt_max_iff]

theorem ComesTo.bind {run outcome : Setting → Except Refusal Found}
    (comes : ComesTo bound run outcome) (next : Setting → Found → Except Refusal Next) :
    ComesTo bound (fun setting => run setting >>= next setting)
      fun setting => outcome setting >>= next setting := by
  obtain ⟨needed, fits, isRun⟩ := comes
  refine ⟨needed, fits, fun setting => ?_⟩
  simp only [isRun]
  split <;> rfl

/-- A token of the stream was not expected, or one is an integer of too many digits. -/
inductive IsRefusal (tokens : List Token) : Refusal → Prop
  | unexpected {found : Token} (expectation : Expectation) (isInside : found ∈ tokens) :
      IsRefusal tokens (.unexpected expectation found)
  | tooLong {token : Token} (isInside : token ∈ tokens) (isNumber : token.kind = .number)
      (isTooLong : IsTooLong token.text) : IsRefusal tokens (.fault .badValue)

theorem IsRefusal.later {refusal : Refusal} (isRefusal : IsRefusal rest refusal)
    (isSuffix : rest <:+ tokens) : IsRefusal tokens refusal := by
  cases isRefusal with
  | unexpected expectation isInside => exact .unexpected expectation (isSuffix.mem isInside)
  | tooLong isInside isNumber isTooLong => exact .tooLong (isSuffix.mem isInside) isNumber isTooLong

/-- A reading of a stream settles if it has one outcome in all settings that are deep enough. It reads
something and leaves an end of the stream, or it refuses. -/
inductive Settles (limit bound : Nat) (tokens : List Token)
    (run : Setting → Except Refusal (Result × List Token)) : Prop
  | reads {result : Result} {rest : List Token} (leaves : Leaves limit tokens rest)
      (comes : ComesTo bound run fun setting => .ok (result, rest ++ setting.behind))
  | refuses {refusal : Refusal} (isRefusal : IsRefusal tokens refusal)
      (comes : ComesTo bound run fun _ => .error refusal)

section

variable {run other : Setting → Except Refusal (Result × List Token)}

theorem Settles.ofRead {result : Result} (leaves : Leaves limit tokens rest) :
    Settles limit bound tokens fun setting => .ok (result, rest ++ setting.behind) :=
  .reads leaves (.refl _)

theorem Settles.ofRefuse (isStream : IsStream limit tokens) (expectation : Expectation) :
    Settles limit bound tokens fun setting =>
      (refuse expectation (tokens ++ setting.behind) : Except Refusal (Result × List Token)) := by
  simp only [refuse, currentBehind isStream]
  exact .refuses (.unexpected expectation (currentInside isStream)) (.refl _)

theorem Settles.comesFrom (settles : Settles limit bound tokens other)
    (comes : ComesTo bound run other) : Settles limit bound tokens run := by
  cases settles with
  | reads leaves same => exact .reads leaves (comes.trans same)
  | refuses isRefusal same => exact .refuses isRefusal (comes.trans same)

/-- What settles on an end of a stream settles on the stream. -/
theorem Settles.later (settles : Settles limit bound rest run) (isSuffix : rest <:+ tokens) :
    Settles limit bound tokens run := by
  cases settles with
  | reads leaves comes => exact .reads ⟨leaves.isSuffix.trans isSuffix, leaves.isStream⟩ comes
  | refuses isRefusal comes => exact .refuses (isRefusal.later isSuffix) comes

/-- After a token is passed, a nested expression fits the bound. -/
theorem Passes.settles (passes : Passes limit tokens rest) (fits : tokens.length ≤ bound + 1)
    (goesOn : rest.length ≤ bound → Settles limit bound rest run) :
    Settles limit bound tokens run :=
  (goesOn (Nat.le_of_lt_succ (passes.isShorter.trans_le fits))).later passes.isSuffix

theorem Settles.bind {next : Setting → Result × List Token → Except Refusal (Next × List Token)}
    (settles : Settles limit bound tokens run)
    (goesOn : ∀ result rest, Leaves limit tokens rest → Settles limit bound rest fun setting =>
      next setting (result, rest ++ setting.behind)) :
    Settles limit bound tokens fun setting => run setting >>= next setting := by
  cases settles with
  | @reads result rest leaves comes =>
      exact ((goesOn result rest leaves).comesFrom (comes.bind next)).later leaves.isSuffix
  | refuses isRefusal comes => exact .refuses isRefusal (comes.bind next)

theorem Settles.expect {next : Setting → List Token → Except Refusal (Next × List Token)}
    (isStream : IsStream limit tokens) (symbol : String)
    (goesOn : ∀ rest, Passes limit tokens rest → Settles limit bound rest fun setting =>
      next setting (rest ++ setting.behind)) :
    Settles limit bound tokens fun setting =>
      Parser.expect symbol (tokens ++ setting.behind) >>= next setting := by
  simp only [Parser.expect, acceptBehind isStream]
  cases accepted : accept? symbol tokens with
  | none => exact (Settles.ofRefuse isStream (.symbol symbol)).comesFrom (.refl _)
  | some rest =>
      have passes := acceptPasses isStream accepted
      exact (goesOn rest passes).later passes.isSuffix

end

end Letterpress.Script
