import Letterpress.Number.Reading
import Letterpress.Value.Basic

/-!
This file turns values into numbers.
-/

namespace Letterpress.Value

/-- A finite number is kept. -/
def finite? (number : Binary64) : Option Binary64 :=
  if number.isFinite then some number else none

theorem finiteIff {number kept : Binary64} :
    finite? number = some kept ↔ number.isFinite = true ∧ number = kept := by
  unfold finite?
  split <;> simp_all

/-- Numbers and numeric texts are coerced to a finite number. Other values have none, truth
values included. -/
def toNumber? : Value → Except Fault (Option Binary64)
  | int value => do return finite? (← (Number.int value).toReal)
  | real value => .ok (finite? value)
  | decimal value =>
      if value.isSignaling then .error .badValue else .ok (finite? value.toBinary64)
  | text value =>
      if Text.isBlankText value then .ok none
      else .ok ((Binary64.read? value).bind finite?)
  | _ => .ok none

/-- Whatever is coerced becomes a finite number. -/
theorem toNumberIsFinite {value : Value} {number : Binary64}
    (coerced : value.toNumber? = .ok (some number)) : number.isFinite = true := by
  have ofKept {found : Binary64} (isKept : finite? found = some number) :
      number.isFinite = true := by
    obtain ⟨isFinite, rfl⟩ := finiteIff.1 isKept
    exact isFinite
  cases value with
  | int value =>
      change (Number.int value).toReal.bind (fun found => .ok (finite? found)) = _ at coerced
      cases found : (Number.int value).toReal with
      | error fault =>
          rw [found] at coerced
          exact nomatch coerced
      | ok real =>
          rw [found] at coerced
          exact ofKept (Except.ok.inj coerced)
  | real value => exact ofKept (Except.ok.inj coerced)
  | decimal value =>
      rw [toNumber?] at coerced
      split at coerced
      case isTrue => exact nomatch coerced
      case isFalse => exact ofKept (Except.ok.inj coerced)
  | text content =>
      rw [toNumber?] at coerced
      split at coerced
      case isTrue => exact nomatch coerced
      case isFalse =>
        obtain ⟨found, -, isKept⟩ := Option.bind_eq_some_iff.1 (Except.ok.inj coerced)
        exact ofKept isKept
  | _ => exact nomatch coerced

/-- This is the first value that is coerced to a number. -/
def firstNumber? : List Value → Except Fault (Option Binary64)
  | [] => .ok none
  | value :: rest => do
      match ← value.toNumber? with
      | some number => return some number
      | none => firstNumber? rest

/-- The operand of an arithmetic operation. Truth values count as zero and one, a blank text is
zero, and a value without a number is the missing number. -/
def operand (value : Value) : Except Fault Number :=
  match value with
  | bool value => .ok (.int (if value then 1 else 0))
  | int value => .ok (.int value)
  | real value => .ok (.real value)
  | null => .ok (.real .notNumber)
  | text content =>
      if Text.isBlankText content then .ok (.int 0)
      else do return .real ((← value.toNumber?).getD .notNumber)
  | _ => do return .real ((← value.toNumber?).getD .notNumber)

end Letterpress.Value
