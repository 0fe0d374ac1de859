import Letterpress.Text.Quoted
import Mathlib.Tactic.SplitIfs

/-!
This file shows which characters quoting brings into a text.
-/

namespace Letterpress.Text

/-- Escapes are written in these characters. -/
def isEscape (character : Char) : Bool :=
  character.isAlphanum || character = '\\' || character = '"'

/-- An escape stands for a quote, a backslash or a control character. -/
def isEscaped (character : Char) : Bool :=
  character = '"' || character = '\\' || character.toNat < 0x20

theorem hexCharacterEscape (code : Nat) : isEscape (hexCharacter (code % 16)) = true := by
  have allDigits : ∀ digit < 16, isEscape (hexCharacter digit) = true := by decide
  exact allDigits _ (Nat.mod_lt _ (by decide))

theorem unicodeEscapeWritten (code : Nat) :
    ∀ written ∈ unicodeEscape code, isEscape written = true := by
  simp only [unicodeEscape, List.forall_mem_cons, hexCharacterEscape, List.not_mem_nil,
    false_implies, implies_true, and_true]
  decide

/-- Quoting writes a character as it is, or it writes an escape for it. -/
theorem quoteCharacterWrites (character : Char) :
    quoteCharacter character = [character] ∨ isEscaped character = true ∧
      ∀ written ∈ quoteCharacter character, isEscape written = true := by
  unfold quoteCharacter
  split_ifs with isQuote isBackslash isLine isReturn isTab isBack isForm isControl
  · exact .inr ⟨isQuote ▸ by decide, List.all_eq_true.1 (by decide)⟩
  · exact .inr ⟨isBackslash ▸ by decide, List.all_eq_true.1 (by decide)⟩
  · exact .inr ⟨isLine ▸ by decide, List.all_eq_true.1 (by decide)⟩
  · exact .inr ⟨isReturn ▸ by decide, List.all_eq_true.1 (by decide)⟩
  · exact .inr ⟨isTab ▸ by decide, List.all_eq_true.1 (by decide)⟩
  · exact .inr ⟨isBack ▸ by decide, List.all_eq_true.1 (by decide)⟩
  · exact .inr ⟨isForm ▸ by decide, List.all_eq_true.1 (by decide)⟩
  · exact .inr ⟨by simp [isEscaped, isControl], unicodeEscapeWritten _⟩
  · exact .inl rfl

/-- A quoted text holds characters of the text itself and of escapes. -/
theorem quotedFrom {text : List Char} {written : Char}
    (isWritten : written ∈ text.flatMap quoteCharacter) :
    written ∈ text ∨ isEscape written = true := by
  obtain ⟨character, isInside, isWritten⟩ := List.mem_flatMap.1 isWritten
  obtain same | ⟨-, allEscapes⟩ := quoteCharacterWrites character
  · rw [same, List.mem_singleton] at isWritten
    exact .inl (isWritten ▸ isInside)
  · exact .inr (allEscapes written isWritten)

end Letterpress.Text
