import Letterpress.Proofs.Result
import Letterpress.Text.CharacterReference

/-!
This file tells which character references cannot be decoded. These are the decimal ones of too many
digits.
-/

namespace Letterpress.Text.CharacterReference

variable {characters : List Char} {fault : Fault}

/-- A decimal reference in these characters has more digits than can be read. -/
def HoldsLong (characters : List Char) : Prop :=
  ∃ digits : List Char, digits.all Char.isDigit = true ∧ Json.maximalDigits < digits.length ∧
    '&' :: '#' :: digits <:+: characters

theorem HoldsLong.within {inside : List Char} (holdsLong : HoldsLong inside)
    (isInside : inside <:+: characters) : HoldsLong characters := by
  obtain ⟨digits, areDigits, tooLong, stands⟩ := holdsLong
  exact ⟨digits, areDigits, tooLong, stands.trans isInside⟩

end Letterpress.Text.CharacterReference
