import Letterpress.Proofs.Script.Tokenizing
import Letterpress.Proofs.Text.Search
import Letterpress.Script.Parser

/-!
This file shows that a number that is cut from a source has a value, unless it is an integer of too
many digits.
-/

namespace Letterpress

/-! ### Digits of every script -/

theorem decimalValueBound {character : Char} {value : Nat}
    (isValue : Text.decimalValue? character = some value) : value < 10 := by
  unfold Text.decimalValue? at isValue
  split at isValue
  case isTrue =>
    obtain ⟨isDigit, isDifference⟩ := Option.ite_none_right_eq_some.1 isValue
    obtain rfl := Option.some.inj isDifference
    have bounds := Text.isDigitIff.1 isDigit
    have isZero : '0'.toNat = 48 := rfl
    omega
  case isFalse =>
    obtain ⟨range, isRange, rfl⟩ := Option.map_eq_some_iff.1 isValue
    have within := List.find?_some isRange
    rw [Bool.and_eq_true, decide_eq_true_eq, decide_eq_true_eq] at within
    omega

theorem asciiDigitIff {character : Char} :
    (toAsciiDigit character).isDigit = true ↔ Text.isDecimal character = true := by
  have allDigits : ∀ value < 10, (Char.ofNat ('0'.toNat + value)).isDigit = true := by decide
  unfold toAsciiDigit
  split
  case h_1 value _ isValue =>
    exact iff_of_true (allDigits value (decimalValueBound isValue)) (Option.isSome_of_eq_some isValue)
  case h_2 notBoth =>
    by_cases isAscii : character.toNat < 128
    · simp [Text.isDecimal, Text.decimalValue?, isAscii]
    · have noValue : Text.decimalValue? character = none := by
        cases isValue : Text.decimalValue? character with
        | none => rfl
        | some value => exact absurd isValue (notBoth value (decide_eq_true (by omega)))
      refine iff_of_false (fun isDigit => ?_) (by simp [Text.isDecimal, noValue])
      have bounds := Text.isDigitIff.1 isDigit
      omega

/-- Digits of every script, read as the ASCII ones. -/
theorem asciiDigits {digits : List Char}
    (allDecimal : ∀ digit ∈ digits, Text.isDecimal digit = true) :
    ∀ digit ∈ digits.map toAsciiDigit, digit.isDigit = true := by
  intro digit isInside
  obtain ⟨source, isSource, rfl⟩ := List.mem_map.1 isInside
  exact asciiDigitIff.2 (allDecimal source isSource)

namespace Script

/-! ### The parts of a number -/

/-- The mantissa of a number has a digit before or after the point. -/
inductive IsMantissa : List Char → Prop
  | whole {digits : List Char} (notEmpty : digits ≠ [])
      (allDecimal : ∀ digit ∈ digits, Text.isDecimal digit = true) : IsMantissa digits
  | pointed {digits fraction : List Char} (notEmpty : digits ≠ [] ∨ fraction ≠ [])
      (allDecimal : ∀ digit ∈ digits, Text.isDecimal digit = true)
      (fractionDecimal : ∀ digit ∈ fraction, Text.isDecimal digit = true) :
      IsMantissa (digits ++ '.' :: fraction)

/-- The sign of an exponent may be absent. -/
def IsSign (sign : List Char) : Prop := sign = [] ∨ sign = ['+'] ∨ sign = ['-']

/-- The exponent of a number may be absent. -/
inductive IsExponent : List Char → Prop
  | absent : IsExponent []
  | present {letter : Char} {sign digits : List Char} (isLetter : letter = 'e' ∨ letter = 'E')
      (isSign : IsSign sign) (notEmpty : digits ≠ [])
      (allDecimal : ∀ digit ∈ digits, Text.isDecimal digit = true) :
      IsExponent (letter :: (sign ++ digits))

theorem takeAdmitted (admits : Char → Bool) (characters : List Char) :
    characters.take (characters.takeWhile admits).length = characters.takeWhile admits :=
  (List.prefix_iff_eq_take.1 (List.takeWhile_prefix admits)).symm

theorem signIsSplit (rest : List Char) : ∃ sign after, rest = sign ++ after ∧ IsSign sign ∧
    (sign = [] → ∀ first, after.head? = some first → first ≠ '+' ∧ first ≠ '-') := by
  cases rest with
  | nil => exact ⟨[], [], rfl, .inl rfl, fun _ => nofun⟩
  | cons first more =>
      by_cases isSign : first = '+' ∨ first = '-'
      · exact ⟨[first], more, rfl, .inr (isSign.imp (congrArg ([·])) (congrArg ([·]))), nofun⟩
      · refine ⟨[], first :: more, rfl, .inl rfl, fun _ other isFirst => ?_⟩
        obtain rfl := Option.some.inj isFirst
        exact not_or.1 isSign

theorem exponentLengthSigned {letter : Char} {sign after : List Char}
    (isLetter : letter = 'e' ∨ letter = 'E') (isSign : IsSign sign)
    (unsigned : sign = [] → ∀ first, after.head? = some first → first ≠ '+' ∧ first ≠ '-') :
    Token.exponentLength (letter :: (sign ++ after)) =
      if (after.takeWhile Text.isDecimal).isEmpty then 0
      else sign.length + (after.takeWhile Text.isDecimal).length + 1 := by
  rcases isSign with rfl | rfl | rfl
  · cases after with
    | nil => simp [Token.exponentLength, isLetter]
    | cons first more =>
        obtain ⟨notPlus, notMinus⟩ := unsigned rfl first rfl
        simp [Token.exponentLength, isLetter, notPlus, notMinus, Nat.add_comm]
  · simp [Token.exponentLength, isLetter, Nat.add_comm, Nat.add_left_comm]
  · simp [Token.exponentLength, isLetter, Nat.add_comm, Nat.add_left_comm]

theorem exponentLengthOther {letter : Char} (rest : List Char)
    (isOther : ¬ (letter = 'e' ∨ letter = 'E')) : Token.exponentLength (letter :: rest) = 0 := by
  simp [Token.exponentLength, isOther]

theorem exponentIsTaken (characters : List Char) :
    IsExponent (characters.take (Token.exponentLength characters)) := by
  cases characters with
  | nil => exact .absent
  | cons letter rest =>
      by_cases isLetter : letter = 'e' ∨ letter = 'E'
      · obtain ⟨sign, after, rfl, isSign, unsigned⟩ := signIsSplit rest
        rw [exponentLengthSigned isLetter isSign unsigned]
        split
        case isTrue => exact .absent
        case isFalse hasDigits =>
          rw [List.take_succ_cons, List.take_length_add_append, takeAdmitted]
          exact .present isLetter isSign (by simpa using hasDigits) fun _ => List.mem_takeWhile_imp
      · rw [exponentLengthOther rest isLetter]
        exact .absent

/-- With a point a number is the digits on both sides of it and an exponent. -/
theorem lengthWithPoint {digits rest : List Char}
    (allDecimal : ∀ digit ∈ digits, Text.isDecimal digit = true) :
    Token.numberLength (digits ++ '.' :: rest) =
      if digits = [] ∧ rest.takeWhile Text.isDecimal = [] then 0
      else digits.length + (rest.takeWhile Text.isDecimal).length + 1 +
        Token.exponentLength (rest.drop (rest.takeWhile Text.isDecimal).length) := by
  have stops : Text.StopsAt Text.isDecimal ('.' :: rest) := Text.stopsAtCons (by decide)
  have isDropped (count : Nat) :
      (digits ++ '.' :: rest).drop (digits.length + 1 + count) = rest.drop count := by
    rw [Nat.add_assoc, List.drop_length_add_append, Nat.add_comm, List.drop_succ_cons]
  simp only [Token.numberLength, Text.takeWhileOfStop allDecimal stops, List.drop_left]
  by_cases noDigits : digits = [] ∧ rest.takeWhile Text.isDecimal = []
  · simp [noDigits]
  · have hasDigits : ¬ (digits.isEmpty && (rest.takeWhile Text.isDecimal).isEmpty) = true := by
      simpa using noDigits
    rw [if_neg noDigits, if_neg hasDigits, if_neg (by omega), isDropped]
    omega

theorem numberIsTaken {characters : List Char} (isNumber : Token.numberLength characters ≠ 0) :
    ∃ mantissa exponent, IsMantissa mantissa ∧ IsExponent exponent ∧
      characters.take (Token.numberLength characters) = mantissa ++ exponent := by
  obtain ⟨digits, rest, rfl, -, -, allDecimal, stops⟩ := Text.spanAdmitted Text.isDecimal characters
  by_cases hasPoint : rest.head? = some '.'
  · obtain ⟨after, rfl⟩ := List.head?_eq_some_iff.1 hasPoint
    obtain ⟨fraction, last, rfl, isFraction, isLast, fractionDecimal, -⟩ :=
      Text.spanAdmitted Text.isDecimal after
    have isLength : Token.numberLength (digits ++ '.' :: (fraction ++ last)) = _ :=
      lengthWithPoint allDecimal
    rw [isFraction, isLast] at isLength
    rw [isLength] at isNumber ⊢
    have hasDigits : ¬ (digits = [] ∧ fraction = []) := fun noDigits => isNumber (if_pos noDigits)
    refine ⟨digits ++ '.' :: fraction, _, .pointed (not_and_or.1 hasDigits) allDecimal
      fractionDecimal, exponentIsTaken last, ?_⟩
    have whole : digits ++ '.' :: (fraction ++ last) = digits ++ '.' :: fraction ++ last := by simp
    have sameLength : digits.length + fraction.length + 1 = (digits ++ '.' :: fraction).length := by
      simp [Nat.add_assoc]
    rw [if_neg hasDigits, whole, sameLength, List.take_length_add_append]
  · rw [lengthWithoutPoint allDecimal stops hasPoint] at isNumber ⊢
    have hasDigits : ¬ digits.length = 0 := fun noDigits => isNumber (if_pos noDigits)
    refine ⟨digits, _, .whole (by simpa using hasDigits) allDecimal, exponentIsTaken rest, ?_⟩
    rw [if_neg hasDigits, List.take_length_add_append]

/-! ### Values -/

open DecimalNotation

theorem unsignedDigits {digits : List Char} (allDigits : ∀ digit ∈ digits, digit.isDigit = true) :
    splitSign digits = (false, digits) := by
  unfold splitSign
  split
  case h_1 => exact absurd (allDigits '-' List.mem_cons_self) (by decide)
  case h_2 => exact absurd (allDigits '+' List.mem_cons_self) (by decide)
  case h_3 => rfl

theorem signIsRead {sign digits : List Char} (isSign : IsSign sign)
    (allDigits : ∀ digit ∈ digits, digit.isDigit = true) :
    ∃ negative, splitSign (sign ++ digits) = (negative, digits) := by
  rcases isSign with rfl | rfl | rfl
  · exact ⟨false, unsignedDigits allDigits⟩
  · exact ⟨false, rfl⟩
  · exact ⟨true, rfl⟩

theorem exponentIsRead {exponent : List Char} (isExponent : IsExponent exponent) :
    (readExponent? (exponent.map toAsciiDigit)).isSome = true := by
  cases isExponent with
  | absent => rfl
  | @present letter sign digits isLetter isSign notEmpty allDecimal =>
      have sameLetter : toAsciiDigit letter = letter := by rcases isLetter with rfl | rfl <;> rfl
      have sameSign : sign.map toAsciiDigit = sign := by rcases isSign with rfl | rfl | rfl <;> rfl
      obtain ⟨negative, isRead⟩ := signIsRead isSign (asciiDigits allDecimal)
      have hasDigits : ¬ ((digits.map toAsciiDigit).isEmpty = true ∨
          (! (digits.map toAsciiDigit).all Char.isDigit) = true) := by
        simpa [notEmpty, asciiDigitIff] using allDecimal
      simp only [List.map_cons, List.map_append, sameLetter, sameSign, readExponent?, isRead,
        if_pos isLetter, if_neg hasDigits, Option.isSome_some]

/-- Nothing of an exponent belongs to the digits before it. -/
theorem exponentStops {exponent : List Char} (isExponent : IsExponent exponent) :
    Text.StopsAt Char.isDigit (exponent.map toAsciiDigit) ∧
      (exponent.map toAsciiDigit).head? ≠ some '.' := by
  cases isExponent with
  | absent => exact ⟨Text.stopsAtNil, nofun⟩
  | @present letter sign digits isLetter =>
      rw [List.map_cons]
      rcases isLetter with rfl | rfl
      · exact ⟨Text.stopsAtCons (by decide), by simp [toAsciiDigit]⟩
      · exact ⟨Text.stopsAtCons (by decide), by simp [toAsciiDigit]⟩

theorem readsWhole {digits last : List Char} (allDigits : ∀ digit ∈ digits, digit.isDigit = true)
    (notEmpty : digits ≠ []) (stops : Text.StopsAt Char.isDigit last)
    (noPoint : last.head? ≠ some '.') :
    (readUnsigned? false (digits ++ last)).isSome = (readExponent? last).isSome := by
  simp only [readUnsigned?, Text.takeWhileOfStop allDigits stops,
    Text.dropWhileOfStop allDigits stops]
  split
  case h_1 => exact absurd rfl noPoint
  case h_2 => simp [notEmpty]

theorem readsPointed {digits fraction last : List Char}
    (allDigits : ∀ digit ∈ digits, digit.isDigit = true)
    (fractionDigits : ∀ digit ∈ fraction, digit.isDigit = true)
    (notEmpty : digits ≠ [] ∨ fraction ≠ []) (stops : Text.StopsAt Char.isDigit last) :
    (readUnsigned? false (digits ++ '.' :: (fraction ++ last))).isSome =
      (readExponent? last).isSome := by
  have stopsAtPoint : Text.StopsAt Char.isDigit ('.' :: (fraction ++ last)) :=
    Text.stopsAtCons (by decide)
  simp only [readUnsigned?, Text.takeWhileOfStop allDigits stopsAtPoint,
    Text.dropWhileOfStop allDigits stopsAtPoint, Text.takeWhileOfStop fractionDigits stops,
    Text.dropWhileOfStop fractionDigits stops]
  rw [if_neg (by simpa [imp_iff_not_or] using notEmpty), Option.isSome_map]

theorem unsignedIsRead {mantissa exponent : List Char} (isMantissa : IsMantissa mantissa)
    (isExponent : IsExponent exponent) :
    (readUnsigned? false ((mantissa ++ exponent).map toAsciiDigit)).isSome = true := by
  obtain ⟨stops, noPoint⟩ := exponentStops isExponent
  rw [← exponentIsRead isExponent, List.map_append]
  cases isMantissa with
  | whole notEmpty allDecimal =>
      exact readsWhole (asciiDigits allDecimal) (by simpa using notEmpty) stops noPoint
  | pointed notEmpty allDecimal fractionDecimal =>
      rw [List.map_append, List.map_cons, List.append_assoc, List.cons_append]
      exact readsPointed (asciiDigits allDecimal) (asciiDigits fractionDecimal)
        (by simpa using notEmpty) stops

/-- An integer of more digits than these has no value. -/
def IsTooLong (text : String) : Prop :=
  (∀ digit ∈ text.toList, Text.isDecimal digit = true) ∧ Json.maximalDigits < text.toList.length

/-- A number that is cut from a source has a value, unless it is an integer of too many digits. -/
theorem numberHasValue {characters : List Char} {text : String}
    (isNumber : Token.numberLength characters ≠ 0)
    (isText : text.toList = characters.take (Token.numberLength characters)) :
    (∃ expression, Parser.numberLiteral text = .ok expression) ∨
      IsTooLong text ∧ Parser.numberLiteral text = .error (.fault .badValue) := by
  obtain ⟨mantissa, exponent, isMantissa, isExponent, isTaken⟩ := numberIsTaken isNumber
  obtain ⟨number, isRead⟩ := Option.isSome_iff_exists.1 (unsignedIsRead isMantissa isExponent)
  rw [← isTaken, ← isText] at isRead
  rw [Parser.numberLiteral]
  by_cases allDigits : (text.toList.map toAsciiDigit).all Char.isDigit = true
  · rw [if_pos allDigits]
    by_cases isLong : Json.maximalDigits < (text.toList.map toAsciiDigit).length
    · refine .inr ⟨⟨?_, by simpa using isLong⟩, if_pos isLong⟩
      simpa [asciiDigitIff] using allDigits
    · exact .inl ⟨_, if_neg isLong⟩
  · rw [if_neg allDigits, isRead]
    exact .inl ⟨_, rfl⟩

end Script

end Letterpress
