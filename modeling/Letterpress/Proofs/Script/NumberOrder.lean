import Letterpress.Proofs.Number.ExactValue
import Letterpress.Script.Evaluation

/-!
This file relates the order of numbers in scripts to their equality. Both are exact but for
decimals, which are rounded before they are ordered and never equal a text. Where rounding does not
matter, order and equality agree.
-/

namespace Letterpress

namespace Value

/-- These operands stand for numbers. Infinities are admitted among the real ones only. -/
def IsNumeric : Value → Prop
  | bool _ => True
  | int _ => True
  | real number => number.isNotNumber = false
  | decimal number => number.isFinite = true
  | text content => ∃ number, (text content).toNumber? = .ok (some number)
  | _ => False

def IsText : Value → Prop
  | text _ => True
  | _ => False

def IsDecimal : Value → Prop
  | decimal _ => True
  | _ => False

/-- A decimal beyond the finite binary64 numbers has no place in their order. -/
def IsInRange : Value → Prop
  | decimal number => number.toBinary64.isFinite = true
  | _ => True

/-- This is the number that a numeric operand stands for. -/
def exact : Value → Extended
  | bool value => .ofRat (if value then 1 else 0)
  | int value => .ofRat value
  | real number => number.extended
  | decimal number => .ofRat number.toRat
  | text content => ((Binary64.read? content).getD .notNumber).extended
  | _ => ⊥

/-- This is the number as which an operand is ordered. -/
def rounded : Value → Extended
  | decimal number => number.toBinary64.extended
  | other => other.exact

/-- A text is never equal to a decimal. Other operands are equal if they stand for the same
number. -/
structure Equals (first second : Value) : Prop where
  comparable : ¬ (first.IsText ∧ second.IsDecimal) ∧ ¬ (first.IsDecimal ∧ second.IsText)
  same : first.exact = second.exact

end Value

namespace Script

variable {heap : Heap} {first second value : Value}

/-! ### The operands of an order -/

/-- A text that is accepted stands for the finite number that is read. -/
theorem readText {content : String} {number : Binary64}
    (accepted : (Value.text content).toNumber? = .ok (some number)) :
    Text.isBlankText content = false ∧ Binary64.read? content = some number ∧
      number.isFinite = true := by
  rw [Value.toNumber?] at accepted
  split at accepted
  case isTrue => cases accepted
  case isFalse notBlank =>
    obtain ⟨found, isRead, isKept⟩ := Option.bind_eq_some_iff.1 (Except.ok.inj accepted)
    obtain ⟨isFinite, rfl⟩ := Value.finiteIff.1 isKept
    exact ⟨Bool.eq_false_iff.2 notBlank, isRead, isFinite⟩

theorem operandOfText {content : String} {number : Binary64}
    (accepted : (Value.text content).toNumber? = .ok (some number)) :
    (Value.text content).operand = .ok (.real number) := by
  rw [Value.operand, (readText accepted).1, accepted]
  rfl

theorem operandOfDecimal {number : Decimal} (isFinite : number.isFinite = true) :
    (Value.decimal number).operand =
      .ok (.real ((Value.finite? number.toBinary64).getD .notNumber)) := by
  cases number with
  | finite negative coefficient exponent => rfl
  | _ => exact nomatch isFinite

theorem operandIsRounded (isNumeric : value.IsNumeric) (isInRange : value.IsInRange) :
    ∃ number, value.operand = .ok number ∧ number.isNotNumber = false ∧
      number.extended = value.rounded := by
  cases value with
  | bool value =>
      refine ⟨_, rfl, rfl, ?_⟩
      cases value <;> simp [Number.extended, Value.rounded, Value.exact]
  | int value => exact ⟨_, rfl, rfl, rfl⟩
  | real number => exact ⟨_, rfl, isNumeric, rfl⟩
  | decimal number =>
      have isKept := Value.finiteIff.2 ⟨isInRange, rfl⟩
      refine ⟨.real number.toBinary64, ?_, Binary64.notMissing isInRange, rfl⟩
      rw [operandOfDecimal isNumeric, isKept, Option.getD_some]
  | text content =>
      obtain ⟨number, accepted⟩ := isNumeric
      obtain ⟨-, isRead, isFinite⟩ := readText accepted
      refine ⟨.real number, operandOfText accepted, Binary64.notMissing isFinite, ?_⟩
      simp only [Number.extended, Value.rounded, Value.exact, isRead, Option.getD_some]
  | _ => exact isNumeric.elim

/-- A decimal that is out of range counts as no number. -/
theorem operandOutOfRange (isNumeric : value.IsNumeric) (outOfRange : ¬ value.IsInRange) :
    value.operand = .ok (.real .notNumber) := by
  cases value with
  | decimal number =>
      have isInfinite : ¬ number.toBinary64.isFinite = true := outOfRange
      rw [operandOfDecimal isNumeric, Value.finite?, if_neg isInfinite, Option.getD_none]
  | _ => exact (outOfRange trivial).elim

theorem hasOperand (isNumeric : value.IsNumeric) : ∃ number, value.operand = .ok number := by
  by_cases isInRange : value.IsInRange
  · obtain ⟨number, isOperand, -, -⟩ := operandIsRounded isNumeric isInRange
    exact ⟨number, isOperand⟩
  · exact ⟨_, operandOutOfRange isNumeric isInRange⟩

/-! ### Orders -/

/-- This is what an order asks of exact numbers. -/
def Orders : BinaryOperator → Extended → Extended → Prop
  | .less, first, second => first < second
  | .lessOrEqual, first, second => first ≤ second
  | .greater, first, second => second < first
  | .greaterOrEqual, first, second => second ≤ first
  | _, _, _ => False

def IsOrder (operator : BinaryOperator) : Prop :=
  operator ∈ [.less, .lessOrEqual, .greater, .greaterOrEqual]

instance : DecidablePred IsOrder := fun operator =>
  inferInstanceAs (Decidable (operator ∈ [.less, .lessOrEqual, .greater, .greaterOrEqual]))

theorem holdsOfCompared (operator : BinaryOperator) (first second : Extended) :
    holdsOf operator (some (cmp first second)) = true ↔ Orders operator first second := by
  obtain isLess | isSame | isGreater := lt_trichotomy first second
  · rw [isLess.cmp_eq_lt]
    cases operator <;> simp [holdsOf, Orders, isLess, isLess.le, isLess.not_gt, isLess.not_ge]
  · rw [isSame.cmp_eq_eq]
    cases operator <;> simp [holdsOf, Orders, isSame]
  · rw [isGreater.cmp_eq_gt]
    cases operator <;>
      simp [holdsOf, Orders, isGreater, isGreater.le, isGreater.not_gt, isGreater.not_ge]

/-- Nothing is ordered before or behind a missing number. -/
theorem holdsOfMissing (operator : BinaryOperator) : holdsOf operator none = false := by
  cases operator <;> rfl

theorem missingCompared (number : Number) :
    (Number.real .notNumber).compare? number = none ∧
      number.compare? (.real .notNumber) = none := by
  cases number with
  | int value => exact ⟨rfl, rfl⟩
  | real value => cases value <;> exact ⟨rfl, rfl⟩

theorem applyOrder {operator : BinaryOperator} (isOrder : IsOrder operator)
    (notTexts : ¬ (first.IsText ∧ second.IsText)) {one two : Number}
    (firstOperand : first.operand = .ok one) (secondOperand : second.operand = .ok two) :
    applyBinary heap operator first second =
      .ok (.bool (holdsOf operator (one.compare? two))) := by
  have compared : compareValues operator first second =
      .ok (holdsOf operator (one.compare? two)) := by
    unfold compareValues
    split
    case h_1 => exact (notTexts ⟨trivial, trivial⟩).elim
    case h_2 =>
      rw [firstOperand, secondOperand]
      rfl
  have applied : applyBinary heap operator first second =
      (compareValues operator first second).map .bool := by
    simp only [IsOrder, List.mem_cons, List.not_mem_nil, or_false] at isOrder
    rcases isOrder with rfl | rfl | rfl | rfl <;> rfl
  rw [applied, compared]
  rfl

/-! ### Equality -/

/-- A decimal is compared exactly, and it differs from every text. -/
theorem equalsDecimalIsExact {number : Decimal} (isFinite : number.isFinite = true)
    (isNumeric : value.IsNumeric) :
    ∃ holds, Value.equalsDecimal number value = .ok holds ∧
      (holds = true ↔ ¬ value.IsText ∧ Extended.ofRat number.toRat = value.exact) := by
  match number, isFinite with
  | .finite negative coefficient exponent, _ =>
      cases value with
      | bool value =>
          refine ⟨_, rfl, ?_⟩
          cases value <;> simp [Value.IsText, Value.exact, Extended.ofRatInjective.eq_iff]
      | int value =>
          refine ⟨_, rfl, ?_⟩
          simp [Value.IsText, Value.exact, Extended.ofRatInjective.eq_iff]
      | real real =>
          refine ⟨_, rfl, ?_⟩
          rw [decide_eq_true_iff, Binary64.compareRatIsExact isNumeric, Option.some_inj,
            cmp_eq_eq_iff]
          exact ⟨fun same => ⟨not_false, same.symm⟩, fun same => same.2.symm⟩
      | decimal other =>
          match other, isNumeric with
          | .finite .., _ =>
              refine ⟨_, rfl, ?_⟩
              simp [Value.IsText, Value.exact, Extended.ofRatInjective.eq_iff]
      | text content => exact ⟨false, rfl, by simp [Value.IsText]⟩
      | _ => exact isNumeric.elim

theorem equalsOfDecimal {number : Decimal} :
    (Value.decimal number).Equals value ↔
      ¬ value.IsText ∧ Extended.ofRat number.toRat = value.exact := by
  constructor
  · rintro ⟨⟨-, notText⟩, same⟩
    exact ⟨fun isText => notText ⟨trivial, isText⟩, same⟩
  · rintro ⟨notText, same⟩
    exact ⟨⟨fun mixed => mixed.1, fun mixed => notText mixed.2⟩, same⟩

theorem equalsComm : first.Equals second ↔ second.Equals first := by
  have swap {one other : Value} (equals : one.Equals other) : other.Equals one :=
    ⟨⟨fun mixed => equals.comparable.2 mixed.symm, fun mixed => equals.comparable.1 mixed.symm⟩,
      equals.same.symm⟩
  exact ⟨swap, swap⟩

theorem equalityOfDecimal {number : Decimal} (isFinite : number.isFinite = true)
    (isSecond : second.IsNumeric) :
    ∃ holds, heap.looselyEqual (.decimal number) second = .ok holds ∧
      (holds = true ↔ (Value.decimal number).Equals second) := by
  have isExact :
      heap.looselyEqual (.decimal number) second = Value.equalsDecimal number second := by
    cases second <;> rfl
  rw [isExact, equalsOfDecimal]
  exact equalsDecimalIsExact isFinite isSecond

theorem equalityWithDecimal {number : Decimal} (isFirst : first.IsNumeric)
    (isFinite : number.isFinite = true) :
    ∃ holds, heap.looselyEqual first (.decimal number) = .ok holds ∧
      (holds = true ↔ first.Equals (.decimal number)) := by
  cases first with
  | decimal other => exact equalityOfDecimal isFirst isFinite
  | _ =>
      rw [equalsComm, equalsOfDecimal]
      exact equalsDecimalIsExact isFinite isFirst

theorem comparedAsNumbers (heap : Heap) {one two : Number}
    (hasNumber : ¬ (first.number? = none ∧ second.number? = none))
    (firstOperand : first.operand = .ok one) (secondOperand : second.operand = .ok two) :
    Heap.looselyEqual.compareAsNumbers heap first second =
      .ok (decide (one.compare? two = some .eq)) := by
  unfold Heap.looselyEqual.compareAsNumbers
  split
  case h_1 noFirst noSecond => exact (hasNumber ⟨noFirst, noSecond⟩).elim
  case h_2 =>
    rw [firstOperand, secondOperand]
    rfl

theorem numberOfOperand {number : Number} (isNumeric : value.IsNumeric)
    (notText : ¬ value.IsText) (notDecimal : ¬ value.IsDecimal)
    (isOperand : value.operand = .ok number) : value.number? = some number := by
  cases value with
  | bool value => exact congrArg some (Except.ok.inj isOperand)
  | int value => exact congrArg some (Except.ok.inj isOperand)
  | real value => exact congrArg some (Except.ok.inj isOperand)
  | decimal value => exact (notDecimal trivial).elim
  | text content => exact (notText trivial).elim
  | _ => exact isNumeric.elim

theorem equalityOfNumbers {one two : Number} (isFirst : first.number? = some one)
    (isSecond : second.number? = some two) :
    heap.looselyEqual first second = .ok (decide (one.compare? two = some .eq)) := by
  cases first with
  | bool value =>
      cases isFirst
      cases second <;> cases isSecond <;> rfl
  | int value =>
      cases isFirst
      cases second <;> cases isSecond <;> rfl
  | real number =>
      cases isFirst
      cases second <;> cases isSecond <;> rfl
  | _ => cases isFirst

/-- Without decimals, operands are equal if they are neither before nor behind each other. -/
theorem equalityOfOperands (isFirst : first.IsNumeric) (isSecond : second.IsNumeric)
    (notTexts : ¬ (first.IsText ∧ second.IsText)) (notDecimal : ¬ first.IsDecimal)
    (otherNotDecimal : ¬ second.IsDecimal) {one two : Number}
    (firstOperand : first.operand = .ok one) (secondOperand : second.operand = .ok two) :
    heap.looselyEqual first second = .ok (decide (one.compare? two = some .eq)) := by
  by_cases isText : first.IsText
  · have isNumber := numberOfOperand isSecond (fun isText' => notTexts ⟨isText, isText'⟩)
      otherNotDecimal secondOperand
    rw [← comparedAsNumbers heap (by simp [isNumber]) firstOperand secondOperand]
    cases first with
    | text content => cases second <;> rfl
    | _ => exact isText.elim
  · have isNumber := numberOfOperand isFirst isText notDecimal firstOperand
    by_cases otherIsText : second.IsText
    · rw [← comparedAsNumbers heap (by simp [isNumber]) firstOperand secondOperand]
      cases second with
      | text content => cases first <;> rfl
      | _ => exact otherIsText.elim
    · exact equalityOfNumbers isNumber
        (numberOfOperand isSecond otherIsText otherNotDecimal secondOperand)

theorem inRangeOfOther (notDecimal : ¬ value.IsDecimal) : value.IsInRange := by
  cases value with
  | decimal number => exact (notDecimal trivial).elim
  | _ => trivial

theorem roundedOfOther (notDecimal : ¬ value.IsDecimal) : value.rounded = value.exact := by
  cases value with
  | decimal number => exact (notDecimal trivial).elim
  | _ => rfl

theorem equalsOfOthers (notDecimal : ¬ first.IsDecimal) (otherNotDecimal : ¬ second.IsDecimal) :
    first.exact = second.exact ↔ first.Equals second := by
  constructor
  · intro same
    exact ⟨⟨fun mixed => otherNotDecimal mixed.2, fun mixed => notDecimal mixed.1⟩, same⟩
  · exact Value.Equals.same

theorem equalityIsExact (heap : Heap) (isFirst : first.IsNumeric) (isSecond : second.IsNumeric)
    (notTexts : ¬ (first.IsText ∧ second.IsText)) :
    ∃ holds, heap.looselyEqual first second = .ok holds ∧
      (holds = true ↔ first.Equals second) := by
  by_cases isDecimal : first.IsDecimal
  · cases first with
    | decimal number => exact equalityOfDecimal isFirst isSecond
    | _ => exact isDecimal.elim
  · by_cases otherIsDecimal : second.IsDecimal
    · cases second with
      | decimal number => exact equalityWithDecimal isFirst isSecond
      | _ => exact otherIsDecimal.elim
    · obtain ⟨one, firstOperand, oneIsNumber, oneIsRounded⟩ :=
        operandIsRounded isFirst (inRangeOfOther isDecimal)
      obtain ⟨two, secondOperand, twoIsNumber, twoIsRounded⟩ :=
        operandIsRounded isSecond (inRangeOfOther otherIsDecimal)
      refine ⟨_, equalityOfOperands isFirst isSecond notTexts isDecimal otherIsDecimal firstOperand
        secondOperand, ?_⟩
      rw [decide_eq_true_iff, Number.compareIsExact oneIsNumber twoIsNumber, Option.some_inj,
        cmp_eq_eq_iff, oneIsRounded, twoIsRounded, roundedOfOther isDecimal,
        roundedOfOther otherIsDecimal]
      exact equalsOfOthers isDecimal otherIsDecimal

/-! ### Coherence -/

/-- The operator gives true. -/
def Holds (heap : Heap) (operator : BinaryOperator) (first second : Value) : Prop :=
  applyBinary heap operator first second = .ok (.bool true)

theorem holdsIff {operator : BinaryOperator} {condition : Prop}
    (decided : ∃ holds, applyBinary heap operator first second = .ok (.bool holds) ∧
      (holds = true ↔ condition)) : Holds heap operator first second ↔ condition := by
  obtain ⟨holds, applied, isExact⟩ := decided
  rw [Holds, applied, ← isExact, Except.ok.injEq, Value.bool.injEq]

/-- One of the three holds exactly if the third condition is that both are the same. -/
theorem oneOfThreeIff {one two : Extended} {condition : Prop} :
    (one < two ∧ ¬ condition ∧ ¬ two < one) ∨ (¬ one < two ∧ condition ∧ ¬ two < one) ∨
      (¬ one < two ∧ ¬ condition ∧ two < one) ↔ (one = two ↔ condition) := by
  obtain isLess | isSame | isGreater := lt_trichotomy one two
  · simp [isLess, isLess.ne, isLess.not_gt]
  · simp [isSame]
  · simp [isGreater, isGreater.ne', isGreater.not_gt]

/-- An operand is before, equal to or behind another one, and the other two orders follow. -/
structure Coherent (heap : Heap) (first second : Value) : Prop where
  oneHolds :
    (Holds heap .less first second ∧ ¬ Holds heap .equal first second ∧
        ¬ Holds heap .greater first second) ∨
      (¬ Holds heap .less first second ∧ Holds heap .equal first second ∧
        ¬ Holds heap .greater first second) ∨
      (¬ Holds heap .less first second ∧ ¬ Holds heap .equal first second ∧
        Holds heap .greater first second)
  atMost : Holds heap .lessOrEqual first second ↔
    Holds heap .less first second ∨ Holds heap .equal first second
  atLeast : Holds heap .greaterOrEqual first second ↔ Holds heap .lessOrEqual second first

/-- Operands that are ordered as equal are equal, and equal ones are ordered so. -/
structure RoundsSafely (first second : Value) : Prop where
  inRange : first.IsInRange ∧ second.IsInRange
  sameEquality : first.rounded = second.rounded ↔ first.Equals second

section

variable (heap : Heap) (isFirst : first.IsNumeric) (isSecond : second.IsNumeric)
  (notTexts : ¬ (first.IsText ∧ second.IsText))

include isFirst isSecond notTexts

theorem orderInRange (isInRange : first.IsInRange ∧ second.IsInRange) {operator : BinaryOperator}
    (isOrder : IsOrder operator) :
    ∃ holds, applyBinary heap operator first second = .ok (.bool holds) ∧
      (holds = true ↔ Orders operator first.rounded second.rounded) := by
  obtain ⟨one, firstOperand, oneIsNumber, oneIsRounded⟩ := operandIsRounded isFirst isInRange.1
  obtain ⟨two, secondOperand, twoIsNumber, twoIsRounded⟩ := operandIsRounded isSecond isInRange.2
  refine ⟨_, applyOrder isOrder notTexts firstOperand secondOperand, ?_⟩
  rw [Number.compareIsExact oneIsNumber twoIsNumber, oneIsRounded, twoIsRounded]
  exact holdsOfCompared operator _ _

theorem orderOutOfRange (outOfRange : ¬ (first.IsInRange ∧ second.IsInRange))
    {operator : BinaryOperator} (isOrder : IsOrder operator) :
    applyBinary heap operator first second = .ok (.bool false) := by
  rw [← holdsOfMissing operator]
  by_cases isInRange : first.IsInRange
  · obtain ⟨one, firstOperand⟩ := hasOperand isFirst
    have secondOperand := operandOutOfRange isSecond fun otherInRange =>
      outOfRange ⟨isInRange, otherInRange⟩
    rw [applyOrder isOrder notTexts firstOperand secondOperand, (missingCompared one).2]
  · have firstOperand := operandOutOfRange isFirst isInRange
    obtain ⟨two, secondOperand⟩ := hasOperand isSecond
    rw [applyOrder isOrder notTexts firstOperand secondOperand, (missingCompared two).1]

theorem orderIsDecided {operator : BinaryOperator} (isOrder : IsOrder operator) :
    ∃ holds, applyBinary heap operator first second = .ok (.bool holds) ∧
      (holds = true ↔
        (first.IsInRange ∧ second.IsInRange) ∧ Orders operator first.rounded second.rounded) := by
  by_cases isInRange : first.IsInRange ∧ second.IsInRange
  · obtain ⟨holds, applied, isExact⟩ :=
      orderInRange heap isFirst isSecond notTexts isInRange isOrder
    exact ⟨holds, applied, by rw [isExact, and_iff_right isInRange]⟩
  · exact ⟨false, orderOutOfRange heap isFirst isSecond notTexts isInRange isOrder,
      by simp [isInRange]⟩

theorem equalityIsDecided :
    ∃ holds, applyBinary heap .equal first second = .ok (.bool holds) ∧
      (holds = true ↔ first.Equals second) := by
  obtain ⟨holds, compared, isExact⟩ := equalityIsExact heap isFirst isSecond notTexts
  refine ⟨holds, ?_, isExact⟩
  rw [applyBinary, compared]
  rfl

theorem holdsOrderIff {operator : BinaryOperator} (isOrder : IsOrder operator) :
    Holds heap operator first second ↔
      (first.IsInRange ∧ second.IsInRange) ∧ Orders operator first.rounded second.rounded :=
  holdsIff (orderIsDecided heap isFirst isSecond notTexts isOrder)

theorem holdsEqualIff : Holds heap .equal first second ↔ first.Equals second :=
  holdsIff (equalityIsDecided heap isFirst isSecond notTexts)

theorem coherentIff : Coherent heap first second ↔ RoundsSafely first second := by
  have isOrdered (operator : BinaryOperator) (isOrder : IsOrder operator) :=
    holdsOrderIff heap isFirst isSecond notTexts isOrder
  have less := isOrdered .less (by decide)
  have greater := isOrdered .greater (by decide)
  have atMost := isOrdered .lessOrEqual (by decide)
  have atLeast := isOrdered .greaterOrEqual (by decide)
  have atMostSwapped :=
    holdsOrderIff heap isSecond isFirst (fun texts => notTexts texts.symm)
      (by decide : IsOrder .lessOrEqual)
  have equal := holdsEqualIff heap isFirst isSecond notTexts
  constructor
  · rintro ⟨oneHolds, atMostIff, -⟩
    simp only [less, greater, equal, atMost, Orders] at oneHolds atMostIff
    have isInRange : first.IsInRange ∧ second.IsInRange := by
      -- Out of range nothing is ordered. So both are equal, but then the first is at most the second.
      by_contra outOfRange
      simp only [outOfRange, false_and, not_false_eq_true, true_and, and_true, and_false, or_false,
        false_or] at oneHolds atMostIff
      exact atMostIff.2 oneHolds
    simp only [isInRange, and_self, true_and] at oneHolds
    exact ⟨isInRange, oneOfThreeIff.1 oneHolds⟩
  · rintro ⟨isInRange, sameEquality⟩
    refine ⟨?_, ?_, ?_⟩
    · simp only [less, greater, equal, isInRange, Orders, and_self, true_and]
      exact oneOfThreeIff.2 sameEquality
    · simp only [less, equal, atMost, ← sameEquality, isInRange, Orders, and_self, true_and]
      exact le_iff_lt_or_eq
    · simp only [atLeast, atMostSwapped, isInRange, Orders, and_self, true_and]

end

/-- Rounding does not matter if there is nothing to round. -/
theorem roundsSafelyOfOthers (notDecimal : ¬ first.IsDecimal)
    (otherNotDecimal : ¬ second.IsDecimal) : RoundsSafely first second where
  inRange := ⟨inRangeOfOther notDecimal, inRangeOfOther otherNotDecimal⟩
  sameEquality := by
    rw [roundedOfOther notDecimal, roundedOfOther otherNotDecimal]
    exact equalsOfOthers notDecimal otherNotDecimal

/-- Two operands that stand for numbers, and are not both texts, are always compared. Their order
and their equality are coherent exactly if rounding the decimals among them is safe, and so always
if there is none. -/
theorem numbersCompareCoherently (heap : Heap) (isFirst : first.IsNumeric)
    (isSecond : second.IsNumeric) (notTexts : ¬ (first.IsText ∧ second.IsText)) :
    (∀ operator ∈ [.less, .equal, .greater, .lessOrEqual, .greaterOrEqual], ∃ holds,
        applyBinary heap operator first second = .ok (.bool holds)) ∧
      (Coherent heap first second ↔ RoundsSafely first second) ∧
      (¬ first.IsDecimal → ¬ second.IsDecimal → Coherent heap first second) := by
  have coherent := coherentIff heap isFirst isSecond notTexts
  refine ⟨fun operator isOperator => ?_, coherent, fun notDecimal otherNotDecimal =>
    coherent.2 (roundsSafelyOfOthers notDecimal otherNotDecimal)⟩
  by_cases isEqual : operator = .equal
  · obtain ⟨holds, applied, -⟩ := equalityIsDecided heap isFirst isSecond notTexts
    exact ⟨holds, isEqual ▸ applied⟩
  · have isOrder : IsOrder operator := by
      simpa [IsOrder, isEqual, or_left_comm] using isOperator
    obtain ⟨holds, applied, -⟩ := orderIsDecided heap isFirst isSecond notTexts isOrder
    exact ⟨holds, applied⟩

/-- The decimal of a half is equal to the real number, and neither before nor behind it. -/
theorem halvesCompareCoherently :
    (Value.decimal (.finite false 5 (-1))).IsNumeric ∧
      (Value.real (.finite false 4503599627370496 1021)).IsNumeric ∧
      Coherent .empty (.decimal (.finite false 5 (-1)))
        (.real (.finite false 4503599627370496 1021)) := by
  have isDecimal : (Value.decimal (.finite false 5 (-1))).IsNumeric := rfl
  have isReal : (Value.real (.finite false 4503599627370496 1021)).IsNumeric := rfl
  have isRounded : (Decimal.finite false 5 (-1)).toBinary64 =
      .finite false 4503599627370496 1021 := by
    decide +kernel
  have isExact : (Decimal.finite false 5 (-1)).toRat =
      (Binary64.finite false 4503599627370496 1021).toRat := by
    decide +kernel
  have safe : RoundsSafely (.decimal (.finite false 5 (-1)))
      (.real (.finite false 4503599627370496 1021)) := by
    refine ⟨⟨?_, trivial⟩, iff_of_true ?_ ⟨⟨fun mixed => mixed.2, fun mixed => mixed.2⟩, ?_⟩⟩
    · rw [Value.IsInRange, isRounded]
      rfl
    · simp only [Value.rounded, Value.exact, isRounded]
    · simp only [Value.exact, Binary64.extended, isExact]
  exact ⟨isDecimal, isReal,
    (numbersCompareCoherently .empty isDecimal isReal fun texts => texts.1).2.1.2 safe⟩

/-- A text is neither before nor behind the decimal of the same number, and it differs from it. -/
theorem textAndDecimalDisagree : ¬ ∀ (heap : Heap) (first second : Value), first.IsNumeric →
    second.IsNumeric → ¬ (first.IsText ∧ second.IsText) → Coherent heap first second := by
  intro allCoherent
  have isRead : (Value.text "0.5").toNumber? = .ok (some (.finite false 4503599627370496 1021)) := by
    decide +kernel
  have sameRounded :
      (Value.text "0.5").rounded = (Value.decimal (.finite false 5 (-1))).rounded := by
    decide +kernel
  have isText : (Value.text "0.5").IsNumeric := ⟨_, isRead⟩
  have isDecimal : (Value.decimal (.finite false 5 (-1))).IsNumeric := rfl
  have notTexts : ¬ ((Value.text "0.5").IsText ∧ (Value.decimal (.finite false 5 (-1))).IsText) :=
    fun texts => texts.2
  have coherent := allCoherent .empty _ _ isText isDecimal notTexts
  have safe := (coherentIff .empty isText isDecimal notTexts).1 coherent
  exact (safe.sameEquality.1 sameRounded).comparable.1 ⟨trivial, trivial⟩

end Script

end Letterpress
