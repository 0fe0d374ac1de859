import Letterpress.Text.Blank
import Letterpress.Text.Keyword
import Letterpress.Text.Letter
import Mathlib.Data.List.TakeWhile
import Mathlib.Tactic.ByContra

/-!
This file tells blanks, decimal digits and the letters of identifiers apart, and it shows what
stripping leaves.
-/

namespace Letterpress.Text

/-! ### Blanks -/

theorem stripRightSubset (characters : List Char) : stripRight characters ⊆ characters := by
  intro character isInside
  rw [stripRight, List.mem_reverse] at isInside
  exact List.mem_reverse.1 ((List.dropWhile_sublist _).mem isInside)

theorem stripListSubset (characters : List Char) : stripList characters ⊆ characters :=
  fun _ isInside => (List.dropWhile_sublist _).mem (stripRightSubset _ isInside)

/-- No blank is left at the end. -/
theorem stripListLast {characters : List Char} {last : Char}
    (isLast : (stripList characters).getLast? = some last) : isBlank last = false := by
  rw [stripList, stripRight, List.getLast?_reverse] at isLast
  have notBlank := List.head?_dropWhile_not isBlank (characters.dropWhile isBlank).reverse
  rw [isLast] at notBlank
  exact notBlank

/-- A text that neither begins nor ends with a blank is stripped already. -/
theorem stripListOfEnds {characters : List Char}
    (first : ∀ character, characters.head? = some character → isBlank character = false)
    (last : ∀ character, characters.getLast? = some character → isBlank character = false) :
    stripList characters = characters := by
  have dropNone (text : List Char)
      (begins : ∀ character, text.head? = some character → isBlank character = false) :
      text.dropWhile isBlank = text := by
    cases text with
    | nil => rfl
    | cons character rest =>
        exact List.dropWhile_cons_of_neg (by simp [begins character rfl])
  rw [stripList, dropNone characters first, stripRight, dropNone characters.reverse, List.reverse_reverse]
  simpa using last

/-- Blanks at both ends are stripped up to a text that has none there. -/
theorem stripListBetween {front middle back : List Char}
    (blankFront : ∀ character ∈ front, isBlank character = true)
    (blankBack : ∀ character ∈ back, isBlank character = true)
    (first : ∀ character, middle.head? = some character → isBlank character = false)
    (last : ∀ character, middle.getLast? = some character → isBlank character = false) :
    stripList (front ++ (middle ++ back)) = middle := by
  rw [stripList, List.dropWhile_append_of_pos blankFront]
  cases middle with
  | nil =>
      rw [List.nil_append, ← List.append_nil back, List.dropWhile_append_of_pos blankBack]
      rfl
  | cons character rest =>
      have kept : (character :: rest ++ back).dropWhile isBlank = character :: rest ++ back :=
        List.dropWhile_cons_of_neg (by simp [first character rfl])
      have blankReversed : ∀ blank ∈ back.reverse, isBlank blank = true := by
        simpa using blankBack
      have stripped := stripListOfEnds first last
      rw [stripList, List.dropWhile_cons_of_neg (by simp [first character rfl])] at stripped
      rw [kept, stripRight, List.reverse_append, List.dropWhile_append_of_pos blankReversed]
      exact stripped

/-- No blank is left at the beginning. -/
theorem stripListFirst {characters : List Char} {first : Char}
    (isFirst : (stripList characters).head? = some first) : isBlank first = false := by
  have isPrefix : stripList characters <+: characters.dropWhile isBlank := by
    rw [stripList, stripRight, ← List.reverse_suffix, List.reverse_reverse]
    exact List.dropWhile_suffix _
  have notBlank := List.head?_dropWhile_not isBlank characters
  obtain ⟨rest, whole⟩ := isPrefix
  rw [← whole, List.head?_append, isFirst] at notBlank
  exact notBlank

theorem stripRightSource (characters : List Char) :
    ∃ back, characters = stripRight characters ++ back ∧ ∀ character ∈ back, isBlank character = true := by
  refine ⟨(characters.reverse.takeWhile isBlank).reverse, ?_, fun _ isInside =>
    List.mem_takeWhile_imp (List.mem_reverse.1 isInside)⟩
  rw [stripRight, ← List.reverse_append, List.takeWhile_append_dropWhile, List.reverse_reverse]

/-- Stripping takes blanks off both ends. -/
theorem stripListSource (characters : List Char) :
    ∃ front back, characters = front ++ (stripList characters ++ back) ∧
      (∀ character ∈ front, isBlank character = true) ∧
        ∀ character ∈ back, isBlank character = true := by
  obtain ⟨back, same, blankBack⟩ := stripRightSource (characters.dropWhile isBlank)
  refine ⟨characters.takeWhile isBlank, back, ?_, fun _ => List.mem_takeWhile_imp, blankBack⟩
  rw [stripList, ← same, List.takeWhile_append_dropWhile]

/-! ### Letters -/

def blankRanges : List (Nat × Nat) :=
  [(0x9, 0xd), (0x1c, 0x20), (0x85, 0x85), (0xa0, 0xa0), (0x1680, 0x1680), (0x2000, 0x200a),
    (0x2028, 0x2029), (0x202f, 0x202f), (0x205f, 0x205f), (0x3000, 0x3000)]

theorem blankInRange {character : Char} (blank : isBlank character = true) :
    ∃ range ∈ blankRanges, range.1 ≤ character.toNat ∧ character.toNat ≤ range.2 := by
  simp only [isBlank, Bool.or_eq_true, Bool.and_eq_true, decide_eq_true_eq] at blank
  simp only [blankRanges, List.mem_cons, List.not_mem_nil, or_false, exists_eq_or_imp,
    exists_eq_left]
  omega

/-- A set without blanks has no range that meets one of theirs. -/
def CodeRanges.avoidsBlanks (set : CodeRanges) : Bool :=
  set.ranges.all fun range =>
    blankRanges.all fun blanks => range.2 < blanks.1 || blanks.2 < range.1

theorem CodeRanges.notBlank {set : CodeRanges} (avoids : set.avoidsBlanks = true)
    {character : Char} (contained : set.contains character = true) : isBlank character = false := by
  rw [Bool.eq_false_iff]
  intro blank
  obtain ⟨blanks, isRange, lower, upper⟩ := blankInRange blank
  obtain ⟨range, isInside, within⟩ := List.any_eq_true.1 contained
  have apart := List.all_eq_true.1 (List.all_eq_true.1 avoids range isInside) blanks isRange
  simp only [Bool.and_eq_true, Bool.or_eq_true, decide_eq_true_eq] at within apart
  omega

theorem identifierStartAvoidsBlanks : Table.identifierStart.avoidsBlanks = true := by
  decide +kernel

theorem identifierContinueAvoidsBlanks : Table.identifierContinue.avoidsBlanks = true := by
  decide +kernel

theorem isAlphaIff {character : Char} : character.isAlpha = true ↔
    (65 ≤ character.toNat ∧ character.toNat ≤ 90) ∨
      (97 ≤ character.toNat ∧ character.toNat ≤ 122) := by
  have isUpperIff : character.isUpper = true ↔ 65 ≤ character.toNat ∧ character.toNat ≤ 90 :=
    decide_eq_true_iff
  have isLowerIff : character.isLower = true ↔ 97 ≤ character.toNat ∧ character.toNat ≤ 122 :=
    Bool.and_eq_true_iff.trans (and_congr decide_eq_true_iff decide_eq_true_iff)
  rw [← isUpperIff, ← isLowerIff]
  exact Bool.or_eq_true_iff

theorem isDigitIff {character : Char} :
    character.isDigit = true ↔ 48 ≤ character.toNat ∧ character.toNat ≤ 57 :=
  Bool.and_eq_true_iff.trans (and_congr decide_eq_true_iff decide_eq_true_iff)

theorem isAlphanumIff {character : Char} : character.isAlphanum = true ↔
    ((65 ≤ character.toNat ∧ character.toNat ≤ 90) ∨
      (97 ≤ character.toNat ∧ character.toNat ≤ 122)) ∨
        (48 ≤ character.toNat ∧ character.toNat ≤ 57) := by
  rw [← isAlphaIff, ← isDigitIff]
  exact Bool.or_eq_true_iff

theorem asciiWordBounds {character : Char} (isWord : isAsciiWord character = true) :
    48 ≤ character.toNat ∧ character.toNat < 128 := by
  rw [isAsciiWord, Bool.or_eq_true, decide_eq_true_eq, isAlphanumIff] at isWord
  obtain isAlphanum | rfl := isWord
  · omega
  · decide

/-- A blank is no letter, no digit and no underscore. -/
theorem asciiWordNotBlank {character : Char} (isWord : isAsciiWord character = true) :
    isBlank character = false := by
  obtain ⟨lower, upper⟩ := asciiWordBounds isWord
  simp only [isBlank, Bool.or_eq_false_iff, Bool.and_eq_false_iff, decide_eq_false_iff_not]
  omega

theorem alphanumericAvoidsBlanks : Table.alphanumeric.avoidsBlanks = true := by
  decide +kernel

theorem wordNotBlank {character : Char} (isWord : isWord character = true) :
    isBlank character = false := by
  unfold Text.isWord at isWord
  split at isWord
  · exact asciiWordNotBlank isWord
  · exact CodeRanges.notBlank alphanumericAvoidsBlanks isWord

/-- The characters of a segment are the ones that may open it and the ones that may follow. -/
def isSegmentCharacter (character : Char) : Bool :=
  isSegmentStart character || isSegmentContinue character

theorem asciiWordInSegment {character : Char} (isWord : isAsciiWord character = true) :
    isSegmentCharacter character = true := by
  have isAscii := (asciiWordBounds isWord).2
  simp [isSegmentCharacter, isSegmentContinue, isIdentifierContinue, isAscii, isWord]

theorem asciiIdentifierStart {character : Char} (isAscii : character.toNat < 128)
    (starts : isIdentifierStart character = true) : isAsciiWord character = true := by
  rw [isIdentifierStart, if_pos isAscii] at starts
  simp only [isAsciiWord, Char.isAlphanum, Bool.or_eq_true] at starts ⊢
  exact starts.imp_left .inl

theorem identifierStartNotBlank {character : Char} (starts : isIdentifierStart character = true) :
    isBlank character = false := by
  by_cases isAscii : character.toNat < 128
  · exact asciiWordNotBlank (asciiIdentifierStart isAscii starts)
  · rw [isIdentifierStart, if_neg isAscii] at starts
    exact CodeRanges.notBlank identifierStartAvoidsBlanks starts

theorem identifierContinueNotBlank {character : Char}
    (continues : isIdentifierContinue character = true) : isBlank character = false := by
  unfold isIdentifierContinue at continues
  split at continues
  · exact asciiWordNotBlank continues
  · exact CodeRanges.notBlank identifierContinueAvoidsBlanks continues

theorem segmentCharacterNotBlank {character : Char}
    (inSegment : isSegmentCharacter character = true) : isBlank character = false := by
  simp only [isSegmentCharacter, isSegmentStart, isSegmentContinue, Bool.or_eq_true,
    decide_eq_true_eq] at inSegment
  obtain (rfl | starts) | (((rfl | rfl) | rfl) | continues) := inSegment
  · decide
  · exact identifierStartNotBlank starts
  · decide
  · decide
  · decide
  · exact identifierContinueNotBlank continues

theorem segmentCharacters {text : String} (isSegment : isIdentifierSegment text = true) :
    text.toList ≠ [] ∧ ∀ character ∈ text.toList, isSegmentCharacter character = true := by
  unfold isIdentifierSegment at isSegment
  split at isSegment
  case h_1 => exact nomatch isSegment
  case h_2 first rest same =>
    rw [same]
    obtain ⟨starts, continues⟩ := Bool.and_eq_true_iff.1 isSegment
    refine ⟨List.cons_ne_nil _ _, List.forall_mem_cons.2 ⟨?_, ?_⟩⟩
    · simp [isSegmentCharacter, starts]
    · intro character isInside
      simp [isSegmentCharacter, List.all_eq_true.1 continues character isInside]

/-! ### Digits -/

/-- A set without decimal digits has no range that meets the ten digits of a script. -/
def CodeRanges.avoidsDigits (set : CodeRanges) : Bool :=
  set.ranges.all fun range =>
    Table.decimalZeros.ranges.all fun digits =>
      Nat.blt range.2 digits.1 || Nat.blt (digits.1 + 9) range.1

/-- The ten digits of each script lie in one range of the set. -/
def CodeRanges.holdsDigits (set : CodeRanges) : Bool :=
  Table.decimalZeros.ranges.all fun digits =>
    set.ranges.any fun range => Nat.ble range.1 digits.1 && Nat.ble (digits.1 + 9) range.2

theorem identifierStartAvoidsDigits : Table.identifierStart.avoidsDigits = true := by
  decide +kernel

theorem alphanumericHoldsDigits : Table.alphanumeric.holdsDigits = true := by
  decide +kernel

/-- A decimal digit outside of ASCII is one of the ten digits of a script. -/
theorem decimalInRange {character : Char} (notAscii : ¬ character.toNat < 128)
    (decimal : isDecimal character = true) :
    ∃ digits ∈ Table.decimalZeros.ranges,
      digits.1 ≤ character.toNat ∧ character.toNat ≤ digits.1 + 9 := by
  rw [isDecimal, decimalValue?, if_neg notAscii, Option.isSome_map, List.find?_isSome] at decimal
  obtain ⟨digits, isInside, within⟩ := decimal
  exact ⟨digits, isInside, by simpa using within⟩

theorem asciiDecimal {character : Char} (isAscii : character.toNat < 128)
    (decimal : isDecimal character = true) : character.isDigit = true := by
  rw [isDecimal, decimalValue?, if_pos isAscii] at decimal
  split at decimal
  case isTrue isDigit => exact isDigit
  case isFalse => exact nomatch decimal

/-- No identifier begins with a decimal digit. -/
theorem identifierStartNotDecimal {character : Char}
    (starts : isIdentifierStart character = true) : isDecimal character = false := by
  rw [Bool.eq_false_iff]
  intro decimal
  by_cases isAscii : character.toNat < 128
  · have isDigit := asciiDecimal isAscii decimal
    rw [isIdentifierStart, if_pos isAscii, Bool.or_eq_true, decide_eq_true_eq] at starts
    obtain isAlpha | rfl := starts
    · rw [isAlphaIff] at isAlpha
      rw [isDigitIff] at isDigit
      omega
    · exact nomatch isDigit
  · rw [isIdentifierStart, if_neg isAscii] at starts
    obtain ⟨digits, isDigits, lower, upper⟩ := decimalInRange isAscii decimal
    obtain ⟨range, isInside, within⟩ := List.any_eq_true.1 starts
    have apart := List.all_eq_true.1
      (List.all_eq_true.1 identifierStartAvoidsDigits range isInside) digits isDigits
    simp only [Bool.and_eq_true, Bool.or_eq_true, decide_eq_true_eq, Nat.blt_eq] at within apart
    omega

/-- Every decimal digit belongs to words. -/
theorem decimalIsWord {character : Char} (decimal : isDecimal character = true) :
    isWord character = true := by
  by_cases isAscii : character.toNat < 128
  · rw [isWord, if_pos isAscii, isAsciiWord, Char.isAlphanum, asciiDecimal isAscii decimal,
      Bool.or_true, Bool.true_or]
  · obtain ⟨digits, isDigits, lower, upper⟩ := decimalInRange isAscii decimal
    obtain ⟨range, isInside, covers⟩ :=
      List.any_eq_true.1 (List.all_eq_true.1 alphanumericHoldsDigits digits isDigits)
    simp only [Bool.and_eq_true, Nat.ble_eq] at covers
    rw [isWord, if_neg isAscii]
    refine List.any_eq_true.2 ⟨range, isInside, ?_⟩
    simp only [Bool.and_eq_true, decide_eq_true_eq]
    omega

/-- Letters of a segment that belong to no word lie outside of ASCII. -/
theorem strangerNotAscii {character : Char} (inSegment : isSegmentCharacter character = true)
    (notDollar : character ≠ '$') (notWord : isWord character = false) :
    128 ≤ character.toNat := by
  by_contra isAscii
  rw [Nat.not_le] at isAscii
  rw [isWord, if_pos isAscii, Bool.eq_false_iff] at notWord
  simp only [isSegmentCharacter, isSegmentStart, isSegmentContinue, Bool.or_eq_true,
    decide_eq_true_eq] at inSegment
  obtain (isDollar | starts) | (((isDollar | rfl) | rfl) | continues) := inSegment
  · exact notDollar isDollar
  · exact notWord (asciiIdentifierStart isAscii starts)
  · exact notDollar isDollar
  · exact absurd isAscii (by decide)
  · exact absurd isAscii (by decide)
  · rw [isIdentifierContinue, if_pos isAscii] at continues
    exact notWord continues

/-! ### Keywords -/

/-- Only the hyphen itself counts as a hyphen. -/
theorem foldLetterHyphen {character : Char} (folded : foldLetter character = '-') :
    character = '-' := by
  unfold foldLetter at folded
  split at folded
  · exact absurd folded (by decide)
  · exact absurd folded (by decide)
  · exact absurd folded (by decide)
  · unfold Char.toLower at folded
    split at folded
    case isTrue isUpper =>
      have sameCode := congrArg (fun letter => letter.val.toNat) folded
      simp only [ge_iff_le, UInt32.le_iff_toNat_le, Char.reduceVal, UInt32.reduceToNat] at isUpper
      simp only [UInt32.toNat_add, Char.reduceVal, UInt32.reduceToNat, UInt32.reduceSub] at sameCode
      omega
    case isFalse => exact folded

end Letterpress.Text
