import Letterpress.Text.Case
import Mathlib.Data.List.Basic
import Mathlib.Tactic.ByContra

/-!
This file compares the end of a text with the end of its lower case. Lowering may lengthen a text,
and a capital sigma looks at its neighbours, but an end in ASCII comes from as many characters.
-/

namespace Letterpress.Text

/-- All characters are ASCII characters. -/
def IsAscii (text : List Char) : Prop := ∀ character ∈ text, character.toNat < 128

theorem isAsciiCons {character : Char} {text : List Char} :
    IsAscii (character :: text) ↔ character.toNat < 128 ∧ IsAscii text := List.forall_mem_cons

theorem isAsciiAppend {first second : List Char} :
    IsAscii (first ++ second) ↔ IsAscii first ∧ IsAscii second := List.forall_mem_append

/-- The lower case of one character that stands between others. -/
def lowerBetween (before after : List Char) (character : Char) : List Char :=
  if character = 'Σ' then [lowerSigma before after] else lowerCharacter character

theorem lowerFromCons (before : List Char) (character : Char) (rest : List Char) :
    lowerFrom before (character :: rest) =
      lowerBetween before rest character ++ lowerFrom (character :: before) rest := rfl

/-- What follows a beginning is lowered as if the beginning had been passed. -/
theorem lowerFromAppend (before first second : List Char) : ∃ front,
    lowerFrom before (first ++ second) = front ++ lowerFrom (first.reverse ++ before) second := by
  induction first generalizing before with
  | nil => exact ⟨[], rfl⟩
  | cons character first inductionHypothesis =>
      obtain ⟨front, same⟩ := inductionHypothesis (character :: before)
      refine ⟨lowerBetween before (first ++ second) character ++ front, ?_⟩
      rw [List.cons_append, lowerFromCons, same, List.append_assoc, List.reverse_cons,
        List.append_assoc, List.singleton_append]

/-! ### Characters -/

theorem asciiNotSigma {character : Char} (ascii : character.toNat < 128) : character ≠ 'Σ' := by
  rintro rfl
  exact absurd ascii (by decide)

theorem lowerOfAscii {character : Char} (ascii : character.toNat < 128) (before after : List Char) :
    lowerBetween before after character = [character.toLower] := by
  rw [lowerBetween, if_neg (asciiNotSigma ascii), lowerCharacter, if_pos ascii]

/-- The end of an image lies outside of ASCII. -/
def EndsOutside (image : List Char) : Prop := ∃ front last, image = front ++ [last] ∧ 128 ≤ last.toNat

/-- An end in ASCII holds nothing of such an image. -/
theorem EndsOutside.asciiEnd {whole front image : List Char} (outside : EndsOutside whole)
    (same : whole = front ++ image) (ascii : IsAscii image) : image = [] := by
  obtain ⟨others, last, rfl, isOutside⟩ := outside
  obtain rfl | ⟨beginning, final, rfl⟩ := List.eq_nil_or_concat' image
  · rfl
  · rw [← List.append_assoc] at same
    have sameLast : last = final := List.singleton_inj.1 (List.append_inj_right' same rfl)
    have isAscii := ascii final (List.mem_append_right beginning (List.mem_singleton_self final))
    rw [← sameLast] at isAscii
    omega

theorem EndsOutside.notAscii {image : List Char} (outside : EndsOutside image) : ¬ IsAscii image := by
  intro ascii
  have isEmpty := outside.asciiEnd (List.nil_append image).symm ascii
  obtain ⟨front, last, isImage, -⟩ := outside
  simp [isImage] at isEmpty

/-- A map replaces a character by one other, or by an expansion. -/
theorem CaseMap.applyImage (map : CaseMap) (character : Char) :
    (∃ image, map.apply character = [image]) ∨
      map.expansions.lookup character.toNat = some (map.apply character) := by
  unfold apply
  split
  case h_1 image isExpansion => exact .inr isExpansion
  case h_2 =>
    split
    case h_1 => exact .inl ⟨_, rfl⟩
    case h_2 => exact .inl ⟨_, rfl⟩

/-- If several characters stand for one, the last of them is no ASCII character. -/
theorem expansionEndsOutside {code : Nat} {image : List Char}
    (isExpansion : Table.lower.expansions.lookup code = some image) : EndsOutside image := by
  have allOutside : ∀ entry ∈ Table.lower.expansions,
      128 ≤ (entry.2.getLast?.elim 0 Char.toNat) := by decide +kernel
  obtain ⟨before, after, split, -⟩ := List.lookup_eq_some_iff.1 isExpansion
  have isOutside := allOutside (code, image) (by simp [split])
  obtain rfl | ⟨front, last, rfl⟩ := List.eq_nil_or_concat' image
  · exact absurd isOutside (Nat.not_succ_le_zero 127)
  · exact ⟨front, last, rfl, by simpa using isOutside⟩

/-- A character becomes one character wherever it stands, or its image ends outside of ASCII. -/
theorem lowerImage (character : Char) :
    (∃ image, ∀ before after, lowerBetween before after character = [image]) ∨
      ∀ before after, EndsOutside (lowerBetween before after character) := by
  by_cases isSigma : character = 'Σ'
  · refine .inr fun before after => ⟨[], lowerSigma before after, by simp [lowerBetween, isSigma], ?_⟩
    rw [lowerSigma]
    split <;> decide
  · have lowered : ∀ before after, lowerBetween before after character = lowerCharacter character :=
      fun _ _ => if_neg isSigma
    simp only [lowered]
    by_cases isAscii : character.toNat < 128
    · exact .inl ⟨character.toLower, fun _ _ => if_pos isAscii⟩
    · rw [lowerCharacter, if_neg isAscii]
      exact (Table.lower.applyImage character).imp (fun ⟨image, single⟩ => ⟨image, fun _ _ => single⟩)
        fun isExpansion _ _ => expansionEndsOutside isExpansion

/-! ### Ends -/

/-- ASCII characters are lowered one by one. -/
theorem lowerFromAscii {text : List Char} (ascii : IsAscii text) (before : List Char) :
    lowerFrom before text = text.map Char.toLower := by
  induction text generalizing before with
  | nil => rfl
  | cons character rest inductionHypothesis =>
      obtain ⟨isAscii, asciiRest⟩ := isAsciiCons.1 ascii
      rw [lowerFromCons, lowerOfAscii isAscii, inductionHypothesis asciiRest]
      rfl

theorem asciiToLower {text : List Char} (ascii : IsAscii text) : IsAscii (text.map Char.toLower) := by
  have allCodes : ∀ code < 128, (Char.ofNat code).toLower.toNat < 128 := by decide
  refine List.forall_mem_map.2 fun character isInside => ?_
  rw [← Char.ofNat_toNat character]
  exact allCodes character.toNat (ascii character isInside)

/-- If the lower case is ASCII, each of its characters comes from one character, wherever that
stands. -/
theorem lowerToAscii {before text : List Char} (ascii : IsAscii (lowerFrom before text)) :
    (lowerFrom before text).length = text.length ∧
      ∀ other, lowerFrom other text = lowerFrom before text := by
  induction text generalizing before with
  | nil => exact ⟨rfl, fun _ => rfl⟩
  | cons character rest inductionHypothesis =>
      rw [lowerFromCons, isAsciiAppend] at ascii
      obtain ⟨asciiImage, asciiRest⟩ := ascii
      obtain ⟨sameLength, sameRest⟩ := inductionHypothesis asciiRest
      obtain ⟨image, single⟩ | outside := lowerImage character
      · refine ⟨by simp [lowerFromCons, single, sameLength], fun other => ?_⟩
        rw [lowerFromCons, lowerFromCons, single, single, sameRest (character :: other)]
      · exact absurd asciiImage (outside before rest).notAscii

/-- An end in ASCII is the lower case of an end of the text. -/
theorem asciiEnd {before text front ending : List Char} (ascii : IsAscii ending)
    (same : lowerFrom before text = front ++ ending) :
    ∃ stem rest, text = stem ++ rest ∧ lowerFrom (stem.reverse ++ before) rest = ending := by
  induction text generalizing before front with
  | nil =>
      obtain ⟨-, rfl⟩ := List.append_eq_nil_iff.1 same.symm
      exact ⟨[], [], rfl, rfl⟩
  | cons character rest inductionHypothesis =>
      have whole := same
      rw [lowerFromCons] at same
      obtain ⟨remaining, -, sameRest⟩ | ⟨middle, isImage, isEnding⟩ :=
        List.append_eq_append_iff.1 same
      -- The end begins after the image of the character.
      · obtain ⟨stem, others, rfl, lowered⟩ := inductionHypothesis sameRest
        exact ⟨character :: stem, others, rfl, by simpa using lowered⟩
      -- It begins within the image, which is possible only at its beginning.
      · rw [isEnding, isAsciiAppend] at ascii
        obtain rfl | ⟨others, last, rfl⟩ := front.eq_nil_or_concat'
        · exact ⟨[], character :: rest, rfl, whole⟩
        · have isEmpty : middle = [] := by
            obtain ⟨image, single⟩ | outside := lowerImage character
            · rw [single] at isImage
              have lengths : 1 = others.length + (middle.length + 1) := by
                simpa using congrArg List.length isImage
              exact List.eq_nil_of_length_eq_zero (by omega)
            · exact (outside before rest).asciiEnd isImage ascii.1
          subst isEmpty
          exact ⟨[character], rest, rfl, isEnding.symm⟩

end Letterpress.Text
