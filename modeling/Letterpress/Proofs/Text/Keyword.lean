import Letterpress.Proofs.Text.Letter

/-!
This file describes how a keyword is spelled and when two keywords exclude each other.
-/

namespace Letterpress.Text

/-- The case of letters does not matter. -/
def SpellsKeyword (keyword : String) (word : List Char) : Prop :=
  word.map foldLetter = keyword.toList.map foldLetter

section

variable {keyword other : String} {characters word rest : List Char}

theorem SpellsKeyword.length (spells : SpellsKeyword keyword word) : word.length = keyword.length := by
  rw [← String.length_toList]
  simpa using congrArg List.length spells

theorem afterKeywordIff :
    afterKeyword? keyword characters = some rest ↔
      ∃ word, SpellsKeyword keyword word ∧ characters = word ++ rest := by
  constructor
  · intro found
    unfold afterKeyword? at found
    split at found
    case isTrue spells =>
      obtain rfl := Option.some.inj found
      exact ⟨_, spells, (List.take_append_drop ..).symm⟩
    case isFalse => exact nomatch found
  · rintro ⟨word, spells, rfl⟩
    rw [afterKeyword?, List.take_left' spells.length, List.drop_left' spells.length]
    exact if_pos spells

theorem SpellsKeyword.after (spells : SpellsKeyword keyword word) (rest : List Char) :
    afterKeyword? keyword (word ++ rest) = some rest :=
  afterKeywordIff.2 ⟨word, spells, rfl⟩

/-- A text begins with one keyword only, unless a keyword begins with another one. -/
theorem SpellsKeyword.apart (spells : SpellsKeyword keyword word)
    (apart : ¬ keyword.toList.map foldLetter <+: other.toList.map foldLetter)
    (otherApart : ¬ other.toList.map foldLetter <+: keyword.toList.map foldLetter)
    (rest : List Char) : afterKeyword? other (word ++ rest) = none := by
  rw [Option.eq_none_iff_forall_ne_some]
  intro after found
  obtain ⟨otherWord, spellsOther, same⟩ := afterKeywordIff.1 found
  have begins : word <+: otherWord ++ after := ⟨rest, same⟩
  rcases List.prefix_or_prefix_of_prefix begins (List.prefix_append otherWord after) with
    isPrefix | isPrefix
  · exact apart (spells ▸ spellsOther ▸ isPrefix.map foldLetter)
  · exact otherApart (spells ▸ spellsOther ▸ isPrefix.map foldLetter)

end

/-- Blanks are no letters. -/
theorem foldLetterBlank {character : Char} (blank : isBlank character = true) :
    foldLetter character = character := by
  unfold foldLetter
  split
  · exact absurd blank (by decide)
  · exact absurd blank (by decide)
  · exact absurd blank (by decide)
  · unfold Char.toLower
    split
    case isTrue isUpper =>
      have isAlpha : character.isAlpha = true := by
        simp only [ge_iff_le, UInt32.le_iff_toNat_le, Char.reduceVal, UInt32.reduceToNat] at isUpper
        exact isAlphaIff.2 (.inl isUpper)
      have isWord : isAsciiWord character = true := by
        simp [isAsciiWord, Char.isAlphanum, isAlpha]
      exact absurd blank (by simp [asciiWordNotBlank isWord])
    case isFalse => rfl

/-- Keywords have no blanks in them, in whatever case they are spelled. -/
theorem SpellsKeyword.notBlank {keyword : String} {word : List Char}
    (spells : SpellsKeyword keyword word)
    (noBlank : (keyword.toList.map foldLetter).all (!isBlank ·) = true) :
    ∀ character ∈ word, isBlank character = false := by
  intro character isInside
  rw [Bool.eq_false_iff]
  intro blank
  have isFolded : foldLetter character ∈ word.map foldLetter := List.mem_map_of_mem isInside
  rw [spells, foldLetterBlank blank] at isFolded
  exact absurd blank (by simpa using List.all_eq_true.1 noBlank character isFolded)

end Letterpress.Text
