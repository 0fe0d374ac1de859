import Letterpress.Part.Collapsing
import Letterpress.Proofs.Part.Holding
import Letterpress.Proofs.Text.Keyword
import Letterpress.Proofs.Text.Search
import Letterpress.Proofs.Text.Splitting

/-!
This file takes apart the texts that collapse. Such a text is one command with blanks around it, and
the command begins with the keyword of a block.
-/

namespace Letterpress.Part

/-- These keywords begin and end the blocks. -/
def blockKeywords : List String := ["FOR", "END-FOR", "IF", "END-IF"]

section

variable {text characters : List Char}

theorem startsWithBlockKeywordIff :
    startsWithBlockKeyword characters = true ↔
      ∃ keyword ∈ blockKeywords, ∃ word rest, Text.SpellsKeyword keyword word ∧
        endsWord rest = true ∧ characters = word ++ rest := by
  rw [startsWithBlockKeyword, List.any_eq_true]
  refine exists_congr fun keyword => and_congr_right fun _ => ?_
  constructor
  · intro found
    cases after : Text.afterKeyword? keyword characters with
    | none =>
        rw [after] at found
        exact nomatch found
    | some rest =>
        rw [after] at found
        obtain ⟨word, spells, same⟩ := Text.afterKeywordIff.1 after
        exact ⟨word, rest, spells, found, same⟩
  · rintro ⟨word, rest, spells, ends, rfl⟩
    rw [spells.after]
    exact ends

/-- No keyword of a block has a blank in it. -/
theorem blockKeywordNotBlank {keyword : String} {word : List Char} (isBlock : keyword ∈ blockKeywords)
    (spells : Text.SpellsKeyword keyword word) :
    ∀ character ∈ word, Text.isBlank character = false := by
  have noBlanks : blockKeywords.all (fun keyword =>
      (keyword.toList.map Text.foldLetter).all (!Text.isBlank ·)) = true := by decide +kernel
  exact spells.notBlank (List.all_eq_true.1 noBlanks keyword isBlock)

theorem blockKeywordNotEmpty {keyword : String} {word : List Char} (isBlock : keyword ∈ blockKeywords)
    (spells : Text.SpellsKeyword keyword word) : word ≠ [] := by
  have notEmpty : ∀ keyword ∈ blockKeywords, keyword.length ≠ 0 := by decide
  rintro rfl
  exact notEmpty keyword isBlock spells.length.symm

theorem blanksNoBrace (blank : ∀ character ∈ text, Text.isBlank character = true) : NoBrace text := by
  intro character isInside
  have isBlank := blank character isInside
  unfold isBrace
  rw [Bool.or_eq_false_iff, decide_eq_false_iff_not, decide_eq_false_iff_not]
  constructor <;> rintro rfl <;> exact nomatch isBlank

theorem endsWordBlank {back : List Char} (blank : ∀ character ∈ back, Text.isBlank character = true) :
    endsWord back = true := by
  cases back with
  | nil => rfl
  | cons first others =>
      have isBlank := blank first (List.mem_cons_self ..)
      simp only [endsWord, Bool.not_eq_true', Bool.eq_false_iff]
      intro isWord
      exact absurd isBlank (by simp [Text.wordNotBlank isWord])

/-- The blanks at the end do not matter for the keyword. -/
theorem startsStripped :
    startsWithBlockKeyword (Text.stripRight characters) = true ↔
      startsWithBlockKeyword characters = true := by
  obtain ⟨back, same, blank⟩ := Text.stripRightSource characters
  generalize Text.stripRight characters = stripped at same ⊢
  subst same
  rw [startsWithBlockKeywordIff, startsWithBlockKeywordIff]
  refine exists_congr fun keyword => and_congr_right fun isBlock => ?_
  constructor
  · rintro ⟨word, rest, spells, ends, rfl⟩
    refine ⟨word, rest ++ back, spells, ?_, List.append_assoc ..⟩
    cases rest with
    | nil => exact endsWordBlank blank
    | cons next others => exact ends
  · rintro ⟨word, rest, spells, ends, same⟩
    obtain ⟨others, rfl, sameBack⟩ | ⟨others, rfl, rfl⟩ := List.append_eq_append_iff.1 same
    · cases others with
      | nil => exact ⟨_, [], spells, rfl, by simp⟩
      | cons first others =>
          have notBlank := blockKeywordNotBlank isBlock spells first (by simp)
          rw [blank first (by simp [sameBack])] at notBlank
          exact nomatch notBlank
    · refine ⟨word, others, spells, ?_, rfl⟩
      cases others with
      | nil => rfl
      | cons next others => exact ends

/-- A command with a keyword does not become empty when it is stripped. -/
theorem structuralNotEmpty (starts : startsWithBlockKeyword (characters.dropWhile Text.isBlank) = true) :
    Text.stripList characters ≠ [] := by
  obtain ⟨keyword, isBlock, word, rest, spells, -, same⟩ :=
    startsWithBlockKeywordIff.1 (startsStripped.2 starts)
  intro isEmpty
  exact blockKeywordNotEmpty isBlock spells (List.append_eq_nil_iff.1 (same.symm.trans isEmpty)).1

/-- What stands in a command are the characters but the braces. -/
theorem noBraceIff :
    NoBrace text ↔ ∀ character ∈ text,
      (decide (character ≠ '\x7b') && decide (character ≠ '\x7d')) = true := by
  refine forall₂_congr fun character _ => ?_
  rw [isBrace, Bool.or_eq_false_iff, Bool.and_eq_true, decide_eq_false_iff_not,
    decide_eq_false_iff_not, decide_eq_true_eq, decide_eq_true_eq]

theorem stripAround {front inside back : List Char}
    (blankFront : ∀ character ∈ front, Text.isBlank character = true)
    (blankBack : ∀ character ∈ back, Text.isBlank character = true) :
    Text.stripList (front ++ '\x7b' :: (inside ++ '\x7d' :: back)) = '\x7b' :: (inside ++ ['\x7d']) := by
  have between : Text.stripList (front ++ (('\x7b' :: inside ++ ['\x7d']) ++ back)) =
      '\x7b' :: inside ++ ['\x7d'] :=
    Text.stripListBetween blankFront blankBack (by rintro _ ⟨rfl⟩; decide)
      (by rw [List.getLast?_concat]; rintro _ ⟨rfl⟩; decide)
  simpa using between

/-- A structural text is one command without inner braces, and its keyword is that of a block. -/
theorem structuralIff :
    isStructural text = true ↔
      ∃ front inside back, text = front ++ '\x7b' :: (inside ++ '\x7d' :: back) ∧
        (∀ character ∈ front, Text.isBlank character = true) ∧
        (∀ character ∈ back, Text.isBlank character = true) ∧ NoBrace inside ∧
        startsWithBlockKeyword (inside.dropWhile Text.isBlank) = true := by
  constructor
  · intro structural
    unfold isStructural at structural
    split at structural
    case h_1 afterOpening stripped =>
      obtain ⟨inside, rest, rfl, taken, dropped, admitted, -⟩ := Text.spanAdmitted
        (fun character => decide (character ≠ '\x7b') && decide (character ≠ '\x7d')) afterOpening
      simp only [taken, dropped, Bool.and_eq_true, decide_eq_true_eq] at structural
      obtain ⟨rfl, starts⟩ := structural
      obtain ⟨front, back, same, blankFront, blankBack⟩ := Text.stripListSource text
      rw [stripped] at same
      exact ⟨front, inside, back, by simpa using same, blankFront, blankBack, noBraceIff.2 admitted,
        starts⟩
    case h_2 => exact nomatch structural
  · rintro ⟨front, inside, back, rfl, blankFront, blankBack, bare, starts⟩
    rw [isStructural, stripAround blankFront blankBack]
    have taken : (inside ++ ['\x7d']).takeWhile (fun character =>
        decide (character ≠ '\x7b') && decide (character ≠ '\x7d')) = inside :=
      Text.takeWhileOfStop (noBraceIff.1 bare) (Text.stopsAtCons rfl)
    simp only [taken, List.drop_left, decide_true, Bool.true_and]
    exact starts

end

end Letterpress.Part
