import Letterpress.Text.CodeRanges
import Mathlib.Data.List.Basic

/-!
This file shows how the pieces that a text is split into make up the text, and how the beginnings of
one text compare.
-/

namespace Letterpress.Text

theorem splitWhereCons (isSeparator : Char → Bool) (character : Char) (rest : List Char) :
    splitWhere isSeparator (character :: rest) =
      addToSegments isSeparator character (splitWhere isSeparator rest) := rfl

theorem splitWhereNotEmpty (isSeparator : Char → Bool) (characters : List Char) :
    ∃ first pieces, splitWhere isSeparator characters = first :: pieces := by
  cases characters with
  | nil => exact ⟨[], [], rfl⟩
  | cons character rest =>
      rw [splitWhereCons]
      unfold addToSegments
      split
      · exact ⟨_, _, rfl⟩
      · split <;> exact ⟨_, _, rfl⟩

/-- Characters without a separator stay in front of the first piece. -/
theorem splitWhereFront {isSeparator : Char → Bool} {front rest first : List Char}
    {pieces : List (List Char)} (noSeparator : ∀ character ∈ front, isSeparator character = false)
    (splits : splitWhere isSeparator rest = first :: pieces) :
    splitWhere isSeparator (front ++ rest) = (front ++ first) :: pieces := by
  induction front with
  | nil => exact splits
  | cons character front inductionHypothesis =>
      obtain ⟨notSeparator, noSeparatorRest⟩ := List.forall_mem_cons.1 noSeparator
      rw [List.cons_append, splitWhereCons, inductionHypothesis noSeparatorRest]
      simp [addToSegments, notSeparator]

/-- The first piece has no separator, and each other one has had one before it. -/
theorem splitWhereSource (character : Char) (characters : List Char) :
    ∃ first pieces, splitWhere (· = character) characters = first :: pieces ∧
      characters = first ++ pieces.flatMap (character :: ·) ∧ character ∉ first ∧
        ∀ piece ∈ pieces, character ∉ piece := by
  induction characters with
  | nil => exact ⟨[], [], rfl, rfl, List.not_mem_nil, nofun⟩
  | cons next rest inductionHypothesis =>
      obtain ⟨first, pieces, splits, whole, noneInFirst, noneInPieces⟩ := inductionHypothesis
      rw [splitWhereCons, splits, addToSegments]
      by_cases same : next = character
      · subst same
        refine ⟨[], first :: pieces, by simp, by simp [whole], List.not_mem_nil, ?_⟩
        exact List.forall_mem_cons.2 ⟨noneInFirst, noneInPieces⟩
      · refine ⟨next :: first, pieces, by simp [same], by simp [whole], ?_, noneInPieces⟩
        exact List.not_mem_cons_of_ne_of_not_mem (Ne.symm same) noneInFirst

theorem splitWhereSubset (isSeparator : Char → Bool) (characters : List Char) :
    ∀ segment ∈ splitWhere isSeparator characters, segment ⊆ characters := by
  induction characters with
  | nil => simp [splitWhere]
  | cons character rest inductionHypothesis =>
      intro segment isSegment
      change segment ∈ addToSegments isSeparator character (splitWhere isSeparator rest)
        at isSegment
      unfold addToSegments at isSegment
      split at isSegment
      case isTrue =>
        obtain rfl | isSegment := List.mem_cons.1 isSegment
        · exact List.nil_subset _
        · exact List.subset_cons_of_subset _ (inductionHypothesis segment isSegment)
      case isFalse =>
        split at isSegment
        case h_1 => simp_all
        case h_2 first others whole =>
          rw [whole] at inductionHypothesis
          obtain rfl | isOther := List.mem_cons.1 isSegment
          · exact List.cons_subset_cons _ (inductionHypothesis first (List.mem_cons_self ..))
          · exact List.subset_cons_of_subset _
              (inductionHypothesis segment (List.mem_cons_of_mem _ isOther))

/-! ### Joining -/

/-- A separator stands before each piece after the first one. -/
theorem intercalateCons {Item : Type} (separator first : List Item) (pieces : List (List Item)) :
    separator.intercalate (first :: pieces) = first ++ pieces.flatMap (separator ++ ·) := by
  induction pieces generalizing first with
  | nil => simp [List.intercalate]
  | cons second rest inductionHypothesis =>
      have unfolded : separator.intercalate (first :: second :: rest) =
          first ++ (separator ++ separator.intercalate (second :: rest)) := by
        simp [List.intercalate]
      rw [unfolded, inductionHypothesis]
      simp

/-! ### Beginnings -/

section

variable {admits : Char → Bool} {first second rest others : List Char}

/-- A text stops at a character that is not admitted, or it ends. -/
def StopsAt (admits : Char → Bool) (text : List Char) : Prop :=
  ∀ next, text.head? = some next → admits next = false

theorem stopsAtNil : StopsAt admits [] := nofun

theorem stopsAtCons {character : Char} (notAdmitted : admits character = false) :
    StopsAt admits (character :: rest) :=
  fun _ isNext => Option.some.inj isNext ▸ notAdmitted

theorem takeWhileOfStop (admitted : ∀ character ∈ first, admits character = true)
    (stops : StopsAt admits rest) : (first ++ rest).takeWhile admits = first := by
  rw [List.takeWhile_append_of_pos admitted]
  cases rest with
  | nil => exact List.append_nil _
  | cons next more =>
      rw [List.takeWhile_cons_of_neg (by simp [stops next rfl]), List.append_nil]

theorem dropWhileOfStop (admitted : ∀ character ∈ first, admits character = true)
    (stops : StopsAt admits rest) : (first ++ rest).dropWhile admits = rest := by
  rw [List.dropWhile_append_of_pos admitted]
  cases rest with
  | nil => rfl
  | cons next more => exact List.dropWhile_cons_of_neg (by simp [stops next rfl])

/-- The longest admitted beginning of a text is determined. -/
theorem admittedUnique (admitted : ∀ character ∈ first, admits character = true)
    (stops : StopsAt admits rest) (admittedSecond : ∀ character ∈ second, admits character = true)
    (stopsSecond : StopsAt admits others) (same : first ++ rest = second ++ others) :
    first = second ∧ rest = others := by
  have sameFirst : first = second := by
    rw [← takeWhileOfStop admitted stops, same, takeWhileOfStop admittedSecond stopsSecond]
  subst sameFirst
  exact ⟨rfl, List.append_cancel_left same⟩

/-- A character of a text stands in its beginning or in the rest. -/
theorem inBeginningOrAfter {front back : List Char} {character : Char}
    (same : first ++ rest = front ++ character :: back) :
    (∃ remaining, front = first ++ remaining ∧ rest = remaining ++ character :: back) ∨
      ∃ remaining, first = front ++ character :: remaining := by
  obtain ⟨remaining, sameFront, sameRest⟩ | ⟨remaining, sameFirst, sameBack⟩ :=
    List.append_eq_append_iff.1 same
  · exact .inl ⟨remaining, sameFront, sameRest⟩
  · cases remaining with
    | nil => exact .inl ⟨[], by simpa using sameFirst.symm, sameBack.symm⟩
    | cons next more =>
        obtain ⟨rfl, -⟩ := List.cons.inj sameBack
        exact .inr ⟨more, sameFirst⟩

/-- A character that a beginning does not hold stands in the rest. -/
theorem afterBeginning {front back : List Char} {character : Char} (absent : character ∉ first)
    (same : first ++ rest = front ++ character :: back) :
    ∃ remaining, front = first ++ remaining ∧ rest = remaining ++ character :: back := by
  obtain found | ⟨remaining, rfl⟩ := inBeginningOrAfter same
  · exact found
  · exact absurd (by simp) absent

end

end Letterpress.Text
