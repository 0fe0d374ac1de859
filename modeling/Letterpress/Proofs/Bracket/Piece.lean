import Letterpress.Bracket.Piece
import Letterpress.Proofs.Text.Search

/-!
This file shows that the pieces of a content hold all of its characters and that a token or a command
holds admitted ones only.
-/

namespace Letterpress.Bracket

/-- Nothing but admitted characters stand between the delimiters of a piece. -/
def Piece.Admitted : Piece → Prop
  | plain _ => True
  | command inside => ∀ character ∈ inside, isInCommand character = true
  | token _ body => ∀ character ∈ body, isInBody character = true

theorem Piece.Admitted.inside {mark : Mark} {body : List Char}
    (admitted : (Piece.token mark body).Admitted) :
    ∀ character ∈ mark.characters ++ body, isInBody character = true := by
  have markAdmitted : mark.characters.all isInBody = true := by cases mark <;> rfl
  exact List.forall_mem_append.2 ⟨List.all_eq_true.1 markAdmitted, admitted⟩

theorem splitMarkSource (characters : List Char) :
    (splitMark characters).1.characters ++ (splitMark characters).2 = characters := by
  unfold splitMark
  split <;> rfl

theorem readUntilSource {admits : Char → Bool} {closing : Char} {characters inside rest : List Char}
    (found : readUntil? admits closing characters = some (inside, rest)) :
    characters = inside ++ closing :: rest ∧
      ∀ character ∈ inside, admits character = true := by
  obtain ⟨before, after, rfl, taken, dropped, admitted, -⟩ := Text.spanAdmitted admits characters
  simp only [readUntil?, taken, dropped] at found
  cases after with
  | nil => exact nomatch found
  | cons next others =>
      simp only [Option.ite_none_right_eq_some, Option.some.injEq, Prod.mk.injEq] at found
      obtain ⟨rfl, rfl, rfl⟩ := found
      exact ⟨rfl, admitted⟩

theorem firstPieceSource {character : Char} {rest after : List Char} {piece : Piece}
    (first : firstPiece character rest = (piece, after)) :
    piece.source ++ after = character :: rest ∧ piece.source ≠ [] ∧ piece.Admitted := by
  unfold firstPiece at first
  split at first
  case isTrue isBrace =>
    subst isBrace
    split at first
    case h_1 inside _ found =>
      obtain ⟨rfl, rfl⟩ := Prod.mk.inj first
      obtain ⟨rfl, admitted⟩ := readUntilSource found
      exact ⟨by simp [Piece.source], List.cons_ne_nil _ _, admitted⟩
    case h_2 =>
      obtain ⟨rfl, rfl⟩ := Prod.mk.inj first
      exact ⟨rfl, List.cons_ne_nil _ _, trivial⟩
  case isFalse =>
    split at first
    case isTrue isBracket =>
      subst isBracket
      simp only at first
      split at first
      case h_1 body _ found =>
        obtain ⟨rfl, rfl⟩ := Prod.mk.inj first
        obtain ⟨afterMark, admitted⟩ := readUntilSource found
        refine ⟨?_, List.cons_ne_nil _ _, admitted⟩
        have whole := splitMarkSource rest
        rw [afterMark] at whole
        simpa [Piece.source] using whole
      case h_2 =>
        obtain ⟨rfl, rfl⟩ := Prod.mk.inj first
        exact ⟨rfl, List.cons_ne_nil _ _, trivial⟩
    case isFalse =>
      obtain ⟨rfl, rfl⟩ := Prod.mk.inj first
      exact ⟨by simp [Piece.source], List.cons_ne_nil _ _, trivial⟩

theorem piecesFromSource (fuel : Nat) (content : List Char) (enough : content.length ≤ fuel) :
    (piecesFrom fuel content).flatMap Piece.source = content ∧
      ∀ piece ∈ piecesFrom fuel content, piece.Admitted := by
  induction fuel generalizing content with
  | zero =>
      obtain rfl := List.length_eq_zero_iff.1 (Nat.le_zero.1 enough)
      exact ⟨rfl, nofun⟩
  | succ fuel inductionHypothesis =>
      cases content with
      | nil => exact ⟨rfl, nofun⟩
      | cons character rest =>
          rw [piecesFrom]
          cases first : firstPiece character rest with
          | mk piece after =>
              obtain ⟨whole, notEmpty, admitted⟩ := firstPieceSource first
              have shorter : after.length ≤ fuel := by
                have sameLength := congrArg List.length whole
                have positive := List.length_pos_iff.2 notEmpty
                simp only [List.length_append, List.length_cons] at sameLength enough
                omega
              obtain ⟨sourceRest, admittedRest⟩ := inductionHypothesis after shorter
              refine ⟨?_, List.forall_mem_cons.2 ⟨admitted, admittedRest⟩⟩
              rw [List.flatMap_cons, sourceRest, whole]

/-- The pieces hold all characters of the content. -/
theorem piecesSource (content : List Char) : (pieces content).flatMap Piece.source = content :=
  (piecesFromSource _ content (Nat.le_refl _)).1

theorem piecesAdmitted (content : List Char) : ∀ piece ∈ pieces content, piece.Admitted :=
  (piecesFromSource _ content (Nat.le_refl _)).2

end Letterpress.Bracket
