import Letterpress.Bracket.Rewriting
import Letterpress.Proofs.Bracket.Piece
import Letterpress.Proofs.Text.Splitting

/-!
This file reads settled texts piece by piece. In a settled text a rewriting replaces no token.
-/

namespace Letterpress.Bracket

/-- A settled text has no token that is replaced. -/
def IsSettled (text : List Char) : Prop := (pieces text).any Piece.isReplaced = false

/-- Admitted characters lead up to the closing one. -/
def ReachesClosing (admits : Char → Bool) (closing : Char) (text : List Char) : Prop :=
  ∃ inside rest, text = inside ++ closing :: rest ∧ ∀ character ∈ inside, admits character = true

/-! ### Reading up to a closing character -/

section

variable {admits : Char → Bool} {closing character : Char} {text front : List Char}

theorem readUntilIff (refuses : admits closing = false) {inside rest : List Char} :
    readUntil? admits closing text = some (inside, rest) ↔
      text = inside ++ closing :: rest ∧ ∀ character ∈ inside, admits character = true := by
  constructor
  · exact readUntilSource
  · rintro ⟨rfl, admitted⟩
    have taken : (inside ++ closing :: rest).takeWhile admits = inside :=
      Text.takeWhileOfStop admitted (Text.stopsAtCons refuses)
    simp [readUntil?, taken]

theorem readUntilNoneIff (refuses : admits closing = false) :
    readUntil? admits closing text = none ↔ ¬ ReachesClosing admits closing text := by
  rw [Option.eq_none_iff_forall_ne_some]
  constructor
  · rintro notFound ⟨inside, rest, whole⟩
    exact notFound (inside, rest) ((readUntilIff refuses).2 whole)
  · rintro notReached ⟨inside, rest⟩ found
    exact notReached ⟨inside, rest, (readUntilIff refuses).1 found⟩

theorem reachesConsIff (admitted : admits character = true) (refuses : admits closing = false) :
    ReachesClosing admits closing (character :: text) ↔ ReachesClosing admits closing text := by
  constructor
  · rintro ⟨inside, rest, whole, allAdmitted⟩
    cases inside with
    | nil =>
        obtain rfl := (List.cons.inj whole).1
        exact absurd admitted (by simp [refuses])
    | cons first others =>
        exact ⟨others, rest, (List.cons.inj whole).2, (List.forall_mem_cons.1 allAdmitted).2⟩
  · rintro ⟨inside, rest, rfl, allAdmitted⟩
    exact ⟨character :: inside, rest, rfl, List.forall_mem_cons.2 ⟨admitted, allAdmitted⟩⟩

/-- A character that is neither admitted nor closing ends the reading. -/
theorem reachesStop (notAdmitted : admits character = false) (notClosing : character ≠ closing) :
    ¬ ReachesClosing admits closing (character :: text) := by
  rintro ⟨inside, rest, whole, allAdmitted⟩
  cases inside with
  | nil => exact notClosing (List.cons.inj whole).1
  | cons first others =>
      obtain rfl := (List.cons.inj whole).1
      exact absurd (allAdmitted character (List.mem_cons_self ..)) (by simp [notAdmitted])

/-- What is reached from a later character on is reached from an earlier one, if the characters
between them do not end the reading. -/
theorem reachesFront
    (goesOn : ∀ character ∈ front, admits character = true ∨ character = closing)
    (reaches : ReachesClosing admits closing text) :
    ReachesClosing admits closing (front ++ text) := by
  induction front with
  | nil => exact reaches
  | cons first others inductionHypothesis =>
      obtain ⟨goesOnFirst, goesOnOthers⟩ := List.forall_mem_cons.1 goesOn
      rcases goesOnFirst with admitted | rfl
      · obtain ⟨inside, rest, whole, allAdmitted⟩ := inductionHypothesis goesOnOthers
        exact ⟨first :: inside, rest, congrArg _ whole,
          List.forall_mem_cons.2 ⟨admitted, allAdmitted⟩⟩
      · exact ⟨[], others ++ text, rfl, nofun⟩

/-- What follows a closing character does not matter. -/
theorem reachesBeforeClosing {after : List Char}
    (reaches : ReachesClosing admits closing (text ++ closing :: after)) :
    ReachesClosing admits closing (text ++ [closing]) := by
  obtain ⟨inside, rest, whole, allAdmitted⟩ := reaches
  obtain ⟨remaining, rfl, -⟩ | ⟨remaining, rfl⟩ := Text.inBeginningOrAfter whole
  · exact ⟨text, [], rfl, fun character isInside =>
      allAdmitted character (List.mem_append_left _ isInside)⟩
  · exact ⟨inside, remaining ++ [closing], by simp, allAdmitted⟩

end

/-! ### Pieces -/

theorem firstPieceShorter (character : Char) (rest : List Char) :
    (firstPiece character rest).2.length ≤ rest.length := by
  obtain ⟨whole, notEmpty, -⟩ := firstPieceSource (Prod.eta (firstPiece character rest)).symm
  have sameLength := congrArg List.length whole
  have positive := List.length_pos_iff.2 notEmpty
  simp only [List.length_append, List.length_cons] at sameLength
  omega

/-- The pieces are the same whatever fuel there is, as long as there is enough. -/
theorem piecesFromEnough {fuel other : Nat} {content : List Char} (enough : content.length ≤ fuel)
    (enoughOther : content.length ≤ other) : piecesFrom fuel content = piecesFrom other content := by
  induction fuel generalizing other content with
  | zero =>
      obtain rfl := List.length_eq_zero_iff.1 (Nat.le_zero.1 enough)
      cases other <;> rfl
  | succ fuel inductionHypothesis =>
      cases content with
      | nil => cases other <;> rfl
      | cons character rest =>
          cases other with
          | zero => exact nomatch enoughOther
          | succ other =>
              have shorter := firstPieceShorter character rest
              rw [List.length_cons] at enough enoughOther
              have enoughAfter : (firstPiece character rest).2.length ≤ fuel := by omega
              have enoughAfterOther : (firstPiece character rest).2.length ≤ other := by omega
              exact congrArg (List.cons _) (inductionHypothesis enoughAfter enoughAfterOther)

theorem piecesCons (character : Char) (rest : List Char) :
    pieces (character :: rest) =
      (firstPiece character rest).1 :: pieces (firstPiece character rest).2 := by
  change (firstPiece character rest).1 :: piecesFrom rest.length (firstPiece character rest).2 = _
  rw [piecesFromEnough (firstPieceShorter character rest) (Nat.le_refl _)]
  rfl

/-- A property of all texts follows if each text has it that has it after its first piece. -/
theorem pieceInduction {property : List Char → Prop} (empty : property [])
    (step : ∀ character rest, property (firstPiece character rest).2 → property (character :: rest))
    (text : List Char) : property text := by
  generalize bound : text.length = length
  induction length using Nat.strongRecOn generalizing text with
  | ind length inductionHypothesis =>
      cases text with
      | nil => exact empty
      | cons character rest =>
          have shorter := firstPieceShorter character rest
          rw [List.length_cons] at bound
          exact step character rest (inductionHypothesis _ (by omega) _ rfl)

theorem firstCommand {inside : List Char} (admitted : ∀ character ∈ inside, isInCommand character = true)
    (rest : List Char) :
    firstPiece '\x7b' (inside ++ '\x7d' :: rest) = (.command inside, rest) := by
  rw [firstPiece, if_pos rfl, (readUntilIff (by decide)).2 ⟨rfl, admitted⟩]

theorem firstBrace {rest : List Char} (noCommand : ¬ ReachesClosing isInCommand '\x7d' rest) :
    firstPiece '\x7b' rest = (.plain ['\x7b'], rest) := by
  rw [firstPiece, if_pos rfl, (readUntilNoneIff (by decide)).2 noCommand]

/-- The mark is found before the closing bracket. -/
theorem splitMarkClosed (inside rest : List Char) :
    splitMark (inside ++ ']' :: rest) =
      ((splitMark inside).1, (splitMark inside).2 ++ ']' :: rest) := by
  match inside with
  | [] => rfl
  | [first] =>
      by_cases hash : first = '#'
      · subst hash
        rfl
      · by_cases slash : first = '/'
        · subst slash
          rfl
        · simp [splitMark, hash, slash]
  | first :: second :: others =>
      by_cases hash : first = '#'
      · subst hash
        by_cases slash : second = '/'
        · subst slash
          rfl
        · simp [splitMark, slash]
      · by_cases slash : first = '/'
        · subst slash
          rfl
        · simp [splitMark, hash, slash]

/-- What follows the mark is the rest of the token. -/
theorem afterMarkAdmitted {inside : List Char}
    (admitted : ∀ character ∈ inside, isInBody character = true) :
    ∀ character ∈ (splitMark inside).2, isInBody character = true := by
  intro character isInside
  apply admitted
  rw [← splitMarkSource inside]
  exact List.mem_append_right _ isInside

theorem firstToken {inside : List Char} (admitted : ∀ character ∈ inside, isInBody character = true)
    (rest : List Char) :
    firstPiece '[' (inside ++ ']' :: rest) =
      (.token (splitMark inside).1 (splitMark inside).2, rest) := by
  have found : readUntil? isInBody ']' ((splitMark inside).2 ++ ']' :: rest) =
      some ((splitMark inside).2, rest) :=
    (readUntilIff (by decide)).2 ⟨rfl, afterMarkAdmitted admitted⟩
  rw [firstPiece, if_neg (by decide), if_pos rfl, splitMarkClosed]
  simp only [found]

/-- The mark does not end the reading. -/
theorem reachesAfterMark (rest : List Char) :
    ReachesClosing isInBody ']' (splitMark rest).2 ↔ ReachesClosing isInBody ']' rest := by
  conv_rhs => rw [← splitMarkSource rest]
  cases (splitMark rest).1 with
  | value => exact Iff.rfl
  | opening => exact (reachesConsIff (by decide) (by decide)).symm
  | closing => exact (reachesConsIff (by decide) (by decide)).symm
  | both =>
      change _ ↔ ReachesClosing isInBody ']' ('#' :: '/' :: (splitMark rest).2)
      rw [reachesConsIff (by decide) (by decide), reachesConsIff (by decide) (by decide)]

theorem firstBracket {rest : List Char} (noToken : ¬ ReachesClosing isInBody ']' rest) :
    firstPiece '[' rest = (.plain ['['], rest) := by
  have notFound : readUntil? isInBody ']' (splitMark rest).2 = none := by
    rw [readUntilNoneIff (by decide), reachesAfterMark]
    exact noToken
  rw [firstPiece, if_neg (by decide), if_pos rfl]
  simp only [notFound]

theorem firstPlain {character : Char} (plain : isPlain character = true) (rest : List Char) :
    firstPiece character rest =
      (.plain (character :: rest.takeWhile isPlain), rest.dropWhile isPlain) := by
  obtain ⟨notBrace, notBracket⟩ : character ≠ '\x7b' ∧ character ≠ '[' := by
    simpa [isPlain] using plain
  rw [firstPiece, if_neg notBrace, if_neg notBracket]

/-! ### Settled texts -/

section

variable {text rest inside : List Char} {character : Char}

theorem settledNil : IsSettled [] := rfl

theorem settledConsIff (character : Char) (rest : List Char) :
    IsSettled (character :: rest) ↔
      (firstPiece character rest).1.isReplaced = false ∧ IsSettled (firstPiece character rest).2 := by
  unfold IsSettled
  rw [piecesCons, List.any_cons, Bool.or_eq_false_iff]

theorem settledPlainIff (plain : isPlain character = true) :
    IsSettled (character :: rest) ↔ IsSettled rest := by
  have afterPlains : IsSettled (rest.dropWhile isPlain) ↔ IsSettled rest := by
    cases rest with
    | nil => exact Iff.rfl
    | cons next others =>
        by_cases plainNext : isPlain next = true
        · rw [List.dropWhile_cons_of_pos plainNext, settledConsIff, firstPlain plainNext]
          simp [Piece.isReplaced]
        · rw [List.dropWhile_cons_of_neg plainNext]
  rw [settledConsIff, firstPlain plain, ← afterPlains]
  simp [Piece.isReplaced]

theorem settledPlainsIff {front : List Char} (plain : ∀ character ∈ front, isPlain character = true) :
    IsSettled (front ++ rest) ↔ IsSettled rest := by
  induction front with
  | nil => exact Iff.rfl
  | cons first others inductionHypothesis =>
      obtain ⟨plainFirst, plainOthers⟩ := List.forall_mem_cons.1 plain
      rw [List.cons_append, settledPlainIff plainFirst, inductionHypothesis plainOthers]

theorem settledCommandIff (admitted : ∀ character ∈ inside, isInCommand character = true) :
    IsSettled ('\x7b' :: (inside ++ '\x7d' :: rest)) ↔ IsSettled rest := by
  rw [settledConsIff, firstCommand admitted]
  simp [Piece.isReplaced]

theorem settledBraceIff (noCommand : ¬ ReachesClosing isInCommand '\x7d' rest) :
    IsSettled ('\x7b' :: rest) ↔ IsSettled rest := by
  rw [settledConsIff, firstBrace noCommand]
  simp [Piece.isReplaced]

theorem settledTokenIff (admitted : ∀ character ∈ inside, isInBody character = true) :
    IsSettled ('[' :: (inside ++ ']' :: rest)) ↔
      Text.stripList (splitMark inside).2 = [] ∧ IsSettled rest := by
  rw [settledConsIff, firstToken admitted]
  simp [Piece.isReplaced]

theorem settledBracketIff (noToken : ¬ ReachesClosing isInBody ']' rest) :
    IsSettled ('[' :: rest) ↔ IsSettled rest := by
  rw [settledConsIff, firstBracket noToken]
  simp [Piece.isReplaced]

end

end Letterpress.Bracket
