import Letterpress.Proofs.Bracket.Edit
import Letterpress.Proofs.Bracket.Settling

/-!
This file reads what a rewriting wrote. A written command stays as it is unless it exposes a bracket,
which then begins another token.
-/

namespace Letterpress.Bracket

/-- A place in a text is enclosed if a command begins before it and ends after it. -/
def IsEnclosed (front back : List Char) : Prop :=
  (∃ outside inside, front = outside ++ '\x7b' :: inside ∧
    ∀ character ∈ inside, isInCommand character = true) ∧ ReachesClosing isInCommand '\x7d' back

/-- A text exposes a bracket that is not enclosed, if it begins a token with what follows the text. -/
def ExposesBracket (text after : List Char) : Prop :=
  ∃ front back, text = front ++ '[' :: back ∧ ¬ IsEnclosed front back ∧
    ReachesClosing isInBody ']' (back ++ after)

/-! ### Brackets that are exposed -/

section

variable {text front back after inside : List Char} {character : Char}

theorem IsEnclosed.afterFront (enclosed : IsEnclosed front back) (before : List Char) :
    IsEnclosed (before ++ front) back := by
  obtain ⟨⟨outside, inside, rfl, admitted⟩, reaches⟩ := enclosed
  exact ⟨⟨before ++ outside, inside, by simp, admitted⟩, reaches⟩

/-- A text encloses a place from its first character on, or the rest of the text encloses it. -/
theorem IsEnclosed.firstOrRest (enclosed : IsEnclosed (character :: front) back) :
    (character = '\x7b' ∧ ∀ other ∈ front, isInCommand other = true) ∨ IsEnclosed front back := by
  obtain ⟨⟨outside, inside, whole, admitted⟩, reaches⟩ := enclosed
  cases outside with
  | nil =>
      obtain ⟨rfl, rfl⟩ := List.cons.inj whole
      exact .inl ⟨rfl, admitted⟩
  | cons first others => exact .inr ⟨⟨others, inside, (List.cons.inj whole).2, admitted⟩, reaches⟩

theorem exposesConsIff (notBrace : character ≠ '\x7b') (notBracket : character ≠ '[') :
    ExposesBracket (character :: text) after ↔ ExposesBracket text after := by
  constructor
  · rintro ⟨front, back, whole, notEnclosed, reaches⟩
    cases front with
    | nil => exact absurd (List.cons.inj whole).1 notBracket
    | cons first others =>
        refine ⟨others, back, (List.cons.inj whole).2, ?_, reaches⟩
        intro enclosed
        exact notEnclosed (enclosed.afterFront [first])
  · rintro ⟨front, back, rfl, notEnclosed, reaches⟩
    refine ⟨character :: front, back, rfl, ?_, reaches⟩
    intro enclosed
    rcases enclosed.firstOrRest with ⟨isBrace, -⟩ | enclosedRest
    · exact notBrace isBrace
    · exact notEnclosed enclosedRest

/-- A brace that begins no command encloses nothing. -/
theorem exposesBraceIff (noCommand : ¬ ReachesClosing isInCommand '\x7d' text) :
    ExposesBracket ('\x7b' :: text) after ↔ ExposesBracket text after := by
  constructor
  · rintro ⟨front, back, whole, notEnclosed, reaches⟩
    cases front with
    | nil => exact absurd (List.cons.inj whole).1 (by decide)
    | cons first others =>
        refine ⟨others, back, (List.cons.inj whole).2, ?_, reaches⟩
        intro enclosed
        exact notEnclosed (enclosed.afterFront [first])
  · rintro ⟨front, back, rfl, notEnclosed, reaches⟩
    refine ⟨'\x7b' :: front, back, rfl, ?_, reaches⟩
    intro enclosed
    rcases enclosed.firstOrRest with ⟨-, admitted⟩ | enclosedRest
    · apply noCommand
      apply reachesFront
      · intro character isInside
        exact .inl (admitted character isInside)
      · exact (reachesConsIff (by decide) (by decide)).2 enclosed.2
    · exact notEnclosed enclosedRest

/-- A command between braces exposes none of its brackets. -/
theorem exposesCommandIff (admitted : ∀ character ∈ inside, isInCommand character = true) :
    ExposesBracket ('\x7b' :: (inside ++ '\x7d' :: text)) after ↔ ExposesBracket text after := by
  constructor
  · rintro ⟨front, back, whole, notEnclosed, reaches⟩
    cases front with
    | nil => exact absurd (List.cons.inj whole).1 (by decide)
    | cons first others =>
        obtain ⟨rfl, wholeRest⟩ := List.cons.inj whole
        rcases Text.inBeginningOrAfter wholeRest with ⟨remaining, rfl, sameRest⟩ | ⟨remaining, rfl⟩
        · cases remaining with
          | nil => exact absurd (List.cons.inj sameRest).1 (by decide)
          | cons closing more =>
              obtain ⟨rfl, rfl⟩ := List.cons.inj sameRest
              refine ⟨more, back, rfl, ?_, reaches⟩
              intro enclosed
              apply notEnclosed
              simpa using enclosed.afterFront ('\x7b' :: (inside ++ ['\x7d']))
        · -- The bracket stands inside of the command, which encloses it.
          obtain ⟨admittedFront, admittedBack⟩ := List.forall_mem_append.1 admitted
          rw [List.append_assoc] at wholeRest
          have sameBack := (List.cons.inj (List.append_cancel_left wholeRest)).2
          refine absurd ⟨⟨[], others, rfl, admittedFront⟩, remaining, text, ?_, ?_⟩ notEnclosed
          · exact sameBack.symm
          · exact (List.forall_mem_cons.1 admittedBack).2
  · rintro ⟨front, back, rfl, notEnclosed, reaches⟩
    refine ⟨'\x7b' :: (inside ++ '\x7d' :: front), back, by simp, ?_, reaches⟩
    rintro ⟨⟨outside, others, whole, admittedOthers⟩, reachesBrace⟩
    rw [← List.cons_append] at whole
    rcases Text.inBeginningOrAfter whole with ⟨remaining, rfl, sameRest⟩ | ⟨remaining, inFront⟩
    · cases remaining with
      | nil => exact absurd (List.cons.inj sameRest).1 (by decide)
      | cons closing more =>
          exact notEnclosed ⟨⟨more, others, (List.cons.inj sameRest).2, admittedOthers⟩,
            reachesBrace⟩
    · -- The closing brace would stand among the admitted characters.
      rw [inFront, List.append_assoc, List.append_cancel_left_eq] at whole
      have isInside : '\x7d' ∈ others := by
        rw [← (List.cons.inj whole).2]
        simp
      exact absurd (admittedOthers _ isInside) (by decide)

theorem exposesBracketIff :
    ExposesBracket ('[' :: text) after ↔
      ReachesClosing isInBody ']' (text ++ after) ∨ ExposesBracket text after := by
  constructor
  · rintro ⟨front, back, whole, notEnclosed, reaches⟩
    cases front with
    | nil =>
        obtain ⟨-, rfl⟩ := List.cons.inj whole
        exact .inl reaches
    | cons first others =>
        refine .inr ⟨others, back, (List.cons.inj whole).2, ?_, reaches⟩
        intro enclosed
        exact notEnclosed (enclosed.afterFront [first])
  · rintro (reaches | ⟨front, back, rfl, notEnclosed, reaches⟩)
    · refine ⟨[], text, rfl, ?_, reaches⟩
      rintro ⟨⟨outside, inside, whole, -⟩, -⟩
      exact absurd whole.symm (by simp)
    · refine ⟨'[' :: front, back, rfl, ?_, reaches⟩
      intro enclosed
      rcases enclosed.firstOrRest with ⟨isBrace, -⟩ | enclosedRest
      · exact absurd isBrace (by decide)
      · exact notEnclosed enclosedRest

/-! ### What is left of a written command -/

/-- What is left of a written command stands in one line and ends with a brace, and a quote stands
before each of its closing brackets. -/
structure IsRemainder (before text : List Char) : Prop where
  quoted : BracketsQuoted (before ++ text)
  inLine : ∀ character ∈ text, isInBody character = true ∨ character = ']'
  ends : ∀ last, text.getLast? = some last → last = '\x7d'

theorem IsRemainder.afterFront {before : List Char} (remainder : IsRemainder before (front ++ text)) :
    IsRemainder (before ++ front) text where
  quoted := by
    rw [List.append_assoc]
    exact remainder.quoted
  inLine := (List.forall_mem_append.1 remainder.inLine).2
  ends last isLast := remainder.ends last (by rw [List.getLast?_append, isLast]; rfl)

theorem IsRemainder.afterFirst {before : List Char}
    (remainder : IsRemainder before (character :: text)) : IsRemainder (before ++ [character]) text :=
  remainder.afterFront

theorem writtenRemainder {code : List Char} (replacement : IsReplacement inside code) :
    IsRemainder [] ('\x7b' :: (code ++ ['\x7d'])) where
  quoted := by
    have closing : BracketsQuoted ['\x7d'] := bracketsQuotedOfAbsent (by decide)
    have opening : BracketsQuoted ['\x7b'] := bracketsQuotedOfAbsent (by decide)
    change BracketsQuoted (['\x7b'] ++ (code ++ ['\x7d']))
    exact bracketsQuotedAppend opening (bracketsQuotedAppend replacement.quoted closing)
  inLine := by
    have inertInLine (character : Char) (inert : isInert character = true) :
        isInBody character = true ∨ character = ']' := by
      simp only [isInert, Bool.and_eq_true, decide_eq_true_eq] at inert
      obtain ⟨⟨⟨printed, -⟩, notTag⟩, -⟩ := inert
      have notReturn : character ≠ '\r' := by
        rintro rfl
        exact absurd printed (by decide)
      have notLine : character ≠ '\n' := by
        rintro rfl
        exact absurd printed (by decide)
      by_cases closes : character = ']'
      · exact .inr closes
      · refine .inl ?_
        simp [isInBody, closes, notReturn, notLine, notTag]
    simp only [List.forall_mem_cons, List.forall_mem_append, List.not_mem_nil, false_implies,
      implies_true, and_true]
    refine ⟨inertInLine _ (by decide), ?_, inertInLine _ (by decide)⟩
    intro character isInside
    rcases replacement.characters character isInside with inToken | inert
    · exact .inl (replacement.admitted character inToken)
    · exact inertInLine character inert
  ends last isLast := by
    rw [← List.cons_append, List.getLast?_concat] at isLast
    exact (Option.some.inj isLast).symm

theorem IsRemainder.endsWithBrace {before : List Char}
    (remainder : IsRemainder before (character :: text)) (notBrace : character ≠ '\x7d') :
    ∃ others, text = others ++ ['\x7d'] := by
  cases atEnd : text.getLast? with
  | none =>
      obtain rfl := List.getLast?_eq_none_iff.1 atEnd
      exact absurd (remainder.ends character rfl) notBrace
  | some last =>
      obtain rfl := remainder.afterFirst.ends last atEnd
      exact List.getLast?_eq_some_iff.1 atEnd

/-- A body is not blank if the token holds a character that is neither blank nor a mark. -/
theorem bodyNotBlank (isInside : character ∈ inside) (notBlank : Text.isBlank character = false)
    (noMark : character ∉ Mark.both.characters) : Text.stripList (splitMark inside).2 ≠ [] := by
  intro isEmpty
  have marks (mark : Mark) : mark.characters ⊆ Mark.both.characters := by
    cases mark <;> simp [Mark.characters]
  obtain ⟨front, back, whole, blankFront, blankBack⟩ := Text.stripListSource (splitMark inside).2
  rw [isEmpty, List.nil_append] at whole
  rw [← splitMarkSource inside, List.mem_append, whole, List.mem_append] at isInside
  rcases isInside with inMark | inFront | inBack
  · exact noMark (marks _ inMark)
  · simp [blankFront character inFront] at notBlank
  · simp [blankBack character inBack] at notBlank

/-- A token that begins in a written command is replaced. It holds a quote or the brace at the end of
the command. -/
theorem IsRemainder.tokenNotBlank {before rest : List Char}
    (remainder : IsRemainder before ('[' :: text)) (whole : text ++ after = inside ++ ']' :: rest) :
    Text.stripList (splitMark inside).2 ≠ [] := by
  rcases Text.inBeginningOrAfter whole with ⟨remaining, rfl, -⟩ | ⟨remaining, rfl⟩
  · obtain ⟨others, rfl⟩ := remainder.endsWithBrace (by decide)
    have braceInside : '\x7d' ∈ others ++ ['\x7d'] ++ remaining := by simp
    exact bodyNotBlank braceInside (by decide) (by decide)
  · have quoteBefore := remainder.quoted (before ++ '[' :: inside) remaining (by simp)
    have quoteInside : '"' ∈ inside := by
      rw [List.getLast?_append_of_ne_nil _ (List.cons_ne_nil _ _)] at quoteBefore
      have isInside := List.mem_of_getLast? quoteBefore
      rw [List.mem_cons] at isInside
      exact isInside.resolve_left (by decide)
    exact bodyNotBlank quoteInside (by decide) (by decide)

/-- What is left of a command is settled if it exposes no bracket to what follows. -/
theorem IsRemainder.settledIff {before : List Char} (remainder : IsRemainder before text) :
    IsSettled (text ++ after) ↔ ¬ ExposesBracket text after ∧ IsSettled after := by
  generalize bound : text.length = length
  induction length using Nat.strongRecOn generalizing before text with
  | ind length inductionHypothesis =>
      cases text with
      | nil =>
          have notExposed : ¬ ExposesBracket [] after := by
            rintro ⟨front, back, whole, -⟩
            exact absurd whole (by simp)
          simp [notExposed]
      | cons character text =>
          rw [List.length_cons] at bound
          have rest := inductionHypothesis text.length (by omega) remainder.afterFirst rfl
          rw [List.cons_append]
          by_cases isBrace : character = '\x7b'
          · subst isBrace
            by_cases isCommand : ReachesClosing isInCommand '\x7d' text
            · obtain ⟨inside, others, rfl, admitted⟩ := isCommand
              have afterBrace := remainder.afterFirst
              rw [List.append_cons inside] at afterBrace
              simp only [List.length_append, List.length_cons] at bound
              have afterCommand :=
                inductionHypothesis others.length (by omega) afterBrace.afterFront rfl
              rw [List.append_assoc, List.cons_append, settledCommandIff admitted,
                exposesCommandIff admitted]
              exact afterCommand
            · have noCommand : ¬ ReachesClosing isInCommand '\x7d' (text ++ after) := by
                obtain ⟨others, rfl⟩ := remainder.endsWithBrace (by decide)
                intro reaches
                rw [List.append_assoc] at reaches
                exact isCommand (reachesBeforeClosing reaches)
              rw [settledBraceIff noCommand, exposesBraceIff isCommand]
              exact rest
          · by_cases isBracket : character = '['
            · subst isBracket
              rw [exposesBracketIff]
              by_cases isToken : ReachesClosing isInBody ']' (text ++ after)
              · obtain ⟨inside, others, whole, admitted⟩ := isToken
                have notBlank := remainder.tokenNotBlank whole
                have reaches : ReachesClosing isInBody ']' (text ++ after) :=
                  ⟨inside, others, whole, admitted⟩
                rw [whole, settledTokenIff admitted, ← whole]
                simp [notBlank, reaches]
              · rw [settledBracketIff isToken, rest]
                simp [isToken]
            · have plain : isPlain character = true := by simp [isPlain, isBrace, isBracket]
              rw [settledPlainIff plain, exposesConsIff isBrace isBracket]
              exact rest

end

end Letterpress.Bracket
