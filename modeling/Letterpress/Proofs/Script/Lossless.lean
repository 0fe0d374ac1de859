import Letterpress.Proofs.Script.Lexeme

/-!
This file shows that the tokens of a source tell everything but its blank characters, and that the
cutting stops only where neither a token nor a blank character begins.
-/

namespace Letterpress.Script

/-! ### Tokens that tell a source -/

/-- This is where the text of a token ends in its source. -/
def Token.stop (token : Token) : Nat := token.position + token.text.length

/-- The tokens stand one behind the other in the source, and only blank characters are left. -/
structure IsLossless (source : List Char) (tokens : List Token) : Prop where
  isLexeme : ∀ token ∈ tokens, IsLexeme token.kind token.text.toList
  ordered : tokens.Pairwise fun first second =>
    first.position < second.position ∧ first.stop ≤ second.position
  inside : ∀ token ∈ tokens, token.stop ≤ source.length
  slice : ∀ token ∈ tokens, source.extract token.position token.stop = token.text.toList
  blank : ∀ index character, source[index]? = some character →
    (∀ token ∈ tokens, ¬ (token.position ≤ index ∧ index < token.stop)) →
    Text.isBlank character = true

theorem IsLexeme.positive {token : Token} (isLexeme : IsLexeme token.kind token.text.toList) :
    token.position < token.stop := by
  have positive := List.length_pos_iff.2 isLexeme.notEmpty
  rw [String.length_toList] at positive
  exact Nat.lt_add_of_pos_right positive

namespace IsLossless

variable {front : List Char} {tokens : List Token}

theorem empty : IsLossless [] [] where
  isLexeme := nofun
  ordered := .nil
  inside := nofun
  slice := nofun
  blank := nofun

section

variable (lossless : IsLossless front tokens) (more : List Char)
include lossless

theorem insideKept : ∀ token ∈ tokens, token.stop ≤ (front ++ more).length := by
  intro token isToken
  rw [List.length_append]
  exact Nat.le_add_right_of_le (lossless.inside token isToken)

/-- A slice stays the same when more follows. -/
theorem sliceKept :
    ∀ token ∈ tokens, (front ++ more).extract token.position token.stop = token.text.toList := by
  intro token isToken
  have isInside : token.position + token.text.length ≤ front.length :=
    lossless.inside token isToken
  have begins : token.position ≤ front.length := by omega
  have fits : token.stop - token.position ≤ (front.drop token.position).length := by
    rw [Token.stop, List.length_drop]
    omega
  rw [List.extract_eq_take_drop, List.drop_append_of_le_length begins,
    List.take_append_of_le_length fits]
  exact lossless.slice token isToken

end

theorem appendBlank (lossless : IsLossless front tokens) {character : Char}
    (isBlank : Text.isBlank character = true) : IsLossless (front ++ [character]) tokens where
  isLexeme := lossless.isLexeme
  ordered := lossless.ordered
  inside := lossless.insideKept [character]
  slice := lossless.sliceKept [character]
  blank := by
    intro index other stands outside
    rw [List.getElem?_append] at stands
    split at stands
    case isTrue => exact lossless.blank index other stands outside
    case isFalse =>
      obtain rfl := List.mem_singleton.1 (List.mem_of_getElem? stands)
      exact isBlank

theorem appendToken (lossless : IsLossless front tokens) {word : Word}
    (isLexeme : IsLexeme word.kind word.text.toList) :
    IsLossless (front ++ word.text.toList)
      (tokens ++ [⟨word.kind, word.text, front.length⟩]) where
  isLexeme := List.forall_mem_append.2 ⟨lossless.isLexeme, List.forall_mem_singleton.2 isLexeme⟩
  ordered := by
    refine List.pairwise_append.2 ⟨lossless.ordered, List.pairwise_singleton _ _, ?_⟩
    intro first isFirst second isSecond
    obtain rfl := List.mem_singleton.1 isSecond
    have isInside := lossless.inside first isFirst
    exact ⟨(lossless.isLexeme first isFirst).positive.trans_le isInside, isInside⟩
  inside := by
    refine List.forall_mem_append.2 ⟨lossless.insideKept _, List.forall_mem_singleton.2 ?_⟩
    rw [List.length_append, String.length_toList, Token.stop]
  slice := by
    refine List.forall_mem_append.2 ⟨lossless.sliceKept _, List.forall_mem_singleton.2 ?_⟩
    rw [Token.stop, List.extract_eq_take_drop, List.drop_left, Nat.add_sub_cancel_left,
      ← String.length_toList, List.take_length]
  blank := by
    intro index character stands outside
    obtain ⟨outsideTokens, outsideLast⟩ := List.forall_mem_append.1 outside
    rw [List.getElem?_append] at stands
    split at stands
    case isTrue => exact lossless.blank index character stands outsideTokens
    case isFalse isBehind =>
      obtain ⟨isShort, -⟩ := List.getElem?_eq_some_iff.1 stands
      rw [String.length_toList] at isShort
      refine absurd ?_ (outsideLast _ (List.mem_singleton_self _))
      simp only [Token.stop]
      omega

end IsLossless

/-! ### The run -/

/-- What is in front has been cut into these tokens, the last one first, and it is cut into them
whatever beginning of the rest follows. -/
structure IsCut (front : List Char) (cut : List Token) (rest : List Char) : Prop where
  lossless : IsLossless front cut.reverse
  reads : ∀ more, more <+: rest → ∃ fuel, more.length ≤ fuel ∧
    tokenize (String.ofList (front ++ more)) =
      Token.cutFrom (String.ofList (front ++ more)) cut fuel front.length more

namespace IsCut

variable {front rest : List Char} {cut : List Token} {character : Char}

theorem start (source : List Char) : IsCut [] [] source where
  lossless := .empty
  reads := by
    intro more _
    refine ⟨more.length, Nat.le_refl _, ?_⟩
    rw [List.nil_append, tokenize, String.toList_ofList]
    rfl

theorem passBlank (isCut : IsCut front cut (character :: rest))
    (isBlank : Text.isBlank character = true) : IsCut (front ++ [character]) cut rest where
  lossless := isCut.lossless.appendBlank isBlank
  reads := by
    intro more isMore
    obtain ⟨fuel, enough, isRead⟩ :=
      isCut.reads (character :: more) (List.cons_prefix_cons.2 ⟨rfl, isMore⟩)
    cases fuel with
    | zero => exact absurd enough (Nat.not_succ_le_zero _)
    | succ fuel =>
        refine ⟨fuel, Nat.le_of_succ_le_succ enough, ?_⟩
        rw [List.append_assoc, List.singleton_append, isRead, Token.cutFrom, if_pos isBlank,
          List.length_append, List.length_singleton]

theorem passWord {word : Word} (isCut : IsCut front cut (word.text.toList ++ rest))
    (isLexeme : IsLexeme word.kind word.text.toList)
    (begins : ∀ more, more <+: rest → BeginsWith word more) :
    IsCut (front ++ word.text.toList) (⟨word.kind, word.text, front.length⟩ :: cut) rest where
  lossless := by
    rw [List.reverse_cons]
    exact isCut.lossless.appendToken isLexeme
  reads := by
    intro more isMore
    obtain ⟨fuel, enough, isRead⟩ :=
      isCut.reads (word.text.toList ++ more) ((List.prefix_append_right_inj _).2 isMore)
    obtain ⟨less, isEnough, cutOff⟩ := cutFromWord (begins more isMore)
      (String.ofList (front ++ (word.text.toList ++ more))) cut front.length enough
    refine ⟨less, isEnough, ?_⟩
    rw [List.append_assoc, isRead, cutOff, List.length_append]

/-- The word that starts is cut off, whatever beginning of the rest follows. -/
theorem passStart (isCut : IsCut front cut (character :: rest))
    (notBlank : Text.isBlank character = false) {kind : TokenKind} {length : Nat}
    (starts : Token.start? (character :: rest) = some (kind, length)) :
    ∃ word : Word, ∃ less, character :: rest = word.text.toList ++ less ∧
      less.length < (character :: rest).length ∧
      IsCut (front ++ word.text.toList) (⟨word.kind, word.text, front.length⟩ :: cut) less := by
  obtain ⟨text, less, isWhole, rfl, isLexeme⟩ := startIsText starts
  obtain ⟨first, more, isText⟩ := List.exists_cons_of_ne_nil isLexeme.notEmpty
  obtain rfl : character = first := by
    rw [isText, List.cons_append] at isWhole
    exact (List.cons.inj isWhole).1
  rw [isWhole] at isCut starts
  refine ⟨⟨kind, text⟩, less, isWhole, ?_, isCut.passWord isLexeme fun after isAfter => ?_⟩
  · rw [isWhole, List.length_append]
    exact Nat.lt_add_of_pos_left (List.length_pos_iff.2 isLexeme.notEmpty)
  · have isFront : text.toList ++ after <+: text.toList ++ less :=
      (List.prefix_append_right_inj _).2 isAfter
    refine ⟨⟨character, more, isText, notBlank⟩, startWithin isFront starts ?_⟩
    rw [List.length_append]
    exact Nat.le_add_right _ _

theorem finished (isCut : IsCut front cut rest) :
    tokenize (String.ofList front) = .ok (cut.reverse ++ [⟨.finish, "", front.length⟩]) := by
  obtain ⟨fuel, -, isRead⟩ := isCut.reads [] List.nil_prefix
  rw [List.append_nil] at isRead
  rw [isRead, ← List.reverse_cons]
  cases fuel <;> rfl

theorem refused (isCut : IsCut front cut (character :: rest))
    (notBlank : Text.isBlank character = false)
    (noStart : Token.start? (character :: rest) = none) :
    tokenize (String.ofList (front ++ character :: rest)) =
      .error (.unexpectedCharacter (String.ofList (front ++ character :: rest)) front.length
        character) := by
  obtain ⟨fuel, enough, isRead⟩ := isCut.reads (character :: rest) (List.prefix_refl _)
  cases fuel with
  | zero => exact absurd enough (Nat.not_succ_le_zero _)
  | succ fuel => rw [isRead, Token.cutFrom, if_neg (by simp [notBlank]), noStart]

/-- The cutting goes on up to the end or up to a character that begins no token. -/
theorem runs {limit : Nat} (within : rest.length ≤ limit) (isCut : IsCut front cut rest) :
    (∃ cut, IsCut (front ++ rest) cut []) ∨
    ∃ before character after cut, front ++ rest = before ++ character :: after ∧
      IsCut before cut (character :: after) ∧ Text.isBlank character = false ∧
      Token.start? (character :: after) = none := by
  induction limit generalizing front rest cut with
  | zero =>
      obtain rfl := List.eq_nil_of_length_eq_zero (Nat.le_zero.1 within)
      exact .inl ⟨cut, (List.append_nil front).symm ▸ isCut⟩
  | succ limit inductionHypothesis =>
      cases rest with
      | nil => exact .inl ⟨cut, (List.append_nil front).symm ▸ isCut⟩
      | cons character rest =>
          cases isBlank : Text.isBlank character with
          | true =>
              have goesOn := inductionHypothesis (Nat.le_of_succ_le_succ within)
                (isCut.passBlank isBlank)
              rwa [List.append_assoc] at goesOn
          | false =>
              cases starts : Token.start? (character :: rest) with
              | none => exact .inr ⟨front, character, rest, cut, rfl, isCut, isBlank, starts⟩
              | some start =>
                  obtain ⟨word, less, isWhole, isShort, isNext⟩ := isCut.passStart isBlank starts
                  have goesOn := inductionHypothesis (by omega) isNext
                  rwa [List.append_assoc, ← isWhole] at goesOn

end IsCut

/-! ### Sources -/

/-- The source is cut into tokens that tell it, with the finishing one at its end. -/
structure IsTokenized (source : String) (tokens : List Token) : Prop where
  isRead : tokenize source = .ok (tokens ++ [⟨.finish, "", source.length⟩])
  lossless : IsLossless source.toList tokens

/-- The source is refused at a place where neither a token nor a blank character begins, and what
stands before this place is cut into tokens. -/
structure IsRefusedAt (source : String) (position : Nat) (problem : Problem) : Prop where
  isSyntax : problem.kind = .command
  isPlaced : problem.details = [("source", .text source), ("position", .int position)]
  tokenized : ∃ tokens, IsTokenized (String.ofList (source.toList.take position)) tokens
  notBlank : ∃ character, source.toList[position]? = some character ∧
    Text.isBlank character = false
  noLexeme : ∀ kind text, IsLexeme kind text → ¬ text <+: source.toList.drop position

theorem IsCut.isTokenized {front rest : List Char} {cut : List Token}
    (isCut : IsCut front cut rest) : IsTokenized (String.ofList front) cut.reverse where
  isRead := by
    rw [← String.length_toList, String.toList_ofList]
    exact isCut.finished
  lossless := by
    rw [String.toList_ofList]
    exact isCut.lossless

/-- The tokens of a source tell it but for its blank characters, and a source without tokens is
refused at the first place where neither a token nor a blank character begins. -/
theorem tokensTellSource (source : String) :
    (∃ tokens, IsTokenized source tokens) ∨
    ∃ position problem, tokenize source = .error problem ∧
      IsRefusedAt source position problem := by
  obtain ⟨cut, isCut⟩ | ⟨before, character, after, cut, isSplit, isCut, notBlank, noStart⟩ :=
    (IsCut.start source.toList).runs (Nat.le_refl _)
  · have isTokenized := isCut.isTokenized
    rw [List.nil_append, String.ofList_toList] at isTokenized
    exact .inl ⟨cut.reverse, isTokenized⟩
  · have isRefused := isCut.refused notBlank noStart
    rw [← isSplit, List.nil_append, String.ofList_toList] at isRefused
    rw [List.nil_append] at isSplit
    refine .inr ⟨before.length, _, isRefused, rfl, rfl, ⟨cut.reverse, ?_⟩, ⟨character, ?_, notBlank⟩,
      fun kind text isLexeme => ?_⟩
    · rw [isSplit, List.take_left]
      exact isCut.isTokenized
    · rw [isSplit, List.getElem?_append_right (Nat.le_refl _), Nat.sub_self]
      rfl
    · rw [isSplit, List.drop_left]
      exact startIsNone noStart isLexeme

end Letterpress.Script
