import Letterpress.Proofs.Script.Numeral

/-!
This file tells what the tokens of a source are like: where they stand, which of them finishes the
source, and where a source is that cannot be cut.
-/

namespace Letterpress.Script

/-! ### Lengths of tokens -/

theorem decimalFits (characters : List Char) :
    (characters.takeWhile Text.isDecimal).length ≤ characters.length :=
  (List.takeWhile_prefix _).length_le

theorem exponentFits (characters : List Char) :
    Token.exponentLength characters ≤ characters.length := by
  cases characters with
  | nil => exact Nat.le_refl _
  | cons letter rest =>
      by_cases isLetter : letter = 'e' ∨ letter = 'E'
      · obtain ⟨sign, after, rfl, isSign, unsigned⟩ := signIsSplit rest
        have fits := decimalFits after
        rw [exponentLengthSigned isLetter isSign unsigned, List.length_cons, List.length_append]
        split <;> omega
      · rw [exponentLengthOther rest isLetter]
        exact Nat.zero_le _

theorem numberFits (characters : List Char) : Token.numberLength characters ≤ characters.length := by
  obtain ⟨digits, rest, rfl, -, -, allDecimal, stops⟩ := Text.spanAdmitted Text.isDecimal characters
  by_cases hasPoint : rest.head? = some '.'
  · obtain ⟨after, rfl⟩ := List.head?_eq_some_iff.1 hasPoint
    have fits := exponentFits (after.drop (after.takeWhile Text.isDecimal).length)
    have isShort := decimalFits after
    rw [List.length_drop] at fits
    rw [lengthWithPoint allDecimal, List.length_append, List.length_cons]
    split <;> omega
  · have fits := exponentFits rest
    rw [lengthWithoutPoint allDecimal stops hasPoint, List.length_append]
    split <;> omega

theorem quotedFits {quotation : Char} {characters : List Char} {length : Nat}
    (isLength : Token.quotedLength quotation characters = some length) :
    length ≤ characters.length := by
  fun_induction Token.quotedLength quotation characters generalizing length
  case case1 => exact nomatch isLength
  case case2 rest =>
    obtain rfl := Option.some.inj isLength
    exact Nat.succ_le_succ (Nat.zero_le _)
  case case3 => exact nomatch isLength
  case case4 next after _ _ inductionHypothesis =>
    obtain ⟨inner, isInner, rfl⟩ := Option.map_eq_some_iff.1 isLength
    exact Nat.succ_le_succ (Nat.succ_le_succ (inductionHypothesis isInner))
  case case5 => exact nomatch isLength
  case case6 character rest _ _ inductionHypothesis =>
    obtain ⟨inner, isInner, rfl⟩ := Option.map_eq_some_iff.1 isLength
    exact Nat.succ_le_succ (inductionHypothesis isInner)

theorem textFits (characters : List Char) : Token.textLength characters ≤ characters.length := by
  cases characters with
  | nil => exact Nat.le_refl _
  | cons quotation rest =>
      rw [Token.textLength]
      split
      case isFalse => exact Nat.zero_le _
      case isTrue =>
        cases isQuoted : Token.quotedLength quotation rest with
        | none => exact Nat.zero_le _
        | some length => exact Nat.succ_le_succ (quotedFits isQuoted)

theorem nameFits (characters : List Char) : Token.nameLength characters ≤ characters.length := by
  cases characters with
  | nil => exact Nat.le_refl _
  | cons first rest =>
      have isShort : (rest.takeWhile Token.isNameContinue).length ≤ rest.length :=
        (List.takeWhile_prefix _).length_le
      rw [Token.nameLength, List.length_cons]
      split <;> omega

theorem operatorFits (characters : List Char) :
    Token.operatorLength characters ≤ characters.length := by
  unfold Token.operatorLength
  cases isFound : Token.operators.find? fun symbol => symbol.toList.isPrefixOf characters with
  | none => exact Nat.zero_le _
  | some symbol =>
      have isFront := List.find?_some isFound
      have fits := (List.isPrefixOf_iff_prefix.1 isFront).length_le
      rw [String.length_toList] at fits
      exact fits

/-- A token takes no more than there is, and it finishes nothing. -/
theorem startTakes {characters : List Char} {kind : TokenKind} {length : Nat}
    (starts : Token.start? characters = some (kind, length)) :
    0 < length ∧ length ≤ characters.length ∧ kind ≠ .finish ∧
      (kind = .number → length = Token.numberLength characters) := by
  have positive := List.find?_some starts
  have isCandidate := List.mem_of_find?_eq_some starts
  simp only [Token.candidates, List.mem_cons, List.not_mem_nil, or_false, Prod.mk.injEq]
    at isCandidate
  refine ⟨Nat.pos_of_ne_zero (by simpa using positive), ?_⟩
  obtain ⟨rfl, rfl⟩ | ⟨rfl, rfl⟩ | ⟨rfl, rfl⟩ | ⟨rfl, rfl⟩ := isCandidate
  · exact ⟨numberFits characters, by decide, fun _ => rfl⟩
  · exact ⟨textFits characters, by decide, fun isNumber => absurd isNumber (by decide)⟩
  · exact ⟨nameFits characters, by decide, fun isNumber => absurd isNumber (by decide)⟩
  · exact ⟨operatorFits characters, by decide, fun isNumber => absurd isNumber (by decide)⟩

/-! ### The tokens of a source -/

/-- A token before the end finishes nothing. A number has a value or too many digits. -/
structure Token.IsInside (limit : Nat) (token : Token) : Prop where
  notFinish : token.kind ≠ .finish
  position : token.position ≤ limit
  hasValue : token.kind = .number →
    (∃ expression, Parser.numberLiteral token.text = .ok expression) ∨
      IsTooLong token.text ∧ Parser.numberLiteral token.text = .error (.fault .badValue)

/-- These are the tokens of a source from one of them on. The last one finishes the source, and no
other does. -/
inductive IsStream (limit : Nat) : List Token → Prop
  | finish : IsStream limit [⟨.finish, "", limit⟩]
  | token {token : Token} {rest : List Token} (isInside : token.IsInside limit)
      (isStream : IsStream limit rest) : IsStream limit (token :: rest)

theorem IsStream.position {limit : Nat} {tokens : List Token} (isStream : IsStream limit tokens) :
    ∀ token ∈ tokens, token.position ≤ limit := by
  induction isStream with
  | finish => simp
  | token isInside _ inductionHypothesis =>
      exact List.forall_mem_cons.2 ⟨isInside.position, inductionHypothesis⟩

theorem startIsInside {characters : List Char} {kind : TokenKind} {length limit position : Nat}
    (starts : Token.start? characters = some (kind, length)) (isBefore : position ≤ limit) :
    Token.IsInside limit ⟨kind, String.ofList (characters.take length), position⟩ := by
  obtain ⟨positive, -, notFinish, isNumber⟩ := startTakes starts
  refine ⟨notFinish, isBefore, fun isKind => ?_⟩
  obtain rfl := isNumber isKind
  exact numberHasValue positive.ne' String.toList_ofList

/-- A source is cut up to its end, or a character in it begins no token. -/
theorem cutSettles (source : String) (cut : List Token) {fuel position : Nat}
    {characters : List Char} (enough : characters.length ≤ fuel)
    (place : position + characters.length = source.length) :
    (∃ rest, Token.cutFrom source cut fuel position characters = .ok (cut.reverse ++ rest) ∧
      IsStream source.length rest ∧ rest.length ≤ characters.length + 1) ∨
    ∃ offset character, Token.cutFrom source cut fuel position characters =
      .error (.unexpectedCharacter source offset character) ∧ offset < source.length := by
  induction fuel generalizing cut position characters with
  | zero =>
      obtain rfl := List.eq_nil_of_length_eq_zero (Nat.le_zero.1 enough)
      obtain rfl : position = source.length := place
      exact .inl ⟨_, congrArg Except.ok List.reverse_cons, .finish, Nat.le_refl 1⟩
  | succ fuel inductionHypothesis =>
      cases characters with
      | nil =>
          obtain rfl : position = source.length := place
          exact .inl ⟨_, congrArg Except.ok List.reverse_cons, .finish, Nat.le_refl 1⟩
      | cons character rest =>
          rw [List.length_cons] at enough place
          rw [Token.cutFrom, List.length_cons]
          split
          case isTrue =>
            have next : position + 1 + rest.length = source.length := by omega
            obtain ⟨others, isCut, isStream, isShort⟩ | refused :=
              inductionHypothesis cut (Nat.le_of_succ_le_succ enough) next
            · exact .inl ⟨others, isCut, isStream, by omega⟩
            · exact .inr refused
          case isFalse =>
            split
            case h_1 => exact .inr ⟨position, character, rfl, by omega⟩
            case h_2 kind length starts =>
              obtain ⟨positive, fits, -⟩ := startTakes starts
              have isInside : Token.IsInside source.length ⟨kind, _, position⟩ :=
                startIsInside starts (by omega)
              have isDropped : ((character :: rest).drop length).length = rest.length + 1 - length :=
                List.length_drop
              rw [List.length_cons] at fits
              have less : ((character :: rest).drop length).length ≤ fuel := by omega
              have next : position + length + ((character :: rest).drop length).length =
                  source.length := by omega
              obtain ⟨others, isCut, isStream, isShort⟩ | refused :=
                inductionHypothesis (⟨kind, _, position⟩ :: cut) less next
              · refine .inl ⟨_ :: others, ?_, .token isInside isStream, ?_⟩
                · rw [isCut, List.reverse_cons, List.append_assoc]
                  rfl
                · rw [List.length_cons]
                  omega
              · exact .inr refused

theorem tokensSettle (source : String) :
    (∃ tokens, tokenize source = .ok tokens ∧ IsStream source.length tokens ∧
      tokens.length ≤ source.length + 1) ∨
    ∃ position character, tokenize source = .error (.unexpectedCharacter source position character) ∧
      position < source.length := by
  have place : 0 + source.toList.length = source.length := by
    rw [Nat.zero_add, String.length_toList]
  have settled := cutSettles source [] (Nat.le_refl source.toList.length) place
  rwa [String.length_toList] at settled

end Letterpress.Script
