import Letterpress.Proofs.Script.SourceToken

/-!
This file gives the language of every kind of token apart from the cutting, and shows that the
cutting takes the longest text of that language.
-/

namespace Letterpress.Script

/-! ### The languages -/

/-- This is what follows an opening quote, up to and with the closing one. -/
inductive ClosesQuotes (quotation : Char) : List Char → Prop
  | closing : ClosesQuotes quotation [quotation]
  | plain {character : Char} {rest : List Char} (notQuote : character ≠ quotation)
      (notBackslash : character ≠ '\\') (closes : ClosesQuotes quotation rest) :
      ClosesQuotes quotation (character :: rest)
  | escape {next : Char} {rest : List Char} (notLineFeed : next ≠ '\n')
      (closes : ClosesQuotes quotation rest) : ClosesQuotes quotation ('\\' :: next :: rest)

/-- The texts that a token of a kind may have. The finishing token takes no text. -/
inductive IsLexeme : TokenKind → List Char → Prop
  | number {mantissa exponent : List Char} (isMantissa : IsMantissa mantissa)
      (isExponent : IsExponent exponent) : IsLexeme .number (mantissa ++ exponent)
  | text {quotation : Char} {inside : List Char} (isQuote : quotation = '"' ∨ quotation = '\'')
      (closes : ClosesQuotes quotation inside) : IsLexeme .text (quotation :: inside)
  | name {first : Char} {more : List Char} (starts : Token.isNameStart first = true)
      (continues : ∀ character ∈ more, Token.isNameContinue character = true) :
      IsLexeme .name (first :: more)
  | operator {symbol : String} (isOperator : symbol ∈ Token.operators) :
      IsLexeme .operator symbol.toList

/-- The length is that of the longest beginning which is a lexeme, and zero without one. -/
structure IsLongest (kind : TokenKind) (characters : List Char) (length : Nat) : Prop where
  taken : length ≠ 0 → IsLexeme kind (characters.take length)
  longest : ∀ {front : List Char}, IsLexeme kind front → front <+: characters →
    front.length ≤ length

/-! ### Numbers -/

theorem exponentIsLongest {exponent : List Char} (isExponent : IsExponent exponent)
    (rest : List Char) : exponent.length ≤ Token.exponentLength (exponent ++ rest) := by
  cases isExponent with
  | absent => exact Nat.zero_le _
  | @present letter sign digits isLetter isSign notEmpty allDecimal =>
      have isTaken : (digits ++ rest).takeWhile Text.isDecimal =
          digits ++ rest.takeWhile Text.isDecimal := List.takeWhile_append_of_pos allDecimal
      have unsigned : sign = [] → ∀ first, (digits ++ rest).head? = some first →
          first ≠ '+' ∧ first ≠ '-' := by
        intro _ first isFirst
        rw [List.head?_append_of_ne_nil _ notEmpty] at isFirst
        have isDecimal := allDecimal first (List.mem_of_mem_head? isFirst)
        constructor <;> rintro rfl <;> exact absurd isDecimal (by decide)
      have isCons : letter :: (sign ++ digits) ++ rest = letter :: (sign ++ (digits ++ rest)) := by
        simp
      rw [isCons, exponentLengthSigned isLetter isSign unsigned, if_neg (by simp [isTaken, notEmpty]),
        isTaken]
      simp only [List.length_cons, List.length_append]
      omega

/-- Digits and an exponent are within the longest digits and the exponent after these. -/
theorem digitsAndExponent {digits exponent : List Char}
    (allDecimal : ∀ digit ∈ digits, Text.isDecimal digit = true) (isExponent : IsExponent exponent)
    {rest longer after : List Char} (same : digits ++ (exponent ++ rest) = longer ++ after)
    (allLonger : ∀ digit ∈ longer, Text.isDecimal digit = true)
    (stops : Text.StopsAt Text.isDecimal after) :
    digits.length ≤ longer.length ∧
      digits.length + exponent.length ≤ longer.length + Token.exponentLength after := by
  have isLonger : (digits ++ (exponent ++ rest)).takeWhile Text.isDecimal = longer := by
    rw [same, Text.takeWhileOfStop allLonger stops]
  rw [List.takeWhile_append_of_pos allDecimal] at isLonger
  have isShort : digits.length ≤ longer.length := by
    rw [← isLonger, List.length_append]
    exact Nat.le_add_right _ _
  refine ⟨isShort, ?_⟩
  cases isExponent with
  | absent => exact Nat.le_add_right_of_le isShort
  | @present letter sign more isLetter isSign notEmpty moreDecimal =>
      have isPresent := IsExponent.present isLetter isSign notEmpty moreDecimal
      have notDecimal : Text.isDecimal letter = false := by rcases isLetter with rfl | rfl <;> decide
      obtain ⟨rfl, rfl⟩ := Text.admittedUnique allDecimal (Text.stopsAtCons notDecimal) allLonger
        stops same
      exact Nat.add_le_add_left (exponentIsLongest isPresent rest) _

theorem wholeNumberFits {digits exponent : List Char} (notEmpty : digits ≠ [])
    (allDecimal : ∀ digit ∈ digits, Text.isDecimal digit = true) (isExponent : IsExponent exponent)
    (rest : List Char) :
    digits.length + exponent.length ≤ Token.numberLength (digits ++ (exponent ++ rest)) := by
  obtain ⟨longer, after, same, -, -, allLonger, stops⟩ :=
    Text.spanAdmitted Text.isDecimal (digits ++ (exponent ++ rest))
  obtain ⟨isShort, isWithin⟩ := digitsAndExponent allDecimal isExponent same allLonger stops
  have positive := List.length_pos_iff.2 notEmpty
  rw [same]
  by_cases hasPoint : after.head? = some '.'
  · obtain ⟨fraction, rfl⟩ := List.head?_eq_some_iff.1 hasPoint
    have noExponent : Token.exponentLength ('.' :: fraction) = 0 :=
      exponentLengthOther fraction (by decide)
    have hasDigits : longer ≠ [] := List.ne_nil_of_length_pos (by omega)
    rw [lengthWithPoint allLonger, if_neg fun noDigits => hasDigits noDigits.1]
    omega
  · rw [lengthWithoutPoint allLonger stops hasPoint, if_neg (by omega)]
    exact isWithin

theorem pointedNumberFits {digits fraction exponent : List Char}
    (notEmpty : digits ≠ [] ∨ fraction ≠ [])
    (allDecimal : ∀ digit ∈ digits, Text.isDecimal digit = true)
    (fractionDecimal : ∀ digit ∈ fraction, Text.isDecimal digit = true)
    (isExponent : IsExponent exponent) (rest : List Char) :
    digits.length + 1 + fraction.length + exponent.length ≤
      Token.numberLength (digits ++ '.' :: (fraction ++ (exponent ++ rest))) := by
  obtain ⟨longer, after, same, isLonger, isAfter, allLonger, stops⟩ :=
    Text.spanAdmitted Text.isDecimal (fraction ++ (exponent ++ rest))
  obtain ⟨isShort, isWithin⟩ := digitsAndExponent fractionDecimal isExponent same allLonger stops
  have hasDigits : ¬ (digits = [] ∧ longer = []) := by
    rintro ⟨rfl, rfl⟩
    have noFraction := List.eq_nil_of_length_eq_zero (Nat.le_zero.1 isShort)
    exact notEmpty.elim (absurd rfl) (absurd noFraction)
  rw [lengthWithPoint allDecimal, isLonger, isAfter, if_neg hasDigits]
  omega

theorem numberIsLongest (characters : List Char) :
    IsLongest .number characters (Token.numberLength characters) where
  taken := by
    intro isNumber
    obtain ⟨mantissa, exponent, isMantissa, isExponent, isTaken⟩ := numberIsTaken isNumber
    exact isTaken ▸ .number isMantissa isExponent
  longest := by
    rintro _ ⟨isMantissa, isExponent⟩ ⟨rest, rfl⟩
    rw [List.length_append, List.append_assoc]
    cases isMantissa with
    | whole notEmpty allDecimal => exact wholeNumberFits notEmpty allDecimal isExponent rest
    | pointed notEmpty allDecimal fractionDecimal =>
        have fits := pointedNumberFits notEmpty allDecimal fractionDecimal isExponent rest
        rw [List.append_assoc, List.cons_append, List.length_append, List.length_cons]
        omega

/-! ### Texts -/

theorem quotedCloses {quotation : Char} {characters : List Char} {length : Nat}
    (isLength : Token.quotedLength quotation characters = some length) :
    ClosesQuotes quotation (characters.take length) := by
  fun_induction Token.quotedLength quotation characters generalizing length
  case case1 => cases isLength
  case case2 rest =>
    obtain rfl := Option.some.inj isLength
    exact .closing
  case case3 => cases isLength
  case case4 next after notLineFeed _ inductionHypothesis =>
    obtain ⟨inner, isInner, rfl⟩ := Option.map_eq_some_iff.1 isLength
    exact .escape notLineFeed (inductionHypothesis isInner)
  case case5 => cases isLength
  case case6 character rest notQuote notBackslash inductionHypothesis =>
    obtain ⟨inner, isInner, rfl⟩ := Option.map_eq_some_iff.1 isLength
    exact .plain notQuote notBackslash (inductionHypothesis isInner)

theorem closesQuoted {quotation : Char} (notBackslash : quotation ≠ '\\') {inside : List Char}
    (closes : ClosesQuotes quotation inside) (rest : List Char) :
    Token.quotedLength quotation (inside ++ rest) = some inside.length := by
  induction closes with
  | closing => rw [List.singleton_append, Token.quotedLength.eq_def]; exact if_pos rfl
  | plain notQuote isPlain _ inductionHypothesis =>
      rw [List.cons_append, Token.quotedLength.eq_def]
      simp [notQuote, isPlain, inductionHypothesis]
  | escape notLineFeed _ inductionHypothesis =>
      rw [List.cons_append, List.cons_append, Token.quotedLength.eq_def]
      simp [notBackslash.symm, notLineFeed, inductionHypothesis]

theorem textIsLongest (characters : List Char) :
    IsLongest .text characters (Token.textLength characters) where
  taken := by
    intro isText
    cases characters with
    | nil => exact absurd rfl isText
    | cons quotation rest =>
        rw [Token.textLength] at isText ⊢
        split at isText
        case isFalse => exact absurd rfl isText
        case isTrue isQuote =>
          rw [if_pos isQuote]
          cases isLength : Token.quotedLength quotation rest with
          | none => simp [isLength] at isText
          | some length => exact .text (by simpa using isQuote) (quotedCloses isLength)
  longest := by
    rintro _ isLexeme ⟨rest, rfl⟩
    cases isLexeme with
    | @text quotation inside isQuote closes =>
        have notBackslash : quotation ≠ '\\' := by rcases isQuote with rfl | rfl <;> decide
        rw [List.cons_append, Token.textLength, if_pos (by simpa using isQuote),
          closesQuoted notBackslash closes]
        exact Nat.le_refl _

/-! ### Names -/

theorem nameIsLongest (characters : List Char) :
    IsLongest .name characters (Token.nameLength characters) where
  taken := by
    intro isName
    cases characters with
    | nil => exact absurd rfl isName
    | cons first rest =>
        rw [Token.nameLength] at isName ⊢
        split at isName
        case isFalse => exact absurd rfl isName
        case isTrue starts =>
          rw [if_pos starts, Nat.add_comm, List.take_succ_cons, takeAdmitted]
          exact .name starts fun _ => List.mem_takeWhile_imp
  longest := by
    rintro _ isLexeme ⟨rest, rfl⟩
    cases isLexeme with
    | name starts continues =>
        rw [List.cons_append, Token.nameLength, if_pos starts,
          List.takeWhile_append_of_pos continues, List.length_cons, List.length_append]
        omega

/-! ### Operators -/

/-- No operator is the beginning of a later one. -/
theorem operatorsDescend : Token.operators.Pairwise fun earlier later =>
    ¬ earlier.toList <+: later.toList := by
  decide

/-- The operator that is found first is the longest one, as the others that begin the same text
come later in the list. -/
theorem foundOperatorIsLongest {characters : List Char} {symbol other : String}
    (isFound : (Token.operators.find? fun symbol => symbol.toList.isPrefixOf characters) =
      some symbol) (isOther : other ∈ Token.operators) (otherFront : other.toList <+: characters) :
    other.toList.length ≤ symbol.toList.length := by
  obtain ⟨isFront, before, after, isSplit, notBefore⟩ := List.find?_eq_some_iff_append.1 isFound
  have descends := operatorsDescend
  rw [isSplit] at isOther descends
  rcases List.mem_append.1 isOther with isBefore | isAfter
  · have absent := notBefore other isBefore
    simp [List.isPrefixOf_iff_prefix.2 otherFront] at absent
  · rcases List.mem_cons.1 isAfter with rfl | isAfter
    · exact Nat.le_refl _
    · have notFront := List.rel_of_pairwise_cons (List.pairwise_append.1 descends).2.1 isAfter
      by_contra isLonger
      exact notFront (List.prefix_of_prefix_length_le (List.isPrefixOf_iff_prefix.1 isFront)
        otherFront (Nat.le_of_not_le isLonger))

theorem operatorIsLongest (characters : List Char) :
    IsLongest .operator characters (Token.operatorLength characters) := by
  unfold Token.operatorLength
  cases isFound : Token.operators.find? fun symbol => symbol.toList.isPrefixOf characters with
  | none =>
      refine ⟨fun isOperator => absurd rfl isOperator, fun isLexeme isFront => ?_⟩
      cases isLexeme with
      | operator isOperator =>
          have absent := List.find?_eq_none.1 isFound _ isOperator
          exact absurd (List.isPrefixOf_iff_prefix.2 isFront) absent
  | some symbol =>
      have begins := List.find?_some isFound
      have isFront := List.isPrefixOf_iff_prefix.1 begins
      rw [Option.map_some, Option.getD_some, ← String.length_toList]
      refine ⟨fun _ => ?_, fun isLexeme otherFront => ?_⟩
      · rw [← List.prefix_iff_eq_take.1 isFront]
        exact .operator (List.mem_of_find?_eq_some isFound)
      · cases isLexeme with
        | operator isOther => exact foundOperatorIsLongest isFound isOther otherFront

/-! ### Where a token starts -/

/-- The kinds in the order in which they are tried. -/
def triedKinds : List TokenKind := [.number, .text, .name, .operator]

/-- This is how many characters a token of the kind takes. -/
def TokenKind.length : TokenKind → List Char → Nat
  | number => Token.numberLength
  | text => Token.textLength
  | name => Token.nameLength
  | operator => Token.operatorLength
  | finish => fun _ => 0

theorem lengthIsLongest (kind : TokenKind) (characters : List Char) :
    IsLongest kind characters (kind.length characters) := by
  cases kind with
  | number => exact numberIsLongest characters
  | text => exact textIsLongest characters
  | name => exact nameIsLongest characters
  | operator => exact operatorIsLongest characters
  | finish => exact ⟨absurd rfl, fun isLexeme => nomatch isLexeme⟩

theorem lengthFits (kind : TokenKind) (characters : List Char) :
    kind.length characters ≤ characters.length := by
  cases kind with
  | number => exact numberFits characters
  | text => exact textFits characters
  | name => exact nameFits characters
  | operator => exact operatorFits characters
  | finish => exact Nat.zero_le _

theorem startIsFirst (characters : List Char) :
    Token.start? characters = (triedKinds.find? fun kind => kind.length characters ≠ 0).map
      fun kind => (kind, kind.length characters) := by
  have isMapped : Token.candidates characters =
      triedKinds.map fun kind => (kind, kind.length characters) := rfl
  rw [Token.start?, isMapped, List.find?_map]
  rfl

section

variable {characters front : List Char} {kind : TokenKind} {length : Nat}

theorem IsLexeme.isTried (isLexeme : IsLexeme kind front) : kind ∈ triedKinds := by
  cases isLexeme <;> decide

theorem IsLexeme.notEmpty (isLexeme : IsLexeme kind front) : front ≠ [] := by
  cases isLexeme with
  | number isMantissa =>
      cases isMantissa with
      | whole notEmpty => exact List.append_ne_nil_of_left_ne_nil notEmpty _
      | pointed => simp
  | text => exact List.cons_ne_nil _ _
  | name => exact List.cons_ne_nil _ _
  | operator isOperator =>
      have allTexts : ∀ symbol ∈ Token.operators, symbol.toList ≠ [] := by decide
      exact allTexts _ isOperator

/-- A shorter text begins with no longer lexeme. -/
theorem lengthGrows (kind : TokenKind) (isFront : front <+: characters) :
    kind.length front ≤ kind.length characters := by
  by_cases isZero : kind.length front = 0
  · exact isZero ▸ Nat.zero_le _
  · have isLexeme := (lengthIsLongest kind front).taken isZero
    have isShort := (lengthIsLongest kind characters).longest isLexeme
      ((List.take_prefix _ _).trans isFront)
    rwa [List.length_take, Nat.min_eq_left (lengthFits kind front)] at isShort

theorem startIff : Token.start? characters = some (kind, length) ↔
    (triedKinds.find? fun kind => kind.length characters ≠ 0) = some kind ∧
      kind.length characters = length := by
  rw [startIsFirst, Option.map_eq_some_iff]
  constructor
  · rintro ⟨_, isFound, same⟩
    obtain ⟨rfl, rfl⟩ := Prod.mk.inj same
    exact ⟨isFound, rfl⟩
  · rintro ⟨isFound, rfl⟩
    exact ⟨kind, isFound, rfl⟩

theorem startIsLexeme (starts : Token.start? characters = some (kind, length)) :
    IsLexeme kind (characters.take length) := by
  obtain ⟨isFound, rfl⟩ := startIff.1 starts
  exact (lengthIsLongest kind characters).taken (by simpa using List.find?_some isFound)

/-- A source is the text of its first token and the rest. -/
theorem startIsText (starts : Token.start? characters = some (kind, length)) :
    ∃ text : String, ∃ less, characters = text.toList ++ less ∧ text.toList.length = length ∧
      IsLexeme kind text.toList := by
  obtain ⟨-, fits, -⟩ := startTakes starts
  refine ⟨String.ofList (characters.take length), characters.drop length, ?_⟩
  rw [String.toList_ofList]
  exact ⟨(List.take_append_drop _ _).symm, List.length_take_of_le fits, startIsLexeme starts⟩

/-- No token starts where no lexeme does. -/
theorem startIsNone (noStart : Token.start? characters = none) (isLexeme : IsLexeme kind front) :
    ¬ front <+: characters := by
  intro isFront
  rw [startIsFirst, Option.map_eq_none_iff, List.find?_eq_none] at noStart
  have isZero : kind.length characters = 0 := by simpa using noStart kind isLexeme.isTried
  have isShort := (lengthIsLongest kind characters).longest isLexeme isFront
  rw [isZero, Nat.le_zero, List.length_eq_zero_iff] at isShort
  exact isLexeme.notEmpty isShort

/-- What follows a token is not needed to cut it off. -/
theorem startWithin (isFront : front <+: characters)
    (starts : Token.start? characters = some (kind, length)) (fits : length ≤ front.length) :
    Token.start? front = some (kind, length) := by
  have isLexeme := startIsLexeme starts
  obtain ⟨isFound, rfl⟩ := startIff.1 starts
  obtain ⟨isNonzero, earlier, later, isSplit, allZero⟩ := List.find?_eq_some_iff_append.1 isFound
  have isTaken : characters.take (kind.length characters) = front.take (kind.length characters) := by
    rw [List.prefix_iff_eq_take.1 isFront, List.take_take, Nat.min_eq_left fits]
  have sameLength : kind.length front = kind.length characters := by
    refine Nat.le_antisymm (lengthGrows kind isFront) ?_
    have isShort := (lengthIsLongest kind front).longest (isTaken ▸ isLexeme) (List.take_prefix _ _)
    rwa [List.length_take, Nat.min_eq_left fits] at isShort
  refine startIff.2 ⟨List.find?_eq_some_iff_append.2 ⟨?_, earlier, later, isSplit, ?_⟩, sameLength⟩
  · rwa [sameLength]
  · intro other isEarlier
    have isZero := allZero other isEarlier
    have notLonger := lengthGrows other isFront
    simp only [ne_eq, decide_not, Bool.not_not, decide_eq_true_eq] at isZero ⊢
    omega

end

end Letterpress.Script
