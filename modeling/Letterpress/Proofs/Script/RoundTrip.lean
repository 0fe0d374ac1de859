import Letterpress.Proofs.Script.Precedence
import Letterpress.Proofs.Script.Tokenizing

/-!
This file shows that a printed program is read back as the same program.
-/

open Letterpress.Script.Parser Letterpress.Script.Expression

namespace Letterpress.Script

variable {slice : Nat → Nat → String} {depth : Nat} {tokens : List Token} {words : List Word}

/-! ### First words -/

/-- These words begin no expression at a place where a rank is allowed. -/
def closingSymbols (allowed : Nat) : List String :=
  [")", "]", ";", "delete", "var", "let", "const"] ++ if allowed = 0 then ["!", "-", "+"] else []

def Word.Opens (allowed : Nat) (word : Word) : Prop :=
  word.kind ≠ .finish ∧ ∀ symbol ∈ closingSymbols allowed, isWordSymbol word symbol = false

def BeginsWell (allowed : Nat) (words : List Word) : Prop :=
  ∃ first more, words = first :: more ∧ first.Opens allowed

theorem Word.Opens.loose {allowed : Nat} {word : Word} (opens : word.Opens 0) :
    word.Opens allowed := by
  refine ⟨opens.1, fun symbol isInside => opens.2 symbol ?_⟩
  unfold closingSymbols at isInside ⊢
  split at isInside
  · exact isInside
  · exact List.mem_append_left _ (by simpa using isInside)

theorem Word.Opens.tight {allowed other : Nat} {word : Word} (opens : word.Opens other)
    (notZero : allowed ≠ 0) : word.Opens allowed := by
  refine ⟨opens.1, fun symbol isInside => opens.2 symbol ?_⟩
  unfold closingSymbols at isInside ⊢
  rw [if_neg notZero] at isInside
  exact List.mem_append_left _ (by simpa using isInside)

theorem BeginsWell.append {allowed other : Nat} {others : List Word}
    (begins : BeginsWell other words) (isTighter : other = 0 ∨ allowed ≠ 0) :
    BeginsWell allowed (words ++ others) := by
  obtain ⟨first, more, rfl, opens⟩ := begins
  refine ⟨first, more ++ others, rfl, ?_⟩
  obtain rfl | notZero := isTighter
  · exact opens.loose
  · exact opens.tight notZero

theorem BeginsWell.enclose {allowed rank : Nat} (positive : rank ≠ 0)
    (begins : BeginsWell rank words) : BeginsWell allowed (Word.enclose allowed rank words) := by
  unfold Word.enclose
  split
  case isTrue isAllowed =>
    rw [← List.append_nil words]
    exact begins.append (.inr (by omega))
  case isFalse =>
    refine ⟨.symbol "(", _, rfl, ?_⟩
    have opensZero : (Word.symbol "(").Opens 0 := ⟨by decide, by decide⟩
    exact opensZero.loose

theorem literalOpens (value : Literal) : value.word.Opens 0 := by
  cases value with
  | null => exact ⟨by decide, by decide⟩
  | bool value => cases value <;> exact ⟨by decide, by decide⟩
  | int value => exact ⟨nofun, fun _ _ => rfl⟩
  | real value => exact ⟨nofun, fun _ _ => rfl⟩
  | text value => exact ⟨nofun, fun _ _ => rfl⟩

theorem plainNameOpens {itemName : String} (plain : isPlainName itemName = true) :
    (Word.name itemName).Opens 0 := by
  have notPlain : ∀ symbol ∈ closingSymbols 0, isPlainName symbol = false := by decide
  refine ⟨nofun, fun symbol isInside => ?_⟩
  have differs : itemName ≠ symbol := by
    rintro rfl
    exact Bool.false_ne_true ((notPlain itemName isInside).symm.trans plain)
  simp [isWordSymbol, Word.name, differs]

/-- The first word of an expression closes nothing and begins no statement of another kind. -/
theorem expressionBegins {expression : Expression} (printable : expression.IsPrintable) :
    ∀ allowed, BeginsWell allowed (expression.words allowed) := by
  induction printable with
  | literal _ => exact fun _ => ⟨_, [], rfl, (literalOpens _).loose⟩
  | name plain => exact fun _ => ⟨_, [], rfl, (plainNameOpens plain).loose⟩
  | this =>
      have opens : (Word.name "this").Opens 0 := ⟨by decide, by decide⟩
      exact fun _ => ⟨_, [], rfl, opens.loose⟩
  | array _ _ =>
      have opens : (Word.symbol "[").Opens 0 := ⟨by decide, by decide⟩
      exact fun _ => ⟨_, _, rfl, opens.loose⟩
  | member _ _ object _ =>
      intro allowed
      rw [Expression.words]
      exact (object 0).append (.inl rfl)
  | call _ _ callee _ =>
      intro allowed
      rw [Expression.words]
      exact (callee 0).append (.inl rfl)
  | @unary operator _ _ _ =>
      intro allowed
      refine BeginsWell.enclose (by decide) ⟨_, _, rfl, ?_⟩
      cases operator <;> exact ⟨by decide, by decide⟩
  | @binary operator _ _ _ _ left _ =>
      intro allowed
      have positive : operator.rank ≠ 0 := by cases operator <;> decide
      exact BeginsWell.enclose positive ((left _).append (.inr positive))
  | @logical operator _ _ _ _ left _ =>
      intro allowed
      have positive : operator.rank ≠ 0 := by cases operator <;> decide
      exact BeginsWell.enclose positive ((left _).append (.inr positive))
  | conditional _ _ _ test _ _ =>
      exact fun allowed => BeginsWell.enclose (by decide) ((test _).append (.inr (by decide)))
  | assignName plain _ _ =>
      exact fun allowed =>
        BeginsWell.enclose (by decide) ⟨_, _, rfl, (plainNameOpens plain).loose⟩
  | assignMember _ _ _ object _ _ =>
      exact fun allowed => BeginsWell.enclose (by decide) ((object _).append (.inl rfl))

theorem noUnaryOf (spelled : tokens.map Token.word = words) (begins : BeginsWell 0 words) :
    NoUnary tokens := by
  obtain ⟨first, more, rfl, opens⟩ := begins
  obtain ⟨token, others, rfl, rfl, -⟩ := List.map_eq_cons_iff.1 spelled
  refine ⟨token, others, rfl, fun symbol isUnary => opens.2 symbol ?_⟩
  exact List.mem_append_right _ isUnary

theorem notAcceptedOf {allowed : Nat} (spelled : tokens.map Token.word = words)
    (begins : BeginsWell allowed words) {symbol : String}
    (isClosing : symbol ∈ closingSymbols allowed) (rest : List Token) :
    accept? symbol (tokens ++ rest) = none := by
  obtain ⟨first, more, rfl, opens⟩ := begins
  obtain ⟨token, others, rfl, rfl, -⟩ := List.map_eq_cons_iff.1 spelled
  rw [List.cons_append, acceptWord rfl, opens.2 symbol isClosing, if_neg nofun]

/-! ### Spelled tokens -/

theorem spelledBefore {closing : Word} (spelled : tokens.map Token.word = words ++ [closing]) :
    ∃ inside last, tokens = inside ++ [last] ∧ inside.map Token.word = words ∧
      last.word = closing := by
  obtain ⟨inside, lasts, rfl, spelledInside, spelledLast⟩ := List.map_eq_append_iff.1 spelled
  obtain ⟨last, rfl, isClosing⟩ := List.map_eq_singleton_iff.1 spelledLast
  exact ⟨inside, last, rfl, spelledInside, isClosing⟩

theorem spelledBetween {opening closing : Word}
    (spelled : tokens.map Token.word = opening :: (words ++ [closing])) :
    ∃ first inside last, tokens = first :: (inside ++ [last]) ∧ first.word = opening ∧
      inside.map Token.word = words ∧ last.word = closing := by
  obtain ⟨first, others, rfl, isOpening, spelledOthers⟩ := List.map_eq_cons_iff.1 spelled
  obtain ⟨inside, last, rfl, spelledInside, isClosing⟩ := spelledBefore spelledOthers
  exact ⟨first, inside, last, rfl, isOpening, spelledInside, isClosing⟩

theorem spelledAround {left right : List Word} {word : Word}
    (spelled : tokens.map Token.word = left ++ word :: right) :
    ∃ leftTokens token rightTokens, tokens = leftTokens ++ token :: rightTokens ∧
      leftTokens.map Token.word = left ∧ token.word = word ∧
        rightTokens.map Token.word = right := by
  obtain ⟨leftTokens, others, rfl, spelledLeft, spelledOthers⟩ := List.map_eq_append_iff.1 spelled
  obtain ⟨token, rightTokens, rfl, isWord, spelledRight⟩ := List.map_eq_cons_iff.1 spelledOthers
  exact ⟨leftTokens, token, rightTokens, rfl, spelledLeft, isWord, spelledRight⟩

theorem spelledSuffix {left : List Word} {opening closing : Word}
    (spelled : tokens.map Token.word = left ++ opening :: (words ++ [closing])) :
    ∃ leftTokens first inside last, tokens = leftTokens ++ first :: (inside ++ [last]) ∧
      leftTokens.map Token.word = left ∧ first.word = opening ∧
        inside.map Token.word = words ∧ last.word = closing := by
  obtain ⟨leftTokens, first, others, rfl, spelledLeft, isOpening, spelledOthers⟩ :=
    spelledAround spelled
  obtain ⟨inside, last, rfl, spelledInside, isClosing⟩ := spelledBefore spelledOthers
  exact ⟨leftTokens, first, inside, last, rfl, spelledLeft, isOpening, spelledInside, isClosing⟩

/-! ### Expressions -/

/-- Wherever it may stand, the printed expression leads to itself. -/
def ReadsBack (slice : Nat → Nat → String) (depth : Nat) (expression : Expression) : Prop :=
  ∀ allowed ≤ assignmentRank, ∀ tokens, tokens.map Token.word = expression.words allowed →
    Leads slice depth allowed tokens expression

/-- An expression can be read everywhere if it can be read at its own rank. Parentheses take one
level of nesting. -/
theorem readsBackOfOwn {expression : Expression} (printable : expression.IsPrintable)
    (notLeaf : expression.rank ≠ 0 → expression.height ≠ 0)
    (own : ∀ depth, 2 * expression.height ≤ depth + 1 → ∀ tokens,
      tokens.map Token.word = expression.words assignmentRank →
        Leads slice depth expression.rank tokens expression)
    (enough : 2 * expression.height ≤ depth) : ReadsBack slice depth expression := by
  intro allowed isAllowed tokens spelled
  rw [wordsEnclosed, Word.enclose] at spelled
  split at spelled
  case isTrue isTight =>
    refine (own depth (by omega) tokens spelled).climbTo (fun isZero => ?_) isTight isAllowed
    have sameWords : expression.words 0 = expression.words assignmentRank := by
      rw [wordsEnclosed, Word.enclose, if_pos (Nat.le_of_eq isZero)]
    exact noUnaryOf spelled (sameWords ▸ expressionBegins printable 0)
  case isFalse isLoose =>
    obtain ⟨opening, inside, closing, rfl, isOpening, spelledInside, isClosing⟩ :=
      spelledBetween spelled
    -- Inside of the parentheses one level less is left, which is enough for the expression itself.
    have positive := notLeaf (by omega)
    cases depth with
    | zero => omega
    | succ depth =>
        have leads := (own depth enough inside spelledInside).climbTo (fun isZero => by omega)
          (rankBound expression) (Nat.le_refl _)
        refine (leadsParenthesized isOpening isClosing leads).climbTo (fun _ => ?_)
          (Nat.zero_le _) isAllowed
        have opens : (Word.symbol "(").Opens 0 := ⟨by decide, by decide⟩
        exact noUnaryOf spelled ⟨_, _, rfl, opens⟩

/-- The parts of an expression are one level lower or deeper. -/
theorem readsBackOfParts {expression : Expression} {below : Nat}
    (printable : expression.IsPrintable) (isHeight : expression.height = below + 1)
    (own : ∀ depth, 2 * below ≤ depth → ∀ tokens,
      tokens.map Token.word = expression.words assignmentRank →
        Leads slice (depth + 1) expression.rank tokens expression)
    (enough : 2 * expression.height ≤ depth) : ReadsBack slice depth expression := by
  refine readsBackOfOwn printable (fun _ => by omega) (fun depth enough tokens spelled => ?_) enough
  cases depth with
  | zero => omega
  | succ depth => exact own depth (by omega) tokens spelled

/-! ### Primary expressions -/

theorem toAsciiDigitSame {digit : Char} (isDigit : digit.isDigit = true) :
    toAsciiDigit digit = digit := by
  have isAlphanum : digit.isAlphanum = true := by simp [Char.isAlphanum, isDigit]
  have isAscii : ¬ 128 ≤ digit.toNat := by
    rw [Text.isAlphanumIff] at isAlphanum
    omega
  simp [toAsciiDigit, isAscii]

theorem numberIsRead {value : Nat} (bounded : (decimalDigits value).length ≤ Json.maximalDigits) :
    numberLiteral (decimalText value) = .ok (.literal (.int value)) := by
  have sameDigits : (decimalDigits value).map toAsciiDigit = decimalDigits value := by
    refine (List.map_congr_left fun digit isInside => ?_).trans (List.map_id _)
    exact toAsciiDigitSame (digitsAreDigits value digit isInside)
  have allDigits : (decimalDigits value).all Char.isDigit = true :=
    List.all_eq_true.2 (digitsAreDigits value)
  simp only [numberLiteral, decimalText, String.toList_ofList, sameDigits, allDigits, if_true,
    if_neg (Nat.not_lt.2 bounded), readDigits]

theorem literalIsRead {value : Literal} (printable : value.IsPrintable)
    (spelled : tokens.map Token.word = [value.word]) :
    Leads slice depth 0 tokens (.literal value) := by
  obtain ⟨token, rfl, isWord⟩ := List.map_eq_singleton_iff.1 spelled
  refine leadsPrimary fun rest => ⟨.literal value, rfl, ?_⟩
  have isKind : token.kind = value.word.kind := congrArg Word.kind isWord
  have isText : token.text = value.word.text := congrArg Word.text isWord
  cases value with
  | null =>
      simp only [List.cons_append, primary, current, List.headD_cons, isKind, isText]
      rfl
  | bool value =>
      cases value
      all_goals
        simp only [List.cons_append, primary, current, List.headD_cons, isKind, isText]
        rfl
  | int value =>
      simp only [List.cons_append, primary, current, List.headD_cons, isKind, isText, Literal.word,
        numberIsRead printable]
      rfl
  | real value => exact printable.elim
  | text value =>
      simp only [List.cons_append, primary, current, List.headD_cons, isKind, isText, Literal.word,
        unescapeQuoted]
      rfl

theorem nameExpressionPlain {itemName : String} (plain : isPlainName itemName = true) :
    nameExpression itemName = .name itemName := by
  unfold nameExpression
  split
  case h_6 => rfl
  all_goals exact absurd plain (by decide)

theorem plainNameIsRead {itemName : String} (plain : isPlainName itemName = true)
    (spelled : tokens.map Token.word = [.name itemName]) :
    Leads slice depth 0 tokens (.name itemName) := by
  obtain ⟨token, rfl, isWord⟩ := List.map_eq_singleton_iff.1 spelled
  refine leadsPrimary fun rest => ⟨.name itemName, rfl, ?_⟩
  have isKind : token.kind = .name := congrArg Word.kind isWord
  have isText : token.text = itemName := congrArg Word.text isWord
  simp only [List.cons_append, primary, current, List.headD_cons, isKind, isText,
    nameExpressionPlain plain]
  rfl

theorem thisIsRead (spelled : tokens.map Token.word = [.name "this"]) :
    Leads slice depth 0 tokens .this := by
  obtain ⟨token, rfl, isWord⟩ := List.map_eq_singleton_iff.1 spelled
  refine leadsPrimary fun rest => ⟨.this, rfl, ?_⟩
  have isKind : token.kind = .name := congrArg Word.kind isWord
  have isText : token.text = "this" := congrArg Word.text isWord
  simp only [List.cons_append, primary, current, List.headD_cons, isKind, isText]
  rfl

/-! ### Items -/

theorem itemsLead {item : Expression} {rest : List Expression}
    (allItems : ∀ element ∈ item :: rest, ReadsBack slice depth element)
    (spelled : tokens.map Token.word = itemWords (item :: rest)) :
    LeadsItems slice depth tokens (item :: rest) := by
  induction rest generalizing item tokens with
  | nil => exact .last (allItems item (List.mem_singleton_self _) _ (Nat.le_refl _) tokens spelled)
  | cons next rest inductionHypothesis =>
      obtain ⟨readsItem, allRest⟩ := List.forall_mem_cons.1 allItems
      obtain ⟨first, comma, others, rfl, spelledFirst, isComma, spelledOthers⟩ :=
        spelledAround spelled
      exact .next (readsItem _ (Nat.le_refl _) first spelledFirst) isComma
        (inductionHypothesis allRest spelledOthers)

/-- Neither the comma nor an item begins with a closing bracket. -/
theorem itemsAreRead {elements : List Expression} {closing : String}
    (isClosing : closing ∈ [")", "]"]) (printable : ∀ element ∈ elements, element.IsPrintable)
    (allItems : ∀ element ∈ elements, ReadsBack slice depth element)
    (spelled : tokens.map Token.word = itemWords elements) :
    ReadsItems slice depth closing tokens elements := by
  cases elements with
  | nil =>
      obtain rfl := List.map_eq_nil_iff.1 spelled
      exact readsNoItems
  | cons item rest =>
      have begins : BeginsWell assignmentRank (itemWords (item :: rest)) := by
        rw [itemWordsCons]
        have itemBegins := expressionBegins (printable item (List.mem_cons_self ..)) assignmentRank
        exact itemBegins.append (.inr (by decide))
      have notComma : closing ≠ "," := by
        rintro rfl
        exact absurd isClosing (by decide)
      have follows : ∀ other < boundary assignmentRank, ∀ symbol ∈ continuing other,
          isWordSymbol (.symbol closing) symbol = false := by
        obtain rfl | isClosing := List.mem_cons.1 isClosing
        · decide
        · obtain rfl := List.mem_singleton.1 isClosing
          decide
      refine (itemsLead allItems spelled).readsItems notComma
        (fun _ _ isCloser => followsWord isCloser follows) (notAcceptedOf spelled begins ?_)
      exact (by decide : [")", "]"] ⊆ closingSymbols assignmentRank) isClosing

/-- A printable expression is read back wherever twice its height is allowed as depth. -/
theorem printedIsRead {expression : Expression} (printable : expression.IsPrintable) :
    ∀ depth, 2 * expression.height ≤ depth → ReadsBack slice depth expression := by
  induction printable with
  | literal printable =>
      intro depth
      refine readsBackOfOwn (.literal printable) nofun fun _ _ tokens spelled => ?_
      exact literalIsRead printable spelled
  | name plain =>
      intro depth
      refine readsBackOfOwn (.name plain) nofun fun _ _ tokens spelled => ?_
      exact plainNameIsRead plain spelled
  | this =>
      intro depth
      refine readsBackOfOwn .this nofun fun _ _ tokens spelled => ?_
      exact thisIsRead spelled
  | array printable allItems =>
      intro depth
      refine readsBackOfParts (.array printable) rfl fun depth enough tokens spelled => ?_
      obtain ⟨opening, inside, closing, rfl, isOpening, spelledInside, isClosing⟩ :=
        spelledBetween spelled
      refine leadsArray isOpening isClosing (itemsAreRead (by decide) printable ?_ spelledInside)
      intro item isItem
      have isLower := itemHeight isItem
      exact allItems item isItem depth (by omega)
  | member printableObject printableKey readsObject readsKey =>
      intro depth
      refine readsBackOfParts (.member printableObject printableKey) rfl
        fun depth enough tokens spelled => ?_
      obtain ⟨objectTokens, opening, keyTokens, closing, rfl, spelledObject, isOpening, spelledKey,
        isClosing⟩ := spelledSuffix spelled
      exact leadsMember (readsObject _ (by omega) 0 (Nat.zero_le _) objectTokens spelledObject)
        isOpening isClosing (readsKey _ (by omega) _ (Nat.le_refl _) keyTokens spelledKey)
  | call printableCallee printable readsCallee allArguments =>
      intro depth
      refine readsBackOfParts (.call printableCallee printable) rfl
        fun depth enough tokens spelled => ?_
      obtain ⟨calleeTokens, opening, inside, closing, rfl, spelledCallee, isOpening, spelledInside,
        isClosing⟩ := spelledSuffix spelled
      refine leadsCall (readsCallee _ (by omega) 0 (Nat.zero_le _) calleeTokens spelledCallee)
        isOpening isClosing (itemsAreRead (by decide) printable ?_ spelledInside)
      intro argument isArgument
      have isLower := itemHeight isArgument
      exact allArguments argument isArgument depth (by omega)
  | unary printable readsOperand =>
      intro depth
      refine readsBackOfParts (.unary printable) rfl fun depth enough tokens spelled => ?_
      obtain ⟨token, others, rfl, isOperator, spelledOperand⟩ := List.map_eq_cons_iff.1 spelled
      exact leadsUnary isOperator
        (readsOperand _ enough UnaryOperator.rank (by decide) others spelledOperand)
  | @binary operator left right printableLeft printableRight readsLeft readsRight =>
      intro depth
      refine readsBackOfParts (.binary printableLeft printableRight) rfl
        fun depth enough tokens spelled => ?_
      have isRank : operator.rank ≤ assignmentRank := rankBound (.binary operator left right)
      rw [Expression.words, Word.enclose, if_pos isRank] at spelled
      obtain ⟨leftTokens, token, rightTokens, rfl, spelledLeft, isOperator, spelledRight⟩ :=
        spelledAround spelled
      exact leadsBinary isOperator (readsLeft _ (by omega) _ isRank leftTokens spelledLeft)
        (readsRight _ (by omega) _ (Nat.le_trans (Nat.sub_le _ _) isRank) rightTokens spelledRight)
  | @logical operator left right printableLeft printableRight readsLeft readsRight =>
      intro depth
      refine readsBackOfParts (.logical printableLeft printableRight) rfl
        fun depth enough tokens spelled => ?_
      have isRank : operator.rank ≤ assignmentRank := rankBound (.logical operator left right)
      rw [Expression.words, Word.enclose, if_pos isRank] at spelled
      obtain ⟨leftTokens, token, rightTokens, rfl, spelledLeft, isOperator, spelledRight⟩ :=
        spelledAround spelled
      exact leadsLogical isOperator (readsLeft _ (by omega) _ isRank leftTokens spelledLeft)
        (readsRight _ (by omega) _ (Nat.le_trans (Nat.sub_le _ _) isRank) rightTokens spelledRight)
  | conditional printableTest printableConsequent printableAlternate readsTest readsConsequent
      readsAlternate =>
      intro depth
      refine readsBackOfParts
        (.conditional printableTest printableConsequent printableAlternate) rfl
        fun depth enough tokens spelled => ?_
      obtain ⟨testTokens, mark, others, rfl, spelledTest, isMark, spelledBranches⟩ :=
        spelledAround spelled
      obtain ⟨consequentTokens, colon, alternateTokens, rfl, spelledConsequent, isColon,
        spelledAlternate⟩ := spelledAround spelledBranches
      exact leadsConditional isMark isColon
        (readsTest _ (by omega) _ (by decide) testTokens spelledTest)
        (readsConsequent _ (by omega) _ (Nat.le_refl _) consequentTokens spelledConsequent)
        (readsAlternate _ (by omega) _ (Nat.le_refl _) alternateTokens spelledAlternate)
  | @assignName itemName value plain printable readsValue =>
      intro depth
      refine readsBackOfParts (.assignName plain printable) rfl
        fun depth enough tokens spelled => ?_
      have spelledParts : tokens.map Token.word =
        [.name itemName] ++ .symbol "=" :: value.words assignmentRank := spelled
      obtain ⟨targetTokens, sign, valueTokens, rfl, spelledTarget, isSign, spelledValue⟩ :=
        spelledAround spelledParts
      exact leadsAssignName isSign (plainNameIsRead plain spelledTarget)
        (noUnaryOf spelledTarget ⟨_, [], rfl, plainNameOpens plain⟩)
        (readsValue _ enough _ (Nat.le_refl _) valueTokens spelledValue)
  | @assignMember object key value printableObject printableKey printableValue readsObject readsKey
      readsValue =>
      intro depth
      refine readsBackOfParts (.assignMember printableObject printableKey printableValue) rfl
        fun depth enough tokens spelled => ?_
      have spelledParts : tokens.map Token.word =
          (member object key).words 0 ++ .symbol "=" :: value.words assignmentRank := by
        simpa [Expression.words, Word.enclose] using spelled
      obtain ⟨targetTokens, sign, valueTokens, rfl, spelledTarget, isSign, spelledValue⟩ :=
        spelledAround spelledParts
      have noUnary := noUnaryOf spelledTarget
        (expressionBegins (.member printableObject printableKey) 0)
      obtain ⟨objectTokens, opening, keyTokens, closing, rfl, spelledObject, isOpening, spelledKey,
        isClosing⟩ := spelledSuffix spelledTarget
      have leadsTarget := leadsMember
        (readsObject (depth + 1) (by omega) 0 (Nat.zero_le _) objectTokens spelledObject)
        isOpening isClosing (readsKey _ (by omega) _ (Nat.le_refl _) keyTokens spelledKey)
      exact leadsAssignMember isSign leadsTarget noUnary
        (readsValue _ (by omega) _ (Nat.le_refl _) valueTokens spelledValue)

/-! ### Statements -/

/-- A statement is followed by a semicolon or by the end. -/
def EndsStatement (rest : List Token) : Prop :=
  ∃ token more, rest = token :: more ∧ (token.word = .finish ∨ token.word = .symbol ";")

theorem EndsStatement.follows {rest : List Token} (ends : EndsStatement rest) :
    Follows assignmentRank rest := by
  obtain ⟨token, more, rfl, isFinish | isSemicolon⟩ := ends
  · exact followsWord isFinish (by decide)
  · exact followsWord isSemicolon (by decide)

theorem declarationsClose : declarations.map Prod.fst ⊆ closingSymbols assignmentRank := by
  decide

/-- A deletion reads its target as an operand of a unary operator. -/
theorem deletionIsRead {target : Expression} {deleting : Token} {rest : List Token}
    (isDelete : deleting.word = .name "delete")
    (leads : Leads slice depth UnaryOperator.rank tokens target)
    (follows : Follows UnaryOperator.rank rest) :
    ∃ parsed, parsed.unsourced = target.unsourced ∧
      (nestedTo slice (depth + 1)).unary (tokens ++ rest) = .ok (parsed, rest) ∧
        statement (nestedTo slice (depth + 1)) (deleting :: (tokens ++ rest)) =
          deletion (nestedTo slice (depth + 1)) (tokens ++ rest) := by
  obtain ⟨parsed, same, reads⟩ := leads.unary follows
  refine ⟨parsed, same, reads, ?_⟩
  rw [statement, acceptWord isDelete, if_pos (by decide)]

theorem statementIsRead {target : Statement} (slice : Nat → Nat → String)
    (printable : target.IsPrintable) (enough : 2 * target.height ≤ depth)
    (spelled : tokens.map Token.word = target.words) {rest : List Token}
    (follows : Follows assignmentRank rest) :
    ∃ parsed, parsed.unsourced = target.unsourced ∧
      statement (nestedTo slice (depth + 1)) (tokens ++ rest) = .ok (parsed, rest) := by
  have followsUnary := follows.mono (by decide : UnaryOperator.rank ≤ assignmentRank)
  cases target with
  | expression value =>
      have begins := expressionBegins printable assignmentRank
      have notDelete := notAcceptedOf spelled begins (by decide : "delete" ∈ closingSymbols _) rest
      have notDeclared : acceptOne? declarations (tokens ++ rest) = none :=
        acceptOneNone fun _ isInside =>
          notAcceptedOf spelled begins (declarationsClose isInside) rest
      have leads : Leads slice depth assignmentRank tokens value :=
        printedIsRead printable depth enough _ (Nat.le_refl _) tokens spelled
      obtain ⟨parsed, same, reads⟩ := leads.assignment follows
      refine ⟨.expression parsed, congrArg Statement.expression same, ?_⟩
      rw [statement, notDelete, notDeclared]
      simp only [bind, Except.bind, reads]
      rfl
  | deleteName itemName =>
      obtain ⟨deleting, others, rfl, isDelete, spelledName⟩ := List.map_eq_cons_iff.1 spelled
      have noUnary := noUnaryOf spelledName ⟨_, [], rfl, plainNameOpens printable⟩
      have leads : Leads slice depth UnaryOperator.rank others (.name itemName) :=
        (plainNameIsRead printable spelledName).climbTo (fun _ => noUnary) (by decide) (by decide)
      obtain ⟨parsed, same, reads, isDeletion⟩ := deletionIsRead isDelete leads followsUnary
      obtain rfl := unsourcedName same
      refine ⟨.deleteName itemName, rfl, ?_⟩
      rw [List.cons_append, isDeletion, deletion, reads]
      rfl
  | deleteMember object key =>
      obtain ⟨deleting, others, rfl, isDelete, spelledMember⟩ := List.map_eq_cons_iff.1 spelled
      have isPrintable : (member object key).IsPrintable := .member printable.1 printable.2
      have leads : Leads slice depth UnaryOperator.rank others (.member object key) :=
        printedIsRead isPrintable depth enough _ (by decide) others spelledMember
      obtain ⟨parsed, same, reads, isDeletion⟩ := deletionIsRead isDelete leads followsUnary
      obtain ⟨parsedObject, parsedKey, rfl, sameObject, sameKey⟩ := unsourcedMember same
      refine ⟨.deleteMember parsedObject parsedKey, ?_, ?_⟩
      · simp only [Statement.unsourced, sameObject, sameKey]
      · rw [List.cons_append, isDeletion, deletion, reads]
        rfl

theorem statementBegins {target : Statement} (printable : target.IsPrintable) :
    ∃ first more, target.words = first :: more ∧ first.kind ≠ .finish ∧
      isWordSymbol first ";" = false := by
  cases target with
  | expression value =>
      obtain ⟨first, more, isWords, opens⟩ := expressionBegins printable assignmentRank
      exact ⟨first, more, isWords, opens.1, opens.2 ";" (by decide)⟩
  | deleteName | deleteMember => exact ⟨_, _, rfl, by decide, by decide⟩

/-! ### Programs -/

theorem programWordsLast (target : Statement) :
    programWords [target] = target.words ++ [.finish] := by
  simp [programWords]

theorem programWordsNext (target next : Statement) (program : Program) :
    programWords (target :: next :: program) =
      target.words ++ .symbol ";" :: programWords (next :: program) := by
  simp [programWords, Text.intercalateCons]

theorem finishes {token : Token} {more : List Token} (isFinish : token.word = .finish) :
    isFinished (token :: more) = true :=
  decide_eq_true (congrArg Word.kind isFinish)

theorem continues {token : Token} {more : List Token} (notFinish : token.word.kind ≠ .finish) :
    isFinished (token :: more) = false :=
  decide_eq_false notFinish

/-- One statement is read, and then the program ends or goes on after a semicolon. -/
theorem statementsFromStatement {target : Statement} (slice : Nat → Nat → String)
    (printable : target.IsPrintable) (enough : 2 * target.height < depth)
    (spelled : tokens.map Token.word = target.words) {rest : List Token}
    (follows : Follows assignmentRank rest) (read : Program) (fuel : Nat) :
    ∃ parsed, parsed.unsourced = target.unsourced ∧
      statementsFrom (nestedTo slice depth) read (fuel + 1) (tokens ++ rest) =
        if isFinished rest then .ok (parsed :: read).reverse
        else expect ";" rest >>= statementsFrom (nestedTo slice depth) (parsed :: read) fuel := by
  cases depth with
  | zero => exact absurd enough (Nat.not_lt_zero _)
  | succ depth =>
      obtain ⟨parsed, same, reads⟩ :=
        statementIsRead slice printable (Nat.le_of_lt_succ enough) spelled follows
      refine ⟨parsed, same, ?_⟩
      obtain ⟨first, more, isWords, notFinish, notSemicolon⟩ := statementBegins printable
      obtain ⟨token, others, rfl, rfl, -⟩ := List.map_eq_cons_iff.1 (spelled.trans isWords)
      rw [List.cons_append] at reads ⊢
      rw [statementsFrom, continues notFinish, if_neg nofun, acceptWord rfl, notSemicolon,
        if_neg nofun, reads]
      rfl

theorem statementsAreRead (slice : Nat → Nat → String) {program : Program}
    (printable : ∀ target ∈ program, target.IsPrintable)
    (enough : ∀ target ∈ program, 2 * target.height < depth)
    (spelled : tokens.map Token.word = programWords program) (read : Program) {fuel : Nat}
    (enoughFuel : tokens.length ≤ fuel) :
    ∃ parsed, parsed.map Statement.unsourced = program.map Statement.unsourced ∧
      statementsFrom (nestedTo slice depth) read fuel tokens = .ok (read.reverse ++ parsed) := by
  induction program generalizing tokens read fuel with
  | nil =>
      obtain ⟨finish, rfl, isFinish⟩ := List.map_eq_singleton_iff.1 spelled
      refine ⟨[], rfl, ?_⟩
      cases fuel with
      | zero => rw [statementsFrom, List.append_nil]
      | succ fuel => rw [statementsFrom, finishes isFinish, if_pos rfl, List.append_nil]
  | cons target program inductionHypothesis =>
      obtain ⟨isPrintable, printable⟩ := List.forall_mem_cons.1 printable
      obtain ⟨isEnough, enough⟩ := List.forall_mem_cons.1 enough
      cases program with
      | nil =>
          rw [programWordsLast] at spelled
          obtain ⟨inside, finish, rfl, spelledStatement, isFinish⟩ := spelledBefore spelled
          have ends : EndsStatement [finish] := ⟨finish, [], rfl, .inl isFinish⟩
          rw [List.length_append] at enoughFuel
          cases fuel with
          | zero => exact absurd enoughFuel (Nat.not_succ_le_zero _)
          | succ fuel =>
              obtain ⟨parsed, same, reads⟩ := statementsFromStatement slice isPrintable isEnough
                spelledStatement ends.follows read fuel
              refine ⟨[parsed], congrArg (· :: []) same, ?_⟩
              rw [reads, finishes isFinish, if_pos rfl, List.reverse_cons]
      | cons next program =>
          rw [programWordsNext] at spelled
          obtain ⟨inside, semicolon, others, rfl, spelledStatement, isSemicolon, spelledOthers⟩ :=
            spelledAround spelled
          have ends : EndsStatement (semicolon :: others) :=
            ⟨semicolon, others, rfl, .inr isSemicolon⟩
          have notFinish : semicolon.word.kind ≠ .finish := by
            rw [isSemicolon]
            decide
          rw [List.length_append, List.length_cons] at enoughFuel
          cases fuel with
          | zero => exact absurd enoughFuel (Nat.not_succ_le_zero _)
          | succ fuel =>
              obtain ⟨parsed, same, reads⟩ := statementsFromStatement slice isPrintable isEnough
                spelledStatement ends.follows read fuel
              obtain ⟨others, sameOthers, readsOthers⟩ := inductionHypothesis printable enough
                spelledOthers (parsed :: read) (by omega : others.length ≤ fuel)
              refine ⟨parsed :: others, ?_, ?_⟩
              · rw [List.map_cons, same, sameOthers]
                rfl
              · rw [reads, continues notFinish, if_neg nofun, expectSymbol isSemicolon]
                simp only [bind, Except.bind, readsOthers]
                simp

/-- A printed program is read back as the same program, up to the source texts of its callees. The
depth that is allowed has to be larger than twice the height of each statement. -/
theorem printedProgramIsRead (before after depth : Nat) (program : Program)
    (printable : ∀ target ∈ program, target.IsPrintable)
    (enough : ∀ target ∈ program, 2 * target.height < depth) :
    ∃ parsed, parseTo depth (printProgram before after program) = .ok parsed ∧
      parsed.map Statement.unsourced = program.map Statement.unsourced := by
  obtain ⟨tokens, spelled, isTokens⟩ := printedTokens before after printable
  obtain ⟨parsed, same, reads⟩ := statementsAreRead
    (sliceOf (printProgram before after program)) printable enough spelled [] (Nat.le_refl _)
  refine ⟨parsed, ?_, same⟩
  rw [parseTo, isTokens]
  simp only [reads]
  rfl

/-- The right operand of a difference keeps its parentheses. -/
theorem nestedDifferenceIsRead :
    let program : Program :=
      [.expression
          (.binary .subtract (.name "a") (.binary .subtract (.name "b") (.literal (.int 1)))),
        .deleteMember .this (.literal (.text "k"))]
    printProgram 0 1 program = "a - ( b - 1 ); delete this [ \"k\" ]" ∧
      ∃ parsed, parseTo maximalDepth (printProgram 0 1 program) = .ok parsed ∧
        parsed.map Statement.unsourced = program.map Statement.unsourced := by
  intro program
  refine ⟨by decide, printedProgramIsRead 0 1 maximalDepth program ?_ ?_⟩
  · have difference : (binary .subtract (name "b") (literal (.int 1))).IsPrintable :=
      .binary (.name (by decide)) (.literal (by decide : (decimalDigits 1).length ≤ 4300))
    exact List.forall_mem_cons.2 ⟨.binary (.name (by decide)) difference,
      List.forall_mem_cons.2 ⟨⟨.this, .literal trivial⟩, nofun⟩⟩
  · decide

end Letterpress.Script
