import Letterpress.Proofs.Script.Printing
import Letterpress.Script.Parser
import Mathlib.Order.Nat

/-!
This file shows what the reader of each rank of precedence makes of the parts of an expression.
-/

namespace Letterpress.Script.Parser

variable {slice : Nat → Nat → String} {depth rank : Nat} {expression : Expression}
  {tokens rest : List Token} {token : Token}

/-! ### Symbols -/

def isWordSymbol (word : Word) (symbol : String) : Bool :=
  (word.kind = .operator || word.kind = .name) && word.text = symbol

theorem acceptWord {word : Word} (isWord : token.word = word) (symbol : String) :
    accept? symbol (token :: rest) = if isWordSymbol word symbol then some rest else none := by
  subst isWord
  rfl

theorem acceptSymbol {symbol : String} (isWord : token.word = .symbol symbol) :
    accept? symbol (token :: rest) = some rest := by
  rw [acceptWord isWord]
  simp [isWordSymbol, Word.symbol]

theorem acceptOther {symbol other : String} (isWord : token.word = .symbol symbol)
    (apart : symbol ≠ other) : accept? other (token :: rest) = none := by
  rw [acceptWord isWord]
  simp [isWordSymbol, Word.symbol, apart]

theorem expectSymbol {symbol : String} (isWord : token.word = .symbol symbol) :
    expect symbol (token :: rest) = .ok rest := by
  rw [expect, acceptSymbol isWord]

theorem acceptOneNone {Meaning : Type} {symbols : List (String × Meaning)}
    (notAccepted : ∀ symbol ∈ symbols.map Prod.fst, accept? symbol tokens = none) :
    acceptOne? symbols tokens = none := by
  refine List.findSome?_eq_none_iff.2 fun (symbol, meaning) isInside => ?_
  exact congrArg (Option.map _) (notAccepted symbol (List.mem_map_of_mem isInside))

theorem acceptOneWord {Meaning : Type} {symbols : List (String × Meaning)} {meaning : Meaning}
    {word : Word} (isWord : token.word = word)
    (isFound : (symbols.find? fun pair => isWordSymbol word pair.1).map Prod.snd = some meaning) :
    acceptOne? symbols (token :: rest) = some (meaning, rest) := by
  induction symbols with
  | nil => exact absurd isFound nofun
  | cons pair symbols inductionHypothesis =>
      obtain ⟨symbol, first⟩ := pair
      simp only [acceptOne?, List.findSome?_cons, acceptWord isWord] at inductionHypothesis ⊢
      rw [List.find?_cons] at isFound
      cases isSymbol : isWordSymbol word symbol with
      | true =>
          simp only [isSymbol] at isFound
          exact congrArg (Option.map (·, rest)) isFound
      | false =>
          simp only [isSymbol] at isFound
          exact inductionHypothesis isFound

/-! ### The readers -/

/-- This reads the expressions up to a rank. -/
def readerAt (nested : Nested) (slice : Nat → Nat → String) : Nat → TokenReader Expression
  | 0 => suffixed nested slice
  | 1 => unary nested slice
  | rank + 2 =>
      match levels[rank]? with
      | some level => chain level (readerAt nested slice (rank + 1))
      | none => if rank = levels.length then conditional nested slice else assignment nested slice

/-- This goes on with an expression that a reader has read, as long as suffixes or operators of its
rank follow. -/
def extendAt (nested : Nested) (slice : Nat → Nat → String) (start : Nat) :
    Nat → Nat → Expression → TokenReader Expression
  | 0, fuel => suffixes nested slice start fuel
  | 1, _ => fun expression tokens => .ok (expression, tokens)
  | rank + 2, fuel =>
      match levels[rank]? with
      | some level => chainFrom level (readerAt nested slice (rank + 1)) fuel
      | none => fun expression tokens => .ok (expression, tokens)

theorem readerAtLevel (nested : Nested) (slice : Nat → Nat → String) {level : Level}
    (isLevel : levels[rank]? = some level) : readerAt nested slice (rank + 2) =
      chain level (readerAt nested slice (rank + 1)) := by
  simp only [readerAt, isLevel]

/-- These symbols go on with an expression and make one of the given rank. -/
def continuing : Nat → List String
  | 0 => [".", "[", "("]
  | 2 => ["*", "/", "%"]
  | 3 => ["+", "-"]
  | 4 => ["<=", ">=", "<", ">"]
  | 5 => ["===", "!==", "==", "!="]
  | 6 => ["&&"]
  | 7 => ["||", "??"]
  | 8 => ["?"]
  | 9 => ["="]
  | _ => []

/-- The ranks below this one cannot go on. The last branch of a conditional is an assignment, so the
conditional ends where an assignment does. -/
def boundary (rank : Nat) : Nat :=
  if rank < Expression.conditionalRank then rank else Expression.assignmentRank + 1

/-- What follows an expression of a rank does not belong to it. -/
def Follows (rank : Nat) (rest : List Token) : Prop :=
  ∀ other < boundary rank, ∀ symbol ∈ continuing other, accept? symbol rest = none

theorem belowBoundary (isRank : rank < Expression.assignmentRank) : rank < boundary (rank + 1) := by
  unfold boundary
  split
  · exact Nat.lt_succ_self rank
  · exact Nat.lt_succ_of_lt isRank

theorem followsWord {word : Word} (isWord : token.word = word)
    (apart : ∀ other < boundary rank, ∀ symbol ∈ continuing other,
      isWordSymbol word symbol = false) : Follows rank (token :: rest) := by
  intro other isTighter symbol isInside
  rw [acceptWord isWord, apart other isTighter symbol isInside, if_neg nofun]

theorem Follows.mono {tighter : Nat} (follows : Follows rank rest) (isTighter : tighter ≤ rank) :
    Follows tighter rest := by
  intro other isBelow
  refine follows other (Nat.lt_of_lt_of_le isBelow ?_)
  unfold boundary
  have isBound : Expression.conditionalRank ≤ Expression.assignmentRank + 1 := by decide
  split <;> split <;> omega

/-- Before a looser rank ends, no symbol goes on. -/
theorem Follows.notContinued {tighter : Nat} (follows : Follows rank rest)
    (isTighter : tighter < boundary rank) :
    ∀ symbol ∈ continuing tighter, accept? symbol rest = none :=
  follows tighter isTighter

theorem levelSymbols {level : Level} (isLevel : levels[rank]? = some level) :
    continuing (rank + 2) = level.map Prod.fst := by
  match rank with
  | 0 | 1 | 2 | 3 | 4 | 5 =>
      obtain rfl := Option.some.inj isLevel
      rfl
  | rank + 6 => exact absurd isLevel nofun

theorem notContinuedWord {word : Word} (isWord : token.word = word)
    (apart : ∀ symbol ∈ continuing rank, isWordSymbol word symbol = false) :
    ∀ symbol ∈ continuing rank, accept? symbol (token :: rest) = none := by
  intro symbol isInside
  rw [acceptWord isWord, apart symbol isInside, if_neg nofun]

theorem chainStops {level : Level} {operand : TokenReader Expression} {fuel : Nat}
    (notAccepted : ∀ symbol ∈ level.map Prod.fst, accept? symbol rest = none) :
    chainFrom level operand fuel expression rest = .ok (expression, rest) := by
  cases fuel with
  | zero => rfl
  | succ fuel => rw [chainFrom, acceptOneNone notAccepted]

/-- Nothing is left to be read where no symbol of the rank follows. -/
theorem extendStops {nested : Nested} {start fuel : Nat}
    (notAccepted : ∀ symbol ∈ continuing rank, accept? symbol rest = none) :
    extendAt nested slice start rank fuel expression rest = .ok (expression, rest) := by
  match rank with
  | 0 =>
      cases fuel with
      | zero => rfl
      | succ fuel =>
          rw [extendAt, suffixes, notAccepted "." (by decide), notAccepted "[" (by decide),
            notAccepted "(" (by decide)]
  | 1 => rfl
  | rank + 2 =>
      cases isLevel : levels[rank]? with
      | some level =>
          rw [levelSymbols isLevel] at notAccepted
          simp only [extendAt, isLevel]
          exact chainStops notAccepted
      | none => simp only [extendAt, isLevel]

/-! ### Leading tokens -/

/-- The reader of a rank reads these tokens as the expression, up to source texts, and then it goes
on with what follows them. -/
def Leads (slice : Nat → Nat → String) (depth rank : Nat) (tokens : List Token)
    (expression : Expression) : Prop :=
  ∀ rest, Follows rank rest → ∃ parsed start fuel, rest.length ≤ fuel ∧
    parsed.unsourced = expression.unsourced ∧
      readerAt (nestedTo slice depth) slice rank (tokens ++ rest) =
        extendAt (nestedTo slice depth) slice start rank fuel parsed rest

/-- Where the expression cannot go on, exactly its tokens are read. -/
theorem Leads.reads (leads : Leads slice depth rank tokens expression)
    (follows : Follows rank rest)
    (notAccepted : ∀ symbol ∈ continuing rank, accept? symbol rest = none) :
    ∃ parsed, parsed.unsourced = expression.unsourced ∧
      readerAt (nestedTo slice depth) slice rank (tokens ++ rest) = .ok (parsed, rest) := by
  obtain ⟨parsed, start, fuel, -, same, reads⟩ := leads rest follows
  exact ⟨parsed, same, reads.trans (extendStops notAccepted)⟩

/-- The tokens do not begin with a unary operator. -/
def NoUnary (tokens : List Token) : Prop :=
  ∃ first more, tokens = first :: more ∧
    ∀ symbol ∈ unarySymbols.map Prod.fst, isWordSymbol first.word symbol = false

theorem NoUnary.notAccepted (noUnary : NoUnary tokens) :
    acceptOne? unarySymbols (tokens ++ rest) = none := by
  obtain ⟨first, more, rfl, apart⟩ := noUnary
  refine acceptOneNone fun symbol isUnary => ?_
  rw [List.cons_append, acceptWord rfl, apart symbol isUnary, if_neg nofun]

/-- Each reader begins with the reader of the rank before. -/
theorem Leads.climb (leads : Leads slice depth rank tokens expression)
    (noUnary : rank = 0 → NoUnary tokens) (isRank : rank < Expression.assignmentRank) :
    Leads slice depth (rank + 1) tokens expression := by
  intro rest follows
  have isBelow := belowBoundary isRank
  have notAccepted := follows.notContinued isBelow
  obtain ⟨parsed, same, reads⟩ := leads.reads (follows.mono (Nat.le_succ rank)) notAccepted
  refine ⟨parsed, 0, rest.length, Nat.le_refl _, same, ?_⟩
  match rank with
  | 0 =>
      rw [readerAt, unary, (noUnary rfl).notAccepted]
      exact reads
  | rank + 1 =>
      cases isLevel : levels[rank]? with
      | some level =>
          rw [readerAtLevel _ _ isLevel, chain, reads]
          simp only [extendAt, isLevel]
          rfl
      | none =>
          -- The ranks after the levels are those of conditionals and of assignments.
          have tooLarge : levels.length ≤ rank := List.getElem?_eq_none_iff.1 isLevel
          have isLast : rank = 6 ∨ rank = 7 := by
            change 6 ≤ rank at tooLarge
            unfold Expression.assignmentRank at isRank
            omega
          obtain rfl | rfl := isLast
          · have readsTest : disjunction (nestedTo slice depth) slice (tokens ++ rest) =
              .ok (parsed, rest) := reads
            change conditional _ _ _ = .ok _
            rw [conditional, readsTest]
            simp only [bind, Except.bind, follows 8 (by decide) "?" (by decide)]
            rfl
          · have readsTarget : conditional (nestedTo slice depth) slice (tokens ++ rest) =
              .ok (parsed, rest) := reads
            change Parser.assignment _ _ _ = .ok _
            rw [Parser.assignment, readsTarget]
            simp only [bind, Except.bind, follows 9 (by decide) "=" (by decide)]
            rfl

theorem Leads.climbTo {looser : Nat} (leads : Leads slice depth rank tokens expression)
    (noUnary : rank = 0 → NoUnary tokens) (isLooser : rank ≤ looser)
    (isRank : looser ≤ Expression.assignmentRank) : Leads slice depth looser tokens expression := by
  induction looser, isLooser using Nat.le_induction with
  | base => exact leads
  | succ looser isLooser inductionHypothesis =>
      have leadsBefore := inductionHypothesis (Nat.le_of_succ_le isRank)
      exact leadsBefore.climb (fun isZero => noUnary (by omega)) isRank

/-! ### Nested expressions -/

theorem Leads.assignment {expression : Expression}
    (leads : Leads slice depth Expression.assignmentRank tokens expression)
    (follows : Follows Expression.assignmentRank rest) :
    ∃ parsed, parsed.unsourced = expression.unsourced ∧
      (nestedTo slice (depth + 1)).assignment (tokens ++ rest) = .ok (parsed, rest) :=
  leads.reads follows (follows.notContinued (by decide))

theorem Leads.unary (leads : Leads slice depth UnaryOperator.rank tokens expression)
    (follows : Follows UnaryOperator.rank rest) :
    ∃ parsed, parsed.unsourced = expression.unsourced ∧
      (nestedTo slice (depth + 1)).unary (tokens ++ rest) = .ok (parsed, rest) :=
  leads.reads follows nofun

/-- A primary expression is read before its suffixes. -/
theorem leadsPrimary (reads : ∀ rest, ∃ parsed, parsed.unsourced = expression.unsourced ∧
    primary (nestedTo slice depth) (tokens ++ rest) = .ok (parsed, rest)) :
    Leads slice depth 0 tokens expression := by
  intro rest _
  obtain ⟨parsed, same, reads⟩ := reads rest
  refine ⟨parsed, (current (tokens ++ rest)).position, rest.length, Nat.le_refl _, same, ?_⟩
  rw [readerAt, suffixed, reads]
  rfl

theorem symbolKind {symbol : String} (isWord : token.word = .symbol symbol) :
    token.kind = .operator := congrArg Word.kind isWord

theorem leadsParenthesized {opening closing : Token} (isOpening : opening.word = .symbol "(")
    (isClosing : closing.word = .symbol ")")
    (leads : Leads slice depth Expression.assignmentRank tokens expression) :
    Leads slice (depth + 1) 0 (opening :: (tokens ++ [closing])) expression := by
  refine leadsPrimary fun rest => ?_
  have follows : Follows Expression.assignmentRank (closing :: rest) :=
    followsWord isClosing (by decide)
  obtain ⟨parsed, same, reads⟩ := leads.assignment follows
  refine ⟨parsed, same, ?_⟩
  simp only [List.cons_append, List.append_assoc, List.nil_append]
  simp only [primary, current, List.headD_cons, symbolKind isOpening, acceptSymbol isOpening, bind,
    Except.bind, reads, expectSymbol isClosing]
  rfl

/-! ### Items -/

/-- Between brackets these tokens are read as the items. -/
def ReadsItems (slice : Nat → Nat → String) (depth : Nat) (closing : String) (tokens : List Token)
    (elements : List Expression) : Prop :=
  ∀ closer rest, closer.word = .symbol closing → ∃ parsed,
    Expression.unsourcedItems parsed = Expression.unsourcedItems elements ∧
      items (nestedTo slice (depth + 1)) closing (tokens ++ closer :: rest) = .ok (parsed, rest)

theorem readsNoItems {closing : String} : ReadsItems slice depth closing [] [] := by
  intro closer rest isCloser
  exact ⟨[], rfl, by rw [items, List.nil_append, acceptSymbol isCloser]⟩

/-- The tokens of the items lead to them, with commas between. -/
inductive LeadsItems (slice : Nat → Nat → String) (depth : Nat) :
    List Token → List Expression → Prop
  | last {tokens : List Token} {item : Expression}
      (leads : Leads slice depth Expression.assignmentRank tokens item) :
      LeadsItems slice depth tokens [item]
  | next {tokens others : List Token} {comma : Token} {item : Expression}
      {elements : List Expression}
      (leads : Leads slice depth Expression.assignmentRank tokens item)
      (isComma : comma.word = .symbol ",") (rest : LeadsItems slice depth others elements) :
      LeadsItems slice depth (tokens ++ comma :: others) (item :: elements)

theorem LeadsItems.reads {closing : String} {closer : Token} {elements : List Expression}
    (leadsItems : LeadsItems slice depth tokens elements) (isCloser : closer.word = .symbol closing)
    (notComma : closing ≠ ",") (ends : Follows Expression.assignmentRank (closer :: rest))
    (read : List Expression) {fuel : Nat} (enough : tokens.length < fuel) :
    ∃ parsed, Expression.unsourcedItems parsed = Expression.unsourcedItems elements ∧
      itemsFrom (nestedTo slice (depth + 1)) closing read fuel (tokens ++ closer :: rest) =
        .ok (read.reverse ++ parsed, rest) := by
  induction leadsItems generalizing read fuel with
  | last leads =>
      obtain ⟨fuel, rfl⟩ := Nat.exists_eq_add_of_lt enough
      obtain ⟨parsed, same, reads⟩ := leads.assignment ends
      refine ⟨[parsed], by simp only [Expression.unsourcedItems, same], ?_⟩
      simp only [itemsFrom, reads, bind, Except.bind, acceptSymbol isCloser]
      simp [pure, Except.pure]
  | @next tokens others comma item elements leads isComma _ inductionHypothesis =>
      obtain ⟨fuel, rfl⟩ := Nat.exists_eq_add_of_lt enough
      have isEnough : others.length < tokens.length + others.length + 1 + fuel := by omega
      have separates : Follows Expression.assignmentRank (comma :: (others ++ closer :: rest)) :=
        followsWord isComma (by decide)
      obtain ⟨first, same, reads⟩ := leads.assignment separates
      obtain ⟨parsed, sameItems, readsItems⟩ := inductionHypothesis (first :: read) isEnough
      refine ⟨first :: parsed, by simp only [Expression.unsourcedItems, same, sameItems], ?_⟩
      simp only [List.length_append, List.length_cons, List.append_assoc, List.cons_append,
        List.reverse_cons, List.nil_append] at readsItems ⊢
      rw [itemsFrom, reads]
      simp only [bind, Except.bind, acceptOther isComma notComma.symm, expectSymbol isComma]
      exact readsItems

/-- Items are read if the first token does not close the brackets. -/
theorem LeadsItems.readsItems {closing : String} {elements : List Expression}
    (leadsItems : LeadsItems slice depth tokens elements) (notComma : closing ≠ ",")
    (ends : ∀ closer rest, closer.word = .symbol closing →
      Follows Expression.assignmentRank (closer :: rest))
    (notClosing : ∀ rest, accept? closing (tokens ++ rest) = none) :
    ReadsItems slice depth closing tokens elements := by
  intro closer rest isCloser
  rw [items, notClosing]
  exact leadsItems.reads isCloser notComma (ends closer rest isCloser) [] (by simp)

/-! ### Suffixes and operators -/

/-- An expression that is continued by a symbol leads to the longer expression. -/
theorem Leads.extend {base : Expression} {others : List Token}
    (leads : Leads slice depth rank tokens base)
    (follows : ∀ rest, Follows rank (token :: (others ++ rest)))
    (goesOn : ∀ parsed, parsed.unsourced = base.unsourced → ∀ rest, Follows rank rest →
      ∀ start fuel, ∃ extended, extended.unsourced = expression.unsourced ∧
        extendAt (nestedTo slice depth) slice start rank (fuel + 1) parsed
            (token :: (others ++ rest)) =
          extendAt (nestedTo slice depth) slice start rank fuel extended rest) :
    Leads slice depth rank (tokens ++ token :: others) expression := by
  intro rest followsRest
  obtain ⟨parsed, start, fuel, enough, same, reads⟩ := leads _ (follows rest)
  cases fuel with
  | zero => exact absurd enough (Nat.not_succ_le_zero _)
  | succ fuel =>
      obtain ⟨extended, sameExtended, readsExtended⟩ :=
        goesOn parsed same rest followsRest start fuel
      refine ⟨extended, start, fuel, ?_, sameExtended, ?_⟩
      · simp only [List.length_cons, List.length_append] at enough
        omega
      · rw [List.append_assoc, List.cons_append, reads, readsExtended]

theorem leadsArray {opening closer : Token} {elements : List Expression}
    (isOpening : opening.word = .symbol "[") (isCloser : closer.word = .symbol "]")
    (readsItems : ReadsItems slice depth "]" tokens elements) :
    Leads slice (depth + 1) 0 (opening :: (tokens ++ [closer])) (.array elements) := by
  refine leadsPrimary fun rest => ?_
  obtain ⟨parsed, same, reads⟩ := readsItems closer rest isCloser
  refine ⟨.array parsed, by simp only [Expression.unsourced, same], ?_⟩
  simp only [List.cons_append, List.append_assoc, List.nil_append]
  simp only [primary, current, List.headD_cons, symbolKind isOpening, acceptSymbol isOpening,
    acceptOther isOpening (by decide : "[" ≠ "("), bind, Except.bind, reads]
  rfl

theorem leadsMember {opening closer : Token} {objectTokens : List Token} {object key : Expression}
    (leadsObject : Leads slice (depth + 1) 0 objectTokens object)
    (isOpening : opening.word = .symbol "[") (isCloser : closer.word = .symbol "]")
    (leadsKey : Leads slice depth Expression.assignmentRank tokens key) :
    Leads slice (depth + 1) 0 (objectTokens ++ opening :: (tokens ++ [closer]))
      (.member object key) := by
  refine leadsObject.extend (fun _ => nofun) ?_
  intro parsedObject sameObject rest _ start fuel
  have ends : Follows Expression.assignmentRank (closer :: rest) := followsWord isCloser (by decide)
  obtain ⟨parsedKey, sameKey, readsKey⟩ := leadsKey.assignment ends
  refine ⟨.member parsedObject parsedKey, ?_, ?_⟩
  · simp only [Expression.unsourced, sameObject, sameKey]
  · simp only [List.append_assoc, List.cons_append, List.nil_append]
    simp only [extendAt, suffixes, acceptOther isOpening (by decide : "[" ≠ "."),
      acceptSymbol isOpening, bind, Except.bind, readsKey, expectSymbol isCloser]

theorem leadsCall {opening closer : Token} {calleeTokens : List Token} {callee : Expression}
    {arguments : List Expression} {source : String}
    (leadsCallee : Leads slice (depth + 1) 0 calleeTokens callee)
    (isOpening : opening.word = .symbol "(") (isCloser : closer.word = .symbol ")")
    (readsItems : ReadsItems slice depth ")" tokens arguments) :
    Leads slice (depth + 1) 0 (calleeTokens ++ opening :: (tokens ++ [closer]))
      (.call callee arguments source) := by
  refine leadsCallee.extend (fun _ => nofun) ?_
  intro parsedCallee sameCallee rest _ start fuel
  obtain ⟨parsed, same, reads⟩ := readsItems closer rest isCloser
  refine ⟨.call parsedCallee parsed (slice start opening.position), ?_, ?_⟩
  · simp only [Expression.unsourced, sameCallee, same]
  · simp only [List.append_assoc, List.cons_append, List.nil_append]
    simp only [extendAt, suffixes, acceptOther isOpening (by decide : "(" ≠ "."),
      acceptOther isOpening (by decide : "(" ≠ "["), acceptSymbol isOpening, bind, Except.bind,
      reads]
    rfl

theorem leadsUnary {operator : UnaryOperator} {operand : Expression}
    (isOperator : token.word = .symbol operator.symbol)
    (leads : Leads slice depth UnaryOperator.rank tokens operand) :
    Leads slice (depth + 1) UnaryOperator.rank (token :: tokens) (.unary operator operand) := by
  intro rest follows
  obtain ⟨parsed, same, reads⟩ := leads.unary follows
  refine ⟨.unary operator parsed, 0, rest.length, Nat.le_refl _, ?_, ?_⟩
  · simp only [Expression.unsourced, same]
  · have accepts : acceptOne? unarySymbols (token :: (tokens ++ rest)) =
        some (operator, tokens ++ rest) :=
      acceptOneWord isOperator (by cases operator <;> rfl)
    change Parser.unary _ _ _ = .ok _
    rw [List.cons_append, Parser.unary, accepts]
    simp only [bind, Except.bind, reads]
    rfl

/-- The symbol is an operator of the rank, and it builds expressions. -/
def BuildsAt (operatorRank : Nat) (symbol : String)
    (build : Expression → Expression → Expression) : Prop :=
  ∃ rank level, operatorRank = rank + 2 ∧ levels[rank]? = some level ∧
    (level.find? fun pair => isWordSymbol (.symbol symbol) pair.1).map Prod.snd = some build

/-- The right operand of an operator is tighter than the operator. -/
theorem leadsInfix {symbol : String} {build : Expression → Expression → Expression}
    {leftTokens : List Token} {left right : Expression} (isOperator : token.word = .symbol symbol)
    (buildsAt : BuildsAt rank symbol build)
    (apart : ∀ other < boundary rank, ∀ continuation ∈ continuing other,
      isWordSymbol (.symbol symbol) continuation = false)
    (same : ∀ parsedLeft parsedRight, parsedLeft.unsourced = left.unsourced →
      parsedRight.unsourced = right.unsourced →
        (build parsedLeft parsedRight).unsourced = (build left right).unsourced)
    (leadsLeft : Leads slice depth rank leftTokens left)
    (leadsRight : Leads slice depth (rank - 1) tokens right) :
    Leads slice depth rank (leftTokens ++ token :: tokens) (build left right) := by
  refine leadsLeft.extend (fun _ => followsWord isOperator apart) ?_
  intro parsedLeft sameLeft rest follows start fuel
  obtain ⟨rank, level, rfl, isLevel, isFound⟩ := buildsAt
  have isRank : rank + 1 < Expression.assignmentRank := by
    have isIndex := (List.getElem?_eq_some_iff.1 isLevel).1
    change rank < 6 at isIndex
    unfold Expression.assignmentRank
    omega
  change Leads slice depth (rank + 1) tokens right at leadsRight
  obtain ⟨parsedRight, sameRight, readsRight⟩ := leadsRight.reads (follows.mono (Nat.le_succ _))
    (follows.notContinued (belowBoundary isRank))
  refine ⟨build parsedLeft parsedRight, same _ _ sameLeft sameRight, ?_⟩
  simp only [extendAt, isLevel, chainFrom, acceptOneWord isOperator isFound, bind, Except.bind]
  rw [readsRight]

theorem leadsBinary {operator : BinaryOperator} {leftTokens : List Token} {left right : Expression}
    (isOperator : token.word = .symbol operator.symbol)
    (leadsLeft : Leads slice depth operator.rank leftTokens left)
    (leadsRight : Leads slice depth (operator.rank - 1) tokens right) :
    Leads slice depth operator.rank (leftTokens ++ token :: tokens)
      (.binary operator left right) := by
  have buildsAt : BuildsAt operator.rank operator.symbol (.binary operator) := by
    cases operator <;> exact ⟨_, _, rfl, rfl, rfl⟩
  refine leadsInfix isOperator buildsAt (by cases operator <;> decide) ?_ leadsLeft leadsRight
  intro _ _ sameLeft sameRight
  simp only [Expression.unsourced, sameLeft, sameRight]

theorem leadsLogical {operator : LogicalOperator} {leftTokens : List Token}
    {left right : Expression} (isOperator : token.word = .symbol operator.symbol)
    (leadsLeft : Leads slice depth operator.rank leftTokens left)
    (leadsRight : Leads slice depth (operator.rank - 1) tokens right) :
    Leads slice depth operator.rank (leftTokens ++ token :: tokens)
      (.logical operator left right) := by
  have buildsAt : BuildsAt operator.rank operator.symbol (.logical operator) := by
    cases operator <;> exact ⟨_, _, rfl, rfl, rfl⟩
  refine leadsInfix isOperator buildsAt (by cases operator <;> decide) ?_ leadsLeft leadsRight
  intro _ _ sameLeft sameRight
  simp only [Expression.unsourced, sameLeft, sameRight]

/-! ### Conditionals and assignments -/

theorem unsourcedName {parsed : Expression} {itemName : String}
    (same : parsed.unsourced = (Expression.name itemName).unsourced) : parsed = .name itemName := by
  cases parsed with
  | name other => exact congrArg Expression.name (Expression.name.inj same)
  | _ => exact nomatch same

theorem unsourcedMember {parsed object key : Expression}
    (same : parsed.unsourced = (Expression.member object key).unsourced) :
    ∃ parsedObject parsedKey, parsed = .member parsedObject parsedKey ∧
      parsedObject.unsourced = object.unsourced ∧ parsedKey.unsourced = key.unsourced := by
  cases parsed with
  | member parsedObject parsedKey =>
      obtain ⟨sameObject, sameKey⟩ := Expression.member.inj same
      exact ⟨parsedObject, parsedKey, rfl, sameObject, sameKey⟩
  | _ => exact nomatch same

theorem leadsConditional {mark colon : Token} {testTokens consequentTokens : List Token}
    {test consequent alternate : Expression} (isMark : mark.word = .symbol "?")
    (isColon : colon.word = .symbol ":")
    (leadsTest : Leads slice (depth + 1) (Expression.conditionalRank - 1) testTokens test)
    (leadsConsequent : Leads slice depth Expression.assignmentRank consequentTokens consequent)
    (leadsAlternate : Leads slice depth Expression.assignmentRank tokens alternate) :
    Leads slice (depth + 1) Expression.conditionalRank
      (testTokens ++ mark :: (consequentTokens ++ colon :: tokens))
      (.conditional test consequent alternate) := by
  intro rest follows
  have afterTest : Follows (Expression.conditionalRank - 1)
      (mark :: (consequentTokens ++ colon :: (tokens ++ rest))) := followsWord isMark (by decide)
  have afterConsequent : Follows Expression.assignmentRank (colon :: (tokens ++ rest)) :=
    followsWord isColon (by decide)
  obtain ⟨parsedTest, sameTest, readsTest⟩ :=
    leadsTest.reads afterTest (notContinuedWord isMark (by decide))
  obtain ⟨parsedConsequent, sameConsequent, readsConsequent⟩ :=
    leadsConsequent.assignment afterConsequent
  obtain ⟨parsedAlternate, sameAlternate, readsAlternate⟩ := leadsAlternate.assignment follows
  refine ⟨.conditional parsedTest parsedConsequent parsedAlternate, 0, rest.length, Nat.le_refl _,
    ?_, ?_⟩
  · simp only [Expression.unsourced, sameTest, sameConsequent, sameAlternate]
  · change disjunction _ _ _ = .ok _ at readsTest
    change conditional _ _ _ = .ok _
    simp only [List.append_assoc, List.cons_append]
    rw [conditional, readsTest]
    simp only [bind, Except.bind, acceptSymbol isMark, readsConsequent, expectSymbol isColon,
      readsAlternate]
    rfl

/-- The target of an assignment is tighter than any operator. -/
theorem readsTarget {target : Expression} (rest : List Token) (isSign : token.word = .symbol "=")
    (leads : Leads slice depth 0 tokens target) (noUnary : NoUnary tokens) :
    ∃ parsed, parsed.unsourced = target.unsourced ∧
      conditional (nestedTo slice depth) slice (tokens ++ token :: rest) =
        .ok (parsed, token :: rest) := by
  have leadsTarget : Leads slice depth (Expression.conditionalRank - 1) tokens target :=
    leads.climbTo (fun _ => noUnary) (by decide) (by decide)
  have follows : Follows (Expression.conditionalRank - 1) (token :: rest) :=
    followsWord isSign (by decide)
  obtain ⟨parsed, same, reads⟩ := leadsTarget.reads follows (notContinuedWord isSign (by decide))
  refine ⟨parsed, same, ?_⟩
  change disjunction _ _ _ = .ok _ at reads
  rw [conditional, reads]
  simp only [bind, Except.bind, acceptOther isSign (by decide : "=" ≠ "?")]
  rfl

theorem leadsAssignName {sign : Token} {targetTokens : List Token} {itemName : String}
    {value : Expression} (isSign : sign.word = .symbol "=")
    (leadsTarget : Leads slice (depth + 1) 0 targetTokens (.name itemName))
    (noUnary : NoUnary targetTokens)
    (leadsValue : Leads slice depth Expression.assignmentRank tokens value) :
    Leads slice (depth + 1) Expression.assignmentRank (targetTokens ++ sign :: tokens)
      (.assignName itemName value) := by
  intro rest follows
  obtain ⟨target, sameTarget, readsTarget⟩ :=
    readsTarget (tokens ++ rest) isSign leadsTarget noUnary
  obtain ⟨parsed, same, reads⟩ := leadsValue.assignment follows
  obtain rfl := unsourcedName sameTarget
  refine ⟨.assignName itemName parsed, 0, rest.length, Nat.le_refl _, ?_, ?_⟩
  · simp only [Expression.unsourced, same]
  · change Parser.assignment _ _ _ = .ok _
    rw [List.append_assoc, List.cons_append, Parser.assignment, readsTarget]
    simp only [bind, Except.bind, acceptSymbol isSign, reads]
    rfl

theorem leadsAssignMember {sign : Token} {targetTokens : List Token}
    {object key value : Expression} (isSign : sign.word = .symbol "=")
    (leadsTarget : Leads slice (depth + 1) 0 targetTokens (.member object key))
    (noUnary : NoUnary targetTokens)
    (leadsValue : Leads slice depth Expression.assignmentRank tokens value) :
    Leads slice (depth + 1) Expression.assignmentRank (targetTokens ++ sign :: tokens)
      (.assignMember object key value) := by
  intro rest follows
  obtain ⟨target, sameTarget, readsTarget⟩ :=
    readsTarget (tokens ++ rest) isSign leadsTarget noUnary
  obtain ⟨parsed, same, reads⟩ := leadsValue.assignment follows
  obtain ⟨parsedObject, parsedKey, rfl, sameObject, sameKey⟩ := unsourcedMember sameTarget
  refine ⟨.assignMember parsedObject parsedKey parsed, 0, rest.length, Nat.le_refl _, ?_, ?_⟩
  · simp only [Expression.unsourced, sameObject, sameKey, same]
  · change Parser.assignment _ _ _ = .ok _
    rw [List.append_assoc, List.cons_append, Parser.assignment, readsTarget]
    simp only [bind, Except.bind, acceptSymbol isSign, reads]
    rfl

end Letterpress.Script.Parser
