import Letterpress.Proofs.Result
import Letterpress.Proofs.Script.RoundTrip

/-!
This file shows how a name is read that members follow. A bare member stands after a point, and a
quoted one between brackets. Such a path is one expression exactly if all of its bare names are
names of the language and the first one does not begin a statement of another kind.
-/

open Letterpress.Script.Parser Letterpress.Script.Expression

namespace Letterpress.Script

/-- A step of a path leads to the member of a name. -/
inductive PathStep
  | bare (name : String)
  | quoted (name : String)

namespace PathStep

def name : PathStep → String
  | bare name => name
  | quoted name => name

def words : PathStep → List Word
  | bare name => [.symbol ".", .name name]
  | quoted name => [.symbol "[", ⟨.text, Text.quote name⟩, .symbol "]"]

def isReadable : PathStep → Bool
  | bare name => isNameText name
  | quoted _ => true

/-- A bare name has to be a segment. -/
def isSegment : PathStep → Bool
  | bare name => Text.isIdentifierSegment name
  | quoted _ => true

end PathStep

/-- The words of a path follow each other without anything between them. -/
def Word.joined (words : List Word) : List Char := words.flatMap fun word => word.text.toList

/-- These names begin statements that are no expressions. -/
def statementNames : List String := ["delete", "var", "let", "const"]

structure MemberPath where
  head : String
  steps : List PathStep

namespace MemberPath

def words (path : MemberPath) : List Word :=
  .name path.head :: path.steps.flatMap PathStep.words

def text (path : MemberPath) : String := String.ofList (Word.joined path.words)

def isReadable (path : MemberPath) : Bool :=
  isNameText path.head && path.steps.all PathStep.isReadable && !statementNames.contains path.head

def isSegmented (path : MemberPath) : Bool :=
  Text.isIdentifierSegment path.head && path.steps.all PathStep.isSegment

/-- Each step reads a member of what the steps before it read. -/
def expression (path : MemberPath) : Expression :=
  path.steps.foldl (fun object step => .member object (.literal (.text step.name)))
    (nameExpression path.head)

end MemberPath

/-! ### Cutting -/

/-- The text cannot be cut into tokens, wherever it stands in a source. -/
def Spoils (characters : List Char) : Prop :=
  ∀ position source cut fuel, characters.length ≤ fuel →
    ∃ problem, Token.cutFrom source cut fuel position characters = .error problem

theorem spoilsAfter {word : Word} {rest : List Char} (begins : BeginsWith word rest)
    (spoils : Spoils rest) : Spoils (word.text.toList ++ rest) := by
  intro position source cut fuel enough
  obtain ⟨less, isEnough, cutOff⟩ := cutFromWord begins source cut position enough
  rw [cutOff]
  exact spoils _ _ _ less isEnough

theorem spoilsAtOnce {first : Char} {rest : List Char} (notBlank : Text.isBlank first = false)
    (noStart : Token.start? (first :: rest) = none) : Spoils (first :: rest) := by
  intro position source cut fuel enough
  cases fuel with
  | zero => exact absurd enough (Nat.not_succ_le_zero _)
  | succ fuel =>
      refine ⟨.unexpectedCharacter source position first, ?_⟩
      rw [Token.cutFrom, if_neg (by simp [notBlank]), noStart]

open Token

/-- Every operator begins with an ASCII character. -/
theorem noOperatorLength {first : Char} {rest : List Char} (notAscii : 128 ≤ first.toNat) :
    operatorLength (first :: rest) = 0 := by
  have allAscii : operators.all (fun symbol => symbol.toList.head?.any (·.toNat < 128)) = true := by
    decide
  have noneFound : (operators.find? fun symbol => symbol.toList.isPrefixOf (first :: rest)) =
      none := by
    refine List.find?_eq_none.2 fun symbol isOperator isPrefix => ?_
    have isAscii := List.all_eq_true.1 allAscii symbol isOperator
    cases isSymbol : symbol.toList with
    | nil => simp [isSymbol] at isAscii
    | cons character others =>
        simp only [isSymbol, List.isPrefixOf_cons_cons, Bool.and_eq_true, beq_iff_eq] at isPrefix
        simp only [isSymbol, List.head?_cons, Option.any_some, decide_eq_true_eq] at isAscii
        rw [isPrefix.1] at isAscii
        omega
  rw [operatorLength, noneFound]
  rfl

/-- A letter of a segment that does not go on with a name begins no token. -/
theorem spoilsAtStranger {first : Char} (rest : List Char)
    (inSegment : Text.isSegmentCharacter first = true) (stranger : isNameContinue first = false) :
    Spoils (first :: rest) := by
  rw [isNameContinue, Bool.or_eq_false_iff, decide_eq_false_iff_not] at stranger
  obtain ⟨notDollar, notWord⟩ := stranger
  have notAscii := Text.strangerNotAscii inSegment notDollar notWord
  have notDecimal : Text.isDecimal first = false := by
    rw [Bool.eq_false_iff]
    intro decimal
    exact Bool.false_ne_true (notWord.symm.trans (Text.decimalIsWord decimal))
  have differs (other : Char) (isAscii : other.toNat < 128) : first ≠ other := by
    rintro rfl
    exact absurd isAscii (Nat.not_lt.2 notAscii)
  have noName : nameLength (first :: rest) = 0 := by
    rw [nameLength, if_neg (by simp [isNameStart, notDollar, notWord])]
  refine spoilsAtOnce (Text.segmentCharacterNotBlank inSegment) ?_
  rw [start?, candidates, noNumberLength notDecimal (differs '.' (by decide)),
    noTextLength (differs '"' (by decide)) (differs '\'' (by decide)), noName,
    noOperatorLength notAscii]
  rfl

theorem segmentStartNotDecimal {first : Char} (starts : Text.isSegmentStart first = true) :
    Text.isDecimal first = false := by
  rw [Text.isSegmentStart, Bool.or_eq_true, decide_eq_true_eq] at starts
  obtain rfl | starts := starts
  · decide
  · exact Text.identifierStartNotDecimal starts

theorem segmentOfText {itemName : String} (isSegment : Text.isIdentifierSegment itemName = true) :
    ∃ first more, itemName.toList = first :: more ∧ Text.isSegmentStart first = true ∧
      ∀ character ∈ first :: more, Text.isSegmentCharacter character = true := by
  have inSegment := (Text.segmentCharacters isSegment).2
  unfold Text.isIdentifierSegment at isSegment
  split at isSegment
  case h_1 => exact nomatch isSegment
  case h_2 first more isText =>
    exact ⟨first, more, isText, (Bool.and_eq_true_iff.1 isSegment).1, isText ▸ inSegment⟩

/-- A text with a character that is not admitted has a first one. -/
theorem firstNotAdmitted {admits : Char → Bool} {text : List Char}
    (notAll : text.all admits = false) : ∃ kept stranger others,
      text = kept ++ stranger :: others ∧ kept.all admits = true ∧ admits stranger = false := by
  induction text with
  | nil => exact nomatch notAll
  | cons first rest inductionHypothesis =>
      cases isAdmitted : admits first with
      | false => exact ⟨[], first, rest, rfl, rfl, isAdmitted⟩
      | true =>
          rw [List.all_cons, isAdmitted, Bool.true_and] at notAll
          obtain ⟨kept, stranger, others, rfl, allKept, isStranger⟩ := inductionHypothesis notAll
          refine ⟨first :: kept, stranger, others, rfl, ?_, isStranger⟩
          rw [List.all_cons, isAdmitted, allKept, Bool.true_and]

/-- A segment that is no name cannot be cut into tokens. -/
theorem spoilsAtSegment {itemName : String} (rest : List Char)
    (isSegment : Text.isIdentifierSegment itemName = true) (notName : isNameText itemName = false) :
    Spoils (itemName.toList ++ rest) := by
  obtain ⟨first, more, isText, starts, inSegment⟩ := segmentOfText isSegment
  rw [isNameText, isText] at notName
  rw [isText, List.cons_append]
  cases isStart : isNameStart first with
  | false =>
      refine spoilsAtStranger _ (inSegment first List.mem_cons_self) ?_
      simpa [isNameStart, isNameContinue, segmentStartNotDecimal starts] using isStart
  | true =>
      -- The segment begins with a name, which ends at a character that begins no token.
      have notAll : more.all isNameContinue = false := by simpa [isStart] using notName
      obtain ⟨kept, stranger, others, rfl, allKept, isStranger⟩ := firstNotAdmitted notAll
      have isName : isNameText (String.ofList (first :: kept)) = true := by
        rw [isNameText, String.toList_ofList]
        exact Bool.and_eq_true_iff.2 ⟨isStart, allKept⟩
      have stops : Text.StopsAt isNameContinue (stranger :: (others ++ rest)) :=
        Text.stopsAtCons isStranger
      have spoils := spoilsAfter (nameBegins isName stops)
        (spoilsAtStranger (others ++ rest) (inSegment stranger (by simp)) isStranger)
      rw [Word.name, String.toList_ofList] at spoils
      rwa [List.append_assoc, List.cons_append]

theorem pointBegins {rest : List Char} (stops : Text.StopsAt Text.isDecimal rest) :
    BeginsWith (.symbol ".") rest := by
  refine ⟨⟨'.', [], rfl, by decide⟩, ?_⟩
  have noDigits : ∀ digit ∈ ([] : List Char), Text.isDecimal digit = true := nofun
  have noFraction : rest.takeWhile Text.isDecimal = [] := Text.takeWhileOfStop noDigits stops
  have noNumber : numberLength ('.' :: rest) = 0 := by
    have noWhole : ('.' :: rest).takeWhile Text.isDecimal = [] := rfl
    simp only [numberLength, noWhole, List.length_nil, List.drop_zero, noFraction]
    rfl
  change start? ('.' :: rest) = some (.operator, 1)
  rw [start?, candidates, noNumber]
  rfl

theorem bracketBegins {rest : List Char} : BeginsWith (.symbol "[") rest :=
  ⟨⟨'[', [], rfl, by decide⟩, rfl⟩

theorem closingBegins {rest : List Char} : BeginsWith (.symbol "]") rest :=
  ⟨⟨']', [], rfl, by decide⟩, rfl⟩

/-- No name goes on into the next step. -/
theorem stopsAtSteps (steps : List PathStep) :
    Text.StopsAt isNameContinue (Word.joined (steps.flatMap PathStep.words)) := by
  cases steps with
  | nil => exact Text.stopsAtNil
  | cons step rest => cases step <;> exact Text.stopsAtCons (by decide)

theorem stopsBeforeName {itemName : String} (rest : List Char)
    (isName : isNameText itemName = true) :
    Text.StopsAt Text.isDecimal (itemName.toList ++ rest) := by
  unfold isNameText at isName
  split at isName
  case h_1 => exact nomatch isName
  case h_2 first more isText =>
    rw [isText]
    exact Text.stopsAtCons (nameStartApart (Bool.and_eq_true_iff.1 isName).1).2.1

theorem stopsBeforeSegment {itemName : String} (rest : List Char)
    (isSegment : Text.isIdentifierSegment itemName = true) :
    Text.StopsAt Text.isDecimal (itemName.toList ++ rest) := by
  obtain ⟨first, more, isText, starts, -⟩ := segmentOfText isSegment
  rw [isText]
  exact Text.stopsAtCons (segmentStartNotDecimal starts)

theorem stepsCut {steps : List PathStep} (readable : steps.all PathStep.isReadable = true) :
    Cuts (Word.joined (steps.flatMap PathStep.words))
      (steps.flatMap PathStep.words ++ [Word.finish]) := by
  induction steps with
  | nil => exact cutsEnd
  | cons step rest inductionHypothesis =>
      rw [List.all_cons, Bool.and_eq_true] at readable
      have cuts := inductionHypothesis readable.2
      cases step with
      | bare name =>
          have cutsName := cutsWord (nameBegins readable.1 (stopsAtSteps rest)) cuts
          exact cutsWord (pointBegins (stopsBeforeName _ readable.1)) cutsName
      | quoted name =>
          have cutsText := cutsWord (quotedBegins name _) (cutsWord closingBegins cuts)
          exact cutsWord bracketBegins cutsText

theorem stepsSpoil {steps : List PathStep} (segments : steps.all PathStep.isSegment = true)
    (unreadable : steps.all PathStep.isReadable = false) :
    Spoils (Word.joined (steps.flatMap PathStep.words)) := by
  induction steps with
  | nil => exact nomatch unreadable
  | cons step rest inductionHypothesis =>
      rw [List.all_cons, Bool.and_eq_true] at segments
      rw [List.all_cons] at unreadable
      cases step with
      | bare name =>
          have spoilsName : Spoils (name.toList ++ Word.joined (rest.flatMap PathStep.words)) := by
            cases isName : isNameText name with
            | false => exact spoilsAtSegment _ segments.1 isName
            | true =>
                rw [PathStep.isReadable, isName, Bool.true_and] at unreadable
                exact spoilsAfter (nameBegins isName (stopsAtSteps rest))
                  (inductionHypothesis segments.2 unreadable)
          exact spoilsAfter (pointBegins (stopsBeforeSegment _ segments.1)) spoilsName
      | quoted name =>
          have spoilsText := spoilsAfter (quotedBegins name _)
            (spoilsAfter closingBegins (inductionHypothesis segments.2 unreadable))
          exact spoilsAfter bracketBegins spoilsText

section

variable {path : MemberPath}

theorem pathCuts (isName : isNameText path.head = true)
    (readable : path.steps.all PathStep.isReadable = true) :
    Cuts (Word.joined path.words) (path.words ++ [Word.finish]) :=
  cutsWord (nameBegins isName (stopsAtSteps path.steps)) (stepsCut readable)

theorem pathSpoils (segmented : path.isSegmented = true)
    (unreadable : (isNameText path.head && path.steps.all PathStep.isReadable) = false) :
    Spoils (Word.joined path.words) := by
  obtain ⟨isSegment, segments⟩ := Bool.and_eq_true_iff.1 segmented
  cases isName : isNameText path.head with
  | false => exact spoilsAtSegment _ isSegment isName
  | true =>
      rw [isName, Bool.true_and] at unreadable
      exact spoilsAfter (nameBegins isName (stopsAtSteps path.steps))
        (stepsSpoil segments unreadable)

end

/-! ### Reading -/

section

variable {slice : Nat → Nat → String} {depth : Nat} {tokens : List Token}

theorem unsourcedLiteral {parsed : Expression} {value : Literal}
    (same : parsed.unsourced = (Expression.literal value).unsourced) : parsed = .literal value := by
  cases parsed with
  | literal other => exact congrArg Expression.literal (Expression.literal.inj same)
  | _ => exact nomatch same

theorem unsourcedThis {parsed : Expression}
    (same : parsed.unsourced = Expression.this.unsourced) : parsed = .this := by
  cases parsed with
  | this => rfl
  | _ => exact nomatch same

/-- A name stands for a literal, for the scope or for itself. -/
theorem nameExpressionCases (itemName : String) :
    (∃ value, nameExpression itemName = .literal value) ∨ nameExpression itemName = .this ∨
      nameExpression itemName = .name itemName := by
  unfold nameExpression
  split
  · exact .inl ⟨_, rfl⟩
  · exact .inl ⟨_, rfl⟩
  · exact .inl ⟨_, rfl⟩
  · exact .inl ⟨_, rfl⟩
  · exact .inr (.inl rfl)
  · exact .inr (.inr rfl)

theorem unsourcedHead {parsed : Expression} {itemName : String}
    (same : parsed.unsourced = (nameExpression itemName).unsourced) :
    parsed = nameExpression itemName := by
  obtain ⟨value, isLiteral⟩ | isThis | isName := nameExpressionCases itemName
  · rw [isLiteral] at same ⊢
    exact unsourcedLiteral same
  · rw [isThis] at same ⊢
    exact unsourcedThis same
  · rw [isName] at same ⊢
    exact unsourcedName same

/-- A path has no callees, so no source texts are forgotten. -/
theorem unsourcedSteps {base parsed : Expression} {steps : List PathStep}
    (unique : ∀ parsed, parsed.unsourced = base.unsourced → parsed = base)
    (same : parsed.unsourced = (steps.foldl
      (fun object step => .member object (.literal (.text step.name))) base).unsourced) :
    parsed = steps.foldl (fun object step => .member object (.literal (.text step.name))) base := by
  induction steps generalizing base with
  | nil => exact unique parsed same
  | cons step rest inductionHypothesis =>
      refine inductionHypothesis (fun parsed sameMember => ?_) same
      obtain ⟨object, key, rfl, sameObject, sameKey⟩ := unsourcedMember sameMember
      rw [unique object sameObject, unsourcedLiteral sameKey]

theorem leadsName {token : Token} {itemName : String} (isWord : token.word = .name itemName) :
    Leads slice depth 0 [token] (nameExpression itemName) := by
  refine leadsPrimary fun rest => ⟨_, rfl, ?_⟩
  have isKind : token.kind = .name := congrArg Word.kind isWord
  have isText : token.text = itemName := congrArg Word.text isWord
  simp only [List.cons_append, primary, current, List.headD_cons, isKind, isText]
  rfl

theorem leadsProperty {point property : Token} {objectTokens : List Token} {object : Expression}
    {itemName : String} (leadsObject : Leads slice depth 0 objectTokens object)
    (isPoint : point.word = .symbol ".") (isProperty : property.word = .name itemName) :
    Leads slice depth 0 (objectTokens ++ [point, property])
      (.member object (.literal (.text itemName))) := by
  refine leadsObject.extend (fun _ => nofun) ?_
  intro parsedObject sameObject rest _ start fuel
  refine ⟨.member parsedObject (.literal (.text itemName)), ?_, ?_⟩
  · simp only [Expression.unsourced, sameObject]
  · have isKind : property.kind = .name := congrArg Word.kind isProperty
    have isText : property.text = itemName := congrArg Word.text isProperty
    simp only [List.cons_append, List.nil_append, extendAt, suffixes, acceptSymbol isPoint, current,
      List.headD_cons, isKind, isText]
    rfl

theorem quotedLeads {token : Token} {text : String}
    (isWord : token.word = ⟨.text, Text.quote text⟩) :
    Leads slice depth assignmentRank [token] (.literal (.text text)) := by
  have spelled : [token].map Token.word = [(Literal.text text).word] := by
    rw [List.map_singleton, isWord]
    rfl
  have leads : Leads slice depth 0 [token] (.literal (.text text)) := literalIsRead trivial spelled
  exact leads.climbTo (fun _ => noUnaryOf spelled ⟨_, [], rfl, literalOpens _⟩) (Nat.zero_le _)
    (Nat.le_refl _)

theorem stepsLead {steps : List PathStep} {baseTokens : List Token} {base : Expression}
    (leads : Leads slice (depth + 1) 0 baseTokens base)
    (spelled : tokens.map Token.word = steps.flatMap PathStep.words) :
    Leads slice (depth + 1) 0 (baseTokens ++ tokens)
      (steps.foldl (fun object step => .member object (.literal (.text step.name))) base) := by
  induction steps generalizing baseTokens base tokens with
  | nil =>
      obtain rfl := List.map_eq_nil_iff.1 spelled
      rw [List.append_nil]
      exact leads
  | cons step rest inductionHypothesis =>
      rw [List.flatMap_cons] at spelled
      obtain ⟨first, others, rfl, spelledStep, spelledOthers⟩ := List.map_eq_append_iff.1 spelled
      rw [← List.append_assoc]
      refine inductionHypothesis ?_ spelledOthers
      cases step with
      | bare name =>
          obtain ⟨point, properties, rfl, isPoint, spelledName⟩ :=
            List.map_eq_cons_iff.1 spelledStep
          obtain ⟨property, rfl, isProperty⟩ := List.map_eq_singleton_iff.1 spelledName
          exact leadsProperty leads isPoint isProperty
      | quoted name =>
          have spelledBrackets : first.map Token.word =
              Word.symbol "[" :: ([⟨.text, Text.quote name⟩] ++ [Word.symbol "]"]) := spelledStep
          obtain ⟨opening, inside, closing, rfl, isOpening, spelledInside, isClosing⟩ :=
            spelledBetween spelledBrackets
          obtain ⟨key, rfl, isKey⟩ := List.map_eq_singleton_iff.1 spelledInside
          exact leadsMember leads isOpening isClosing (quotedLeads isKey)

/-- A name that begins no other statement begins an expression. -/
theorem nameOpens {itemName : String} (isName : isNameText itemName = true)
    (notStatement : statementNames.contains itemName = false) : (Word.name itemName).Opens 0 := by
  have otherwise : ∀ symbol ∈ closingSymbols 0,
      isNameText symbol = false ∨ statementNames.contains symbol = true := by
    decide
  refine ⟨nofun, fun symbol isInside => ?_⟩
  have differs : itemName ≠ symbol := by
    rintro rfl
    obtain notName | isStatement := otherwise itemName isInside
    · exact Bool.false_ne_true (notName.symm.trans isName)
    · exact Bool.false_ne_true (notStatement.symm.trans isStatement)
  simp [isWordSymbol, Word.name, differs]

theorem pathLeads {path : MemberPath}
    (spelled : tokens.map Token.word = path.words) :
    Leads slice (depth + 1) 0 tokens path.expression := by
  obtain ⟨head, others, rfl, isHead, spelledSteps⟩ := List.map_eq_cons_iff.1 spelled
  exact stepsLead (leadsName isHead) spelledSteps

theorem pathStatement {path : MemberPath} {finish : Token} (opens : (Word.name path.head).Opens 0)
    (spelled : tokens.map Token.word = path.words) (isFinish : finish.word = .finish) :
    statement (nestedTo slice (depth + 2)) (tokens ++ [finish]) =
      .ok (.expression path.expression, [finish]) := by
  have begins : BeginsWell 0 path.words := ⟨_, _, rfl, opens⟩
  have notDelete := notAcceptedOf spelled begins (by decide : "delete" ∈ closingSymbols 0) [finish]
  have notDeclared : acceptOne? declarations (tokens ++ [finish]) = none := by
    refine acceptOneNone fun symbol isInside => notAcceptedOf spelled begins ?_ [finish]
    exact (by decide : declarations.map Prod.fst ⊆ closingSymbols 0) isInside
  have leads : Leads slice (depth + 1) assignmentRank tokens path.expression :=
    (pathLeads spelled).climbTo (fun _ => noUnaryOf spelled begins) (Nat.zero_le _) (Nat.le_refl _)
  have ends : Follows assignmentRank [finish] := followsWord isFinish (by decide)
  obtain ⟨parsed, same, reads⟩ := leads.assignment ends
  have isPath : parsed = path.expression := unsourcedSteps (fun _ => unsourcedHead) same
  rw [statement, notDelete, notDeclared]
  simp only [bind, Except.bind, reads, isPath]
  rfl

end

/-! ### Programs -/

section

variable {nested : Nested} {read program : Program} {fuel : Nat} {token : Token}
  {tokens rest : List Token}

/-- After a statement the program ends or goes on. -/
def continued (nested : Nested) (read : Program) (fuel : Nat) (found : Statement × List Token) :
    Except Refusal Program :=
  if isFinished found.2 then .ok (found.1 :: read).reverse
  else (expect ";" found.2).bind (statementsFrom nested (found.1 :: read) fuel)

theorem statementsFromFirst (notFinish : isFinished tokens = false)
    (notSemicolon : accept? ";" tokens = none) :
    statementsFrom nested read (fuel + 1) tokens =
      (statement nested tokens).bind (continued nested read fuel) := by
  rw [statementsFrom, notFinish, if_neg Bool.false_ne_true, notSemicolon]
  simp only [bind]
  rfl

/-- What was read stays at the front of the program. -/
theorem statementsFromKeeps (reads : statementsFrom nested read fuel tokens = .ok program) :
    read.reverse <+: program := by
  induction fuel generalizing read tokens with
  | zero =>
      obtain rfl := Except.ok.inj reads
      exact List.prefix_rfl
  | succ fuel inductionHypothesis =>
      cases isFinish : isFinished tokens with
      | true =>
          rw [statementsFrom, isFinish, if_pos rfl] at reads
          obtain rfl := Except.ok.inj reads
          exact List.prefix_rfl
      | false =>
          cases isSemicolon : accept? ";" tokens with
          | some rest =>
              rw [statementsFrom, isFinish, if_neg Bool.false_ne_true, isSemicolon] at reads
              exact inductionHypothesis reads
          | none =>
              rw [statementsFromFirst isFinish isSemicolon] at reads
              obtain ⟨found, -, goesOn⟩ := bindOkIff.1 reads
              have isPrefix : (found.1 :: read).reverse <+: program := by
                unfold continued at goesOn
                split at goesOn
                case isTrue => exact Except.ok.inj goesOn ▸ List.prefix_rfl
                case isFalse =>
                  obtain ⟨after, -, readsAfter⟩ := bindOkIff.1 goesOn
                  exact inductionHypothesis readsAfter
              rw [List.reverse_cons] at isPrefix
              exact (List.prefix_append _ _).trans isPrefix

/-- The first statement of a program is the one that is read first. -/
theorem firstStatement {first : Statement} {others : Program}
    (notFinish : isFinished tokens = false) (notSemicolon : accept? ";" tokens = none)
    (reads : statementsFrom nested [] (fuel + 1) tokens = .ok (first :: others)) :
    ∃ after, statement nested tokens = .ok (first, after) := by
  rw [statementsFromFirst notFinish notSemicolon] at reads
  obtain ⟨⟨found, after⟩, isFound, goesOn⟩ := bindOkIff.1 reads
  have isPrefix : [found] <+: first :: others := by
    unfold continued at goesOn
    split at goesOn
    case isTrue => exact Except.ok.inj goesOn ▸ List.prefix_rfl
    case isFalse =>
      obtain ⟨rest, -, readsRest⟩ := bindOkIff.1 goesOn
      exact statementsFromKeeps readsRest
  obtain rfl := (List.cons_prefix_cons.1 isPrefix).1
  exact ⟨after, isFound⟩

end

section

variable {path : MemberPath}

theorem tokensOfPath {tokens : List Token}
    (cutOff : ∀ source cut fuel, (Word.joined path.words).length ≤ fuel →
      cutFrom source cut fuel 0 (Word.joined path.words) = .ok (cut.reverse ++ tokens)) :
    tokenize path.text = .ok tokens := by
  rw [tokenize, MemberPath.text, String.toList_ofList]
  exact cutOff _ [] _ (Nat.le_refl _)

/-- A readable path is read as one expression, which reads a member for each step. -/
theorem pathIsRead (readable : path.isReadable = true) :
    parse path.text = .ok [.expression path.expression] := by
  simp only [MemberPath.isReadable, Bool.and_eq_true, Bool.not_eq_true'] at readable
  obtain ⟨⟨isName, readableSteps⟩, notStatement⟩ := readable
  obtain ⟨tokens, spelled, cutOff⟩ := pathCuts isName readableSteps 0
  obtain ⟨inside, finish, rfl, spelledPath, isFinish⟩ := spelledBefore spelled
  have isTokens := tokensOfPath cutOff
  have opens := nameOpens isName notStatement
  have reads : statement (nestedTo (sliceOf path.text) maximalDepth) (inside ++ [finish]) = _ :=
    pathStatement opens spelledPath isFinish
  obtain ⟨head, others, rfl, isHead, -⟩ := List.map_eq_cons_iff.1 spelledPath
  have notFinish : isFinished (head :: (others ++ [finish])) = false :=
    continues (isHead ▸ opens.1)
  have notSemicolon : accept? ";" (head :: (others ++ [finish])) = none := by
    rw [acceptWord isHead, opens.2 ";" (by decide), if_neg nofun]
  rw [parse, parseTo, isTokens]
  simp only [List.cons_append, List.length_cons] at reads ⊢
  rw [statementsFromFirst notFinish notSemicolon, reads, Except.bind, continued,
    finishes isFinish, if_pos rfl]
  rfl

/-- A deletion is no expression. -/
theorem deletionDeletes {nested : Nested} {tokens after : List Token} {target : Statement}
    (reads : deletion nested tokens = .ok (target, after)) (value : Expression) :
    target ≠ .expression value := by
  obtain ⟨⟨found, rest⟩, -, deletes⟩ := bindOkIff.1 reads
  rintro rfl
  cases found <;> exact nomatch deletes

/-- After the name of a path no other name comes. -/
theorem afterHead {steps : List PathStep} {tokens : List Token}
    (spelled : tokens.map Token.word = steps.flatMap PathStep.words ++ [Word.finish]) :
    (current tokens).kind ≠ .name := by
  cases steps with
  | nil =>
      obtain ⟨token, rfl, isFinish⟩ := List.map_eq_singleton_iff.1 spelled
      rw [current, List.headD_cons, show token.kind = .finish from congrArg Word.kind isFinish]
      decide
  | cons step rest =>
      cases step
      all_goals
        obtain ⟨token, others, rfl, isSymbol, -⟩ := List.map_eq_cons_iff.1 spelled
        rw [current, List.headD_cons, symbolKind isSymbol]
        decide

/-- A path that begins with the keyword of a statement is no expression. -/
theorem keywordIsNoExpression (readable : path.steps.all PathStep.isReadable = true)
    (isStatement : statementNames.contains path.head = true) (value : Expression) :
    parse path.text ≠ .ok [.expression value] := by
  intro reads
  have isKeyword : path.head ∈ statementNames := by simpa using isStatement
  have isName : isNameText path.head = true :=
    (by decide : ∀ keyword ∈ statementNames, isNameText keyword = true) _ isKeyword
  obtain ⟨tokens, spelled, cutOff⟩ := pathCuts isName readable 0
  have isTokens := tokensOfPath cutOff
  obtain ⟨head, others, rfl, isHead, spelledSteps⟩ := List.map_eq_cons_iff.1 spelled
  have notFinish : isFinished (head :: others) = false := continues (by rw [isHead]; nofun)
  have notSemicolon : accept? ";" (head :: others) = none := by
    rw [acceptWord isHead]
    have apart : ∀ keyword ∈ statementNames, isWordSymbol (.name keyword) ";" = false := by decide
    rw [apart _ isKeyword, if_neg nofun]
  have isRead : statementsFrom (nestedTo (sliceOf path.text) maximalDepth) [] (others.length + 1)
      (head :: others) = .ok [.expression value] := by
    rw [parse, parseTo, isTokens] at reads
    exact mapErrorOkIff.1 reads
  obtain ⟨after, isFirst⟩ := firstStatement notFinish notSemicolon isRead
  by_cases isDelete : path.head = "delete"
  · rw [statement, acceptWord isHead, isDelete, if_pos (by decide)] at isFirst
    exact deletionDeletes isFirst value rfl
  · have isDeclaration : path.head ∈ ["var", "let", "const"] := by
      simpa [statementNames, isDelete] using isKeyword
    have apart : ∀ keyword ∈ ["var", "let", "const"],
        isWordSymbol (.name keyword) "delete" = false ∧
          (declarations.find? fun pair => isWordSymbol (.name keyword) pair.1).map Prod.snd =
            some () := by
      decide
    obtain ⟨notDelete, declares⟩ := apart _ isDeclaration
    rw [statement, acceptWord isHead, notDelete, if_neg nofun,
      acceptOneWord isHead declares] at isFirst
    have refused : declaration (nestedTo (sliceOf path.text) maximalDepth) others =
        refuse .variableName others := if_neg (afterHead spelledSteps)
    cases refused.symm.trans isFirst

theorem plainNotStatement {itemName : String} (plain : isPlainName itemName = true) :
    statementNames.contains itemName = false := by
  have notPlain : ∀ keyword ∈ statementNames, isPlainName keyword = false := by decide
  rw [Bool.eq_false_iff]
  intro isStatement
  exact Bool.false_ne_true
    ((notPlain itemName (List.contains_iff_mem.1 isStatement)).symm.trans plain)

/-- A plain name is an expression by itself. -/
theorem plainNameIsExpression {itemName : String} (plain : isPlainName itemName = true) :
    parse itemName = .ok [.expression (.name itemName)] := by
  have readable : (MemberPath.mk itemName []).isReadable = true := by
    simp only [MemberPath.isReadable, (Bool.and_eq_true_iff.1 plain).1, plainNotStatement plain]
    rfl
  have isText : (MemberPath.mk itemName []).text = itemName := by
    rw [MemberPath.text, ← String.toList_inj, String.toList_ofList]
    simp [MemberPath.words, Word.joined, Word.name]
  have isName : (MemberPath.mk itemName []).expression = .name itemName := nameExpressionPlain plain
  rw [← isName, ← pathIsRead readable, isText]

/-- A path of segments is read as one expression exactly if it is readable. -/
theorem pathIsReadIff (segmented : path.isSegmented = true) :
    (∃ value, parse path.text = .ok [.expression value]) ↔ path.isReadable = true := by
  constructor
  · rintro ⟨value, reads⟩
    rw [MemberPath.isReadable, Bool.and_eq_true, Bool.not_eq_true']
    cases names : isNameText path.head && path.steps.all PathStep.isReadable with
    | false =>
        obtain ⟨problem, spoils⟩ := pathSpoils segmented names 0 path.text [] _ (Nat.le_refl _)
        have notCut : tokenize path.text = .error problem := by
          rw [tokenize, MemberPath.text, String.toList_ofList]
          exact spoils
        rw [parse, parseTo, notCut] at reads
        contradiction
    | true =>
        refine ⟨rfl, Bool.eq_false_iff.2 fun isStatement => ?_⟩
        exact keywordIsNoExpression (Bool.and_eq_true_iff.1 names).2 isStatement value reads
  · intro readable
    exact ⟨_, pathIsRead readable⟩

end

end Letterpress.Script
