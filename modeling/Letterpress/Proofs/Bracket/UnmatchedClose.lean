import Letterpress.Proofs.Bracket.LoopNesting
import Letterpress.Proofs.Bracket.Preservation
import Letterpress.Proofs.Report.BlockCommand
import Letterpress.Proofs.Report.Outermost
import Letterpress.Proofs.Script.Refusal

/-!
This file shows what becomes of a closing token where no loop is open. Its own body stands in the
command, which the report takes for the end of a loop or else for a program.
-/

namespace Letterpress.Bracket

open Report (Command Item IsSolid Lexeme Nesting Session itemsOf preparePart renderPart)
open Report.Rendering (renderItems)

/-! ### The command -/

section

variable {body : String}

/-- A body of several words is no name of a loop, so the command is inserted as a whole. -/
theorem insertedKind (embeddable : Report.Embeddable body) (notSolid : ¬ IsSolid body.toList) :
    Command.ofText ("END-FOR " ++ body) = .insert ("END-FOR " ++ body) := by
  have bodyNotEmpty : body.toList ≠ [] := fun empty =>
    embeddable.notEmpty (String.toList_eq_nil_iff.1 empty)
  have characters : ("END-FOR " ++ body).toList = "END-FOR".toList ++ ' ' :: body.toList := by
    simp
  have begins : Report.BeginsSolid body.toList := by
    obtain ⟨first, rest, same⟩ := List.exists_cons_of_ne_nil bodyNotEmpty
    exact ⟨first, rest, same, embeddable.first first (by rw [same]; rfl)⟩
  have noLoopEnd : Command.closeLoop? ("END-FOR".toList ++ ' ' :: body.toList) = none := by
    rw [Command.closeLoop?, afterKeywordOf, argumentOf "END-FOR" bodyNotEmpty embeddable.first]
    rcases parts : Command.splitWord body.toList with ⟨word, rest⟩
    cases rest with
    | nil =>
        have oneWord : (Command.splitWord body.toList).2 = [] := congrArg Prod.snd parts
        exact absurd (Report.oneWordIsSolid begins embeddable.last oneWord) notSolid
    | cons first others => simp only [Option.bind_eq_bind, Option.bind_some, parts]
  have noLoop : Command.openLoop? ("END-FOR".toList ++ ' ' :: body.toList) = none := rfl
  have noChoice : Command.openChoice? ("END-FOR".toList ++ ' ' :: body.toList) = none := rfl
  have noChoiceEnd : Command.closeChoice? ("END-FOR".toList ++ ' ' :: body.toList) = none := rfl
  have noExecution : Command.execute? ("END-FOR".toList ++ ' ' :: body.toList) = none := rfl
  have noInsertion : Command.insertArgument? ("END-FOR".toList ++ ' ' :: body.toList) = none := rfl
  rw [Command.ofText, characters, Command.ofCharacters, noLoop, noLoopEnd, noChoice, noChoiceEnd,
    noExecution, noInsertion, ← characters]
  exact congrArg Command.insert String.ofList_toList

end

/-! ### Open loops -/

/-- The open blocks of a nesting are loops with these aliases. -/
def HasOpen (nesting : Nesting) (aliases : List String) : Prop :=
  nesting.opened.map Report.OpenBlock.block = aliases.map .loop

section

variable {rules : AliasRules} {aliases : List String} {nesting next : Nesting}

theorem aliasesAfterAreNames (fallback : IsName rules.fallback)
    (areNames : ∀ itemName ∈ aliases, IsName itemName) (token : Token) :
    ∀ itemName ∈ token.aliasesAfter rules aliases, IsName itemName := by
  cases token with
  | opening body => exact List.forall_mem_cons.2 ⟨deriveAliasIsName fallback body aliases, areNames⟩
  | closing body => exact fun itemName isOuter => areNames itemName (List.mem_of_mem_tail isOuter)
  | value body => exact areNames

/-- A report that goes on at the command of a token has the loops open that the token leaves open. -/
theorem HasOpen.token {token : Token} (hasOpen : HasOpen nesting aliases) (fallback : IsName rules.fallback)
    (areNames : ∀ itemName ∈ aliases, IsName itemName) (embeddable : Report.Embeddable token.body)
    {isInRun : Bool} (added : nesting.addCommand (token.command rules aliases) isInRun = .ok next) :
    HasOpen next (token.aliasesAfter rules aliases) := by
  unfold Nesting.addCommand at added
  cases token with
  | opening body =>
      have isName := deriveAliasIsName fallback body aliases
      change Report.Embeddable body at embeddable
      simp only [Token.command, openingKind isName embeddable] at added
      obtain rfl := Except.ok.inj added
      exact congrArg (List.cons _) hasOpen
  | value body =>
      change Report.Embeddable body at embeddable
      simp only [Token.command, (valueIsAccess areNames embeddable).kind] at added
      obtain rfl := Except.ok.inj added
      exact hasOpen
  | closing body =>
      change Report.Embeddable body at embeddable
      cases aliases with
      | nil =>
          have noneOpen : nesting.opened = [] := List.map_eq_nil_iff.1 hasOpen
          by_cases isWord : IsSolid body.toList
          · simp only [Token.command, List.headD_nil, wordKind embeddable.notEmpty isWord.2,
              Nesting.close?, noneOpen] at added
            contradiction
          · simp only [Token.command, List.headD_nil, insertedKind embeddable isWord] at added
            obtain rfl := Except.ok.inj added
            exact hasOpen
      | cons itemName outer =>
          obtain ⟨innermost, blocks, isOpened, isLoop, sameOuter⟩ := List.map_eq_cons_iff.1 hasOpen
          have fits : Nesting.isLoop itemName innermost.block = true := by
            rw [isLoop]
            exact Nesting.isLoopIff.2 (.inr rfl)
          simp only [Token.command, List.headD_cons, closingKind (areNames itemName (List.mem_cons_self ..)),
            Nesting.close?, isOpened, fits, if_true, Nesting.closeOr] at added
          obtain rfl := Except.ok.inj added
          exact sameOuter

/-- A report that goes on after the commands of tokens has the loops open that the tokens leave
open. -/
theorem HasOpen.tokens (hasOpen : HasOpen nesting aliases) (fallback : IsName rules.fallback)
    (areNames : ∀ itemName ∈ aliases, IsName itemName) {tokens : List Token}
    (embeddable : ∀ token ∈ tokens, Report.Embeddable token.body) {lexemes : List Lexeme}
    (commands : lexemes.filterMap Lexeme.command? = (commandsOfTokens rules aliases tokens).map .ok)
    (stepped : nesting.steps lexemes = .ok next) :
    HasOpen next (aliasesThrough rules aliases tokens) := by
  induction lexemes generalizing nesting aliases tokens with
  | nil =>
      obtain rfl := Except.ok.inj stepped
      cases tokens with
      | nil => exact hasOpen
      | cons token rest => exact nomatch commands
  | cons lexeme rest inductionHypothesis =>
      unfold Nesting.steps at stepped
      split at stepped
      case h_2 => exact nomatch stepped
      case h_1 middle steppedOnce =>
        cases lexeme with
        | markup content =>
            obtain rfl := Except.ok.inj steppedOnce
            have hasOpenStill : HasOpen (nesting.add (.markup content)) aliases := hasOpen
            exact inductionHypothesis hasOpenStill areNames embeddable commands stepped
        | command raw isInRun =>
            cases tokens with
            | nil => exact nomatch commands
            | cons token others =>
                obtain ⟨isToken, commandsRest⟩ := List.cons.inj commands
                obtain rfl : raw = .ok (token.command rules aliases) := isToken
                obtain ⟨embeddableToken, embeddableRest⟩ := List.forall_mem_cons.1 embeddable
                have hasOpenThen := hasOpen.token fallback areNames embeddableToken steppedOnce
                exact inductionHypothesis hasOpenThen (aliasesAfterAreNames fallback areNames token)
                  embeddableRest commandsRest stepped

end

/-! ### The report -/

section

variable {rules : AliasRules} {markup : List Char} {items : List Item} {earlier later : List Token}
  {body : String}

/-- Commands that are all decoded are refused for their syntax only. -/
theorem refusedForSyntax {commands : List String} {failure : Report.Failure}
    (isRead : (Lexeme.ofMarkup markup).filterMap Lexeme.command? = commands.map .ok)
    (refused : itemsOf markup = .error failure) : failure.IsSyntactic := by
  rcases Report.itemsOfFailure refused with isSyntactic | ⟨before, fault, after, same, -⟩
  · exact isSyntactic
  · have isFault : .error fault ∈ commands.map (Except.ok (ε := Fault)) := by
      rw [← isRead, same]
      simp
    obtain ⟨command, -, isOk⟩ := List.mem_map.1 isFault
    exact nomatch isOk

/-- A report that is accepted has the command of an unmatched closing token outside of all blocks, and
it inserts the command as a whole. -/
theorem unmatchedIsInserted (fallback : IsName rules.fallback)
    (isRead : (Lexeme.ofMarkup markup).filterMap Lexeme.command? =
      (commandsOfTokens rules [] (earlier ++ .closing body :: later)).map .ok)
    (embeddable : ∀ token ∈ earlier ++ .closing body :: later, Report.Embeddable token.body)
    (noneOpen : aliasesThrough rules [] earlier = []) (accepted : itemsOf markup = .ok items) :
    ¬ IsSolid body.toList ∧ ∃ before isInRun after,
      items = before ++ .insert ("END-FOR " ++ body) isInRun :: after := by
  obtain ⟨embeddableEarlier, embeddableRest⟩ := List.forall_mem_append.1 embeddable
  have embeddableBody : Report.Embeddable body := (List.forall_mem_cons.1 embeddableRest).1
  rw [commandsOfTokensAppend, noneOpen, List.map_append] at isRead
  obtain ⟨lexemes, isInRun, rest, parts, commands, -⟩ := Report.splitAtCommand isRead
  obtain ⟨reached, next, stepped, steppedOnce, isKept⟩ := Report.readThrough accepted parts
  have startsOpen : HasOpen Nesting.start [] := rfl
  have hasOpen := startsOpen.tokens fallback nofun embeddableEarlier commands stepped
  rw [noneOpen] at hasOpen
  have isOutside : reached.opened = [] := List.map_eq_nil_iff.1 hasOpen
  have added : reached.addCommand ("END-FOR " ++ body) isInRun = .ok next := steppedOnce
  unfold Nesting.addCommand at added
  by_cases isWord : IsSolid body.toList
  · simp only [wordKind embeddableBody.notEmpty isWord.2, Nesting.close?, isOutside] at added
    contradiction
  · simp only [insertedKind embeddableBody isWord] at added
    obtain rfl := Except.ok.inj added
    obtain ⟨after, isReversed⟩ := isKept
    refine ⟨isWord, reached.items.reverse, isInRun, after.reverse, ?_⟩
    have isOutermost : (reached.add (.insert ("END-FOR " ++ body) isInRun)).outermost =
        .insert ("END-FOR " ++ body) isInRun :: reached.items := by
      simp [Nesting.outermost, Nesting.add, isOutside]
    rw [← List.reverse_reverse items, ← isReversed, isOutermost]
    simp

end

/-! ### The part -/

/-- A plain content has no character of markup, commands or references. -/
def IsPlainContent (content : String) : Prop :=
  ∀ character ∈ content.toList, character ∉ ['<', '>', '\x7b', '\x7d', '&']

instance (content : String) : Decidable (IsPlainContent content) :=
  List.decidableBAll (· ∉ ['<', '>', '\x7b', '\x7d', '&']) content.toList

/-- A text stands in a part as it is. Besides it the part has no brace, and its root is no row. -/
structure IsPlacedIn (part : String) (text : List Char) : Prop where
  written : text <:+: part.toList
  document : ∃ root, Markup.readDocument? part = some root ∧ Part.Holds (· = text) root ∧
    Part.isOfKind .row root = false

/-- The end of a loop has one word. With more words it is a program, which may be refused. -/
def IsRefusedEnd (body : String) : Prop :=
  IsSolid body.toList ∨ ∃ problem, Script.parse ("END-FOR " ++ body) = .error (.problem problem)

/-- A body that begins with a character of a name is refused at the end of a loop, whatever follows. -/
theorem nameIsRefusedEnd {body : String} {first : Char} (begins : body.toList.head? = some first)
    (isInName : Script.Token.isNameContinue first = true) : IsRefusedEnd body :=
  .inr (Script.endOfLoopIsRefused begins isInName)

section

variable {content part : String} {earlier later : List Piece} {body : List Char}

theorem plainIsTagged (isPlain : IsPlainContent content) : isTagged false content.toList = true := by
  unfold IsPlainContent at isPlain
  generalize content.toList = characters at isPlain
  induction characters with
  | nil => rfl
  | cons character rest inductionHypothesis =>
      obtain ⟨notMarkup, plainRest⟩ := List.forall_mem_cons.1 isPlain
      simp only [List.mem_cons, List.not_mem_nil, or_false, not_or] at notMarkup
      simp [isTagged, isAllowed, isInTagAfter, notMarkup, inductionHypothesis plainRest]

theorem rewrittenNoTag (isPlain : IsPlainContent content) :
    '<' ∉ (rewrite .standard content).content.toList := by
  obtain ⟨original, edited, sound⟩ := scriptOfRewriting standardFallbackIsName content
  have inert : ∀ character, isInert character = true → character ≠ '<' := by
    rintro _ isInert rfl
    exact absurd isInert (by decide)
  have noTag : ∀ character ∈ originalOf (scriptOf .standard content), character ≠ '<' := by
    rw [original]
    rintro _ isInside rfl
    exact isPlain _ isInside (by simp)
  rw [← edited]
  exact fun isInside => (classPasses inert).edited sound noTag '<' isInside rfl

/-- The rewriting of a plain content is read as the commands of its tokens, wherever it stands. -/
theorem rewrittenIsRead (isPlain : IsPlainContent content) :
    Report.IsReadAs (commandsOfTokens .standard [] (tokensOf content))
        (rewrite .standard content).content.toList ∧
      ∀ token ∈ tokensOf content, Report.Embeddable token.body :=
  (interspersedRewritten standardFallbackIsName (plainIsTagged isPlain)).imp_left fun interspersed =>
    interspersed.isReadAs (rewrittenNoTag isPlain)

/-- The loops that are open at a point of a rewriting are those that the tokens before it leave
open. -/
theorem progressAgrees (rules : AliasRules) (fallback : IsName rules.fallback) (earlier : List Piece) :
    (progressAfter rules earlier).Agrees (aliasesThrough rules [] (earlier.filterMap Piece.token?)) := by
  induction earlier using List.reverseRecOn with
  | nil => exact startAgrees
  | append_singleton earlier piece inductionHypothesis =>
      unfold aliasesThrough at inductionHypothesis ⊢
      rw [progressAfterSnoc, List.filterMap_append, List.foldl_append]
      cases piece with
      | plain text => exact inductionHypothesis
      | command inside => exact inductionHypothesis
      | token mark body =>
          cases isReplaced : (Piece.token mark body).isReplaced with
          | false => simpa [rewritePiece, Piece.token?, isReplaced] using inductionHypothesis
          | true =>
              have agrees := (rewriteTokenAgrees fallback inductionHypothesis mark (trimmedBody body)).2
              simpa [rewritePiece, Piece.token?, isReplaced] using agrees

theorem unmatchedIsWritten (cut : pieces content.toList = earlier ++ .token .closing body :: later)
    (notBlank : Text.stripList body ≠ []) (noneOpen : (progressAfter .standard earlier).loops = []) :
    braced ("END-FOR " ++ trimmedBody body) <:+: (rewrite .standard content).content.toList := by
  have isReplaced : (Piece.token .closing body).isReplaced = true := by
    simpa [Piece.isReplaced] using notBlank
  have first : rewritePieces .standard (progressAfter .standard earlier)
      (.token .closing body :: later) = braced ("END-FOR " ++ trimmedBody body) ::
        rewritePieces .standard (progressAfter .standard earlier) later := by
    rw [rewritePieces, rewritePiece, if_pos isReplaced]
    simp only [rewriteToken, closeLoop, noneOpen]
  rw [(aliasesAreHygienic .standard content earlier _ cut).1, first, List.flatten_cons]
  exact ⟨_, _, List.append_assoc ..⟩

theorem tokensAround (cut : pieces content.toList = earlier ++ .token .closing body :: later)
    (notBlank : Text.stripList body ≠ []) : tokensOf content = earlier.filterMap Piece.token? ++
      .closing (trimmedBody body) :: later.filterMap Piece.token? := by
  have isToken : (Piece.token .closing body).token? = some (.closing (trimmedBody body)) :=
    if_pos (by simpa [Piece.isReplaced] using notBlank)
  rw [tokensOf, cut, List.filterMap_append, List.filterMap_cons_some isToken]

theorem bracesAround {markup : List Char} {code : String} (embeddable : Report.Embeddable code)
    (isInside : braced ("END-FOR " ++ code) <:+: markup) : Report.holdsBraces markup = true := by
  have embeddableCommand : Report.Embeddable ("END-FOR " ++ code) :=
    @commandEmbeddable .standard [] standardFallbackIsName (List.forall_mem_nil _) (.closing _)
      embeddable
  obtain ⟨front, back, same⟩ := isInside
  have parts : markup = front ++ '\x7b' :: (("END-FOR " ++ code).toList ++ '\x7d' :: back) := by
    simpa [braced] using same.symm
  rw [parts]
  exact Report.bracesOfCommand embeddableCommand.noBrace

end

/-- A closing token where no loop is open lets the report fail for the syntax of a command, unless a
command before it fails: the command of the token ends no block, or it is refused as a program. -/
theorem unmatchedCloseFails (settings : Report.Settings) (session : Session) (name : String)
    {content part : String} {bytes : ByteArray} {earlier later : List Piece} {body : List Char}
    (isPlain : IsPlainContent content)
    (cut : pieces content.toList = earlier ++ .token .closing body :: later)
    (notBlank : Text.stripList body ≠ []) (noneOpen : (progressAfter .standard earlier).loops = [])
    (isRefused : IsRefusedEnd (trimmedBody body)) (decoded : String.fromUTF8? bytes = some part)
    (placed : IsPlacedIn part (rewrite .standard content).content.toList) :
    ∃ failure after, (renderPart settings name bytes).outcome session = (.error failure, after) ∧
      (failure.IsSyntactic ∨ ∃ markup before isInRun rest, preparePart part = .ok markup ∧
        itemsOf markup = .ok (before ++ .insert ("END-FOR " ++ trimmedBody body) isInRun :: rest) ∧
          (renderItems settings .empty before).outcome session = (.error failure, after)) := by
  have tokens := tokensAround cut notBlank
  have noneLeft : aliasesThrough .standard [] (earlier.filterMap Piece.token?) = [] := by
    rw [← (progressAgrees .standard standardFallbackIsName earlier).loops, noneOpen, List.map_nil]
  obtain ⟨isRead, embeddable⟩ := rewrittenIsRead isPlain
  obtain ⟨root, read, holds, notRow⟩ := placed.document
  obtain ⟨markup, prepared, commands⟩ := Report.preparedCommands read
    (holds.imp fun text isText => isText ▸ isRead) notRow
  have embeddableBody : Report.Embeddable (trimmedBody body) :=
    embeddable (.closing (trimmedBody body)) (by simp [tokens])
  have hasBraces := bracesAround embeddableBody
    ((unmatchedIsWritten cut notBlank noneOpen).trans placed.written)
  have reads : (preparePart part).bind itemsOf = itemsOf markup := by rw [prepared]; rfl
  cases nested : itemsOf markup with
  | error failure =>
      exact ⟨failure, session, Report.partIsRefused decoded hasBraces (reads.trans nested),
        .inl (refusedForSyntax commands nested)⟩
  | ok items =>
      rw [tokens] at commands embeddable
      obtain ⟨notSolid, before, isInRun, rest, rfl⟩ :=
        unmatchedIsInserted standardFallbackIsName commands embeddable noneLeft nested
      obtain ⟨problem, refused⟩ := isRefused.resolve_left notSolid
      obtain ⟨failure, after, fails, isFound⟩ :=
        Report.endsAtItem (Report.unreadableFails refused isInRun) before rest session
      refine ⟨failure, after, Report.partFailsWithItems decoded hasBraces (reads.trans nested)
        (by simp [Item.isMarkup]) fails, ?_⟩
      rcases isFound with rfl | earlierFails
      · exact .inl ⟨.script problem, rfl, Script.parseProblem refused⟩
      · exact .inr ⟨markup, before, isInRun, rest, prepared, nested, earlierFails⟩

/-! ### A paragraph -/

/-- This is a paragraph before its text. -/
def paragraphOpening : List Char :=
  "<w:p xmlns:w=\"".toList ++ Part.wordAddress ++ "\"><w:r><w:t>".toList

def paragraphClosing : List Char := "</w:t></w:r></w:p>".toList

def inParagraph (text : List Char) : String :=
  String.ofList (paragraphOpening ++ text ++ paragraphClosing)

def wordHeading (itemName : Char) (declarations : Markup.Declarations) : Markup.Heading :=
  ⟨⟨['w'], [itemName]⟩, Part.wordAddress, declarations, []⟩

theorem paragraphEvents : Markup.eventsOf? (inParagraph "\x7bEND-FOR items\x7d".toList) =
    some [.opening ⟨⟨['w'], ['p']⟩, [⟨⟨"xmlns".toList, ['w']⟩, Part.wordAddress⟩]⟩,
      .opening ⟨⟨['w'], ['r']⟩, []⟩, .opening ⟨⟨['w'], ['t']⟩, []⟩,
      .data "\x7bEND-FOR items\x7d".toList, .closing ⟨['w'], ['t']⟩, .closing ⟨['w'], ['r']⟩,
      .closing ⟨['w'], ['p']⟩] := by
  decide +kernel

theorem loopEndIsPlaced :
    IsPlacedIn (inParagraph "\x7bEND-FOR items\x7d".toList) "\x7bEND-FOR items\x7d".toList where
  written := ⟨paragraphOpening, paragraphClosing, String.toList_ofList.symm⟩
  document := by
    have holds : Part.Holds (· = "\x7bEND-FOR items\x7d".toList)
        (.element (wordHeading 'p' [(['w'], Part.wordAddress)]) ([] ++ [.element (wordHeading 'r' [])
          ([] ++ [.element (wordHeading 't' []) ([] ++ [.text "\x7bEND-FOR items\x7d".toList])])])) :=
      .element nofun (.element nofun (.element nofun (.text rfl) nofun) nofun) nofun
    exact ⟨_, Markup.readDocumentIff.2 ⟨_, paragraphEvents, rfl⟩, holds, by decide +kernel⟩

/-- The usual closing token without its opening one ends no block. -/
theorem unmatchedWordFails :
    let part := inParagraph "\x7bEND-FOR items\x7d".toList
    (rewrite .standard "[/items]").content = "\x7bEND-FOR items\x7d" ∧ IsRefusedEnd "items" ∧
      ∃ failure after, (renderPart Report.plainSettings "part.xml" part.toUTF8).outcome
          ⟨.empty, Scope.empty, Scope.empty⟩ = (.error failure, after) ∧ failure.IsSyntactic := by
  intro part
  have isText : (rewrite .standard "[/items]").content = "\x7bEND-FOR items\x7d" := by
    decide +kernel
  have isRefused : IsRefusedEnd "items" := nameIsRefusedEnd (rfl : _ = some 'i') (by decide)
  have isDecoded : String.fromUTF8? part.toUTF8 = some part := by decide +kernel
  have isCut : pieces "[/items]".toList = [] ++ .token .closing "items".toList :: [] := by
    decide +kernel
  have notAccepted : ((preparePart part).bind itemsOf).isOk = false := by decide +kernel
  obtain ⟨failure, after, fails, isSyntactic | ⟨_, _, _, _, prepared, accepted, -⟩⟩ :=
    unmatchedCloseFails Report.plainSettings ⟨.empty, Scope.empty, Scope.empty⟩ "part.xml"
      (by decide +kernel : IsPlainContent "[/items]") isCut (by decide +kernel) rfl isRefused isDecoded
      (isText ▸ loopEndIsPlaced)
  · exact ⟨isText, isRefused, failure, after, fails, isSyntactic⟩
  · rw [prepared] at notAccepted
    change (itemsOf _).isOk = false at notAccepted
    rw [accepted] at notAccepted
    exact nomatch notAccepted

/-- A closing token whose body goes on with an operator makes a program of the end of the loop. With
data of these names it is rendered. -/
theorem unmatchedSumIsRendered :
    let part := inParagraph "\x7bEND-FOR + 1\x7d".toList
    IsPlainContent "[/+ 1]" ∧ pieces "[/+ 1]".toList = [.token .closing "+ 1".toList] ∧
      (rewrite .standard "[/+ 1]").content = "\x7bEND-FOR + 1\x7d" ∧
        ((renderPart Report.plainSettings "part.xml" part.toUTF8).outcome
          ⟨.empty, ⟨.ofList [("END", .int 5), ("FOR", .int 3)], .empty⟩, Scope.empty⟩).1 =
          .ok (some ("<?xml version='1.0' encoding='UTF-8' standalone='yes'?>\n<w:p xmlns:w=\"" ++
            String.ofList Part.wordAddress ++
              "\"><w:r><w:t xml:space=\"preserve\">3</w:t></w:r></w:p>")) :=
  ⟨by decide +kernel, by decide +kernel, by decide +kernel, by decide +kernel⟩

end Letterpress.Bracket
