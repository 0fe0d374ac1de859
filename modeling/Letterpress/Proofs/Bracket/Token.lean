import Letterpress.Bracket.Rewriting
import Letterpress.Proofs.Bracket.Access
import Letterpress.Proofs.Bracket.Hygiene
import Letterpress.Proofs.Bracket.Piece
import Mathlib.Data.List.TakeWhile

/-!
This file follows the tokens of a tagged text through the rewriting. The rewritten text is
interspersed with one command for each token.
-/

namespace Letterpress.Bracket

open Report (isHarmless harmlessIff Embeddable Interspersed)

/-- A token opens a loop, closes the innermost one or stands for a value. Its body is stripped. -/
inductive Token
  | opening (body : String)
  | closing (body : String)
  | value (body : String)
  deriving DecidableEq, Repr

def Token.ofMark (mark : Mark) (body : String) : Token :=
  match mark with
  | .opening => .opening body
  | .closing => .closing body
  | _ => .value body

/-- A token with a blank body is none. -/
def Piece.token? (piece : Piece) : Option Token :=
  match piece with
  | .token mark body => if piece.isReplaced then some (.ofMark mark (trimmedBody body)) else none
  | _ => none

def tokensOf (content : String) : List Token := (pieces content.toList).filterMap Piece.token?

namespace Token

def body : Token → String
  | opening body => body
  | closing body => body
  | value body => body

/-- A token changes the aliases of the open loops. The innermost one comes first. -/
def aliasesAfter (rules : AliasRules) (aliases : List String) : Token → List String
  | opening body => deriveAlias rules body aliases :: aliases
  | closing _ => aliases.tail
  | value _ => aliases

/-- A value is looked up in the item of the innermost loop, or else at the root. -/
def valueCode (aliases : List String) (body : String) : String :=
  match aliases with
  | itemName :: _ =>
      if needsLoopContext body then accessFromAlias itemName body else toRootExpression body
  | [] => toRootExpression body

/-- This is the command that a token is rewritten to. -/
def command (rules : AliasRules) (aliases : List String) : Token → String
  | opening body => "FOR " ++ deriveAlias rules body aliases ++ " IN " ++ body
  | closing body => "END-FOR " ++ aliases.headD body
  | value body => valueCode aliases body

end Token

/-- Each token is rewritten inside of the loops that the tokens before it leave open. -/
def commandsOfTokens (rules : AliasRules) : List String → List Token → List String
  | _, [] => []
  | aliases, token :: rest =>
      token.command rules aliases :: commandsOfTokens rules (token.aliasesAfter rules aliases) rest

/-! ### Commands of tokens -/

section

variable {rules : AliasRules} {aliases : List String} {itemName body : String}

theorem afterKeywordOf (keyword : String) (rest : List Char) :
    Text.afterKeyword? keyword (keyword.toList ++ rest) = some rest :=
  Text.SpellsKeyword.after rfl rest

/-- An argument follows a keyword and a space. -/
theorem argumentOf (keyword : String) {argument : List Char} (notEmpty : argument ≠ [])
    (first : ∀ character, argument.head? = some character → Text.isBlank character = false) :
    Report.Command.argument? keyword (keyword.toList ++ ' ' :: argument) = some argument := by
  obtain ⟨character, rest, rfl⟩ := List.exists_cons_of_ne_nil notEmpty
  have trimmed : (' ' :: character :: rest).dropWhile Text.isBlank = character :: rest := by
    rw [List.dropWhile_cons_of_pos (by decide),
      List.dropWhile_cons_of_neg (by simp [first character rfl])]
  simp [Report.Command.argument?, afterKeywordOf, trimmed]

theorem splitWordOf {word rest : List Char}
    (noBlank : ∀ character ∈ word, Text.isBlank character = false)
    (first : ∀ character, rest.head? = some character → Text.isBlank character = false) :
    Report.Command.splitWord (word ++ ' ' :: rest) = (word, rest) := by
  have taken : (word ++ ' ' :: rest).takeWhile (fun character => !Text.isBlank character) = word := by
    rw [List.takeWhile_append_of_pos (by simpa using noBlank),
      List.takeWhile_cons_of_neg (by decide), List.append_nil]
  have dropped : (' ' :: rest).dropWhile Text.isBlank = rest := by
    rw [List.dropWhile_cons_of_pos (by decide)]
    cases rest with
    | nil => rfl
    | cons character more =>
        exact List.dropWhile_cons_of_neg (by simp [first character rfl])
  simp [Report.Command.splitWord, taken, dropped]

theorem nameNotBlank (isName : IsName itemName) :
    ∀ character ∈ itemName.toList, Text.isBlank character = false :=
  fun character isInside => Text.asciiWordNotBlank (isName.2 character isInside)

theorem itemNameOfName (isName : IsName itemName) :
    Report.Command.itemName itemName.toList = itemName := by
  unfold Report.Command.itemName
  split
  case h_1 rest same =>
    have isWord := isName.2 '$' (same ▸ List.mem_cons_self ..)
    exact absurd isWord (by decide)
  case h_2 => exact String.ofList_toList

/-- The command of an opening token opens a loop over its body. -/
theorem openingKind (isName : IsName itemName) (embeddable : Embeddable body) :
    Report.Command.ofText ("FOR " ++ itemName ++ " IN " ++ body) =
      .openBlock (.loop itemName) body := by
  have nameNotEmpty : itemName.toList ≠ [] := fun empty =>
    isName.1 (String.toList_eq_nil_iff.1 empty)
  have bodyNotEmpty : body.toList ≠ [] := fun empty =>
    embeddable.notEmpty (String.toList_eq_nil_iff.1 empty)
  have characters : ("FOR " ++ itemName ++ " IN " ++ body).toList =
      "FOR".toList ++ ' ' :: (itemName.toList ++ ' ' :: ("IN".toList ++ ' ' :: body.toList)) := by
    simp
  have nameFirst (character : Char)
      (isFirst : (itemName.toList ++ ' ' :: ("IN".toList ++ ' ' :: body.toList)).head? =
        some character) : Text.isBlank character = false := by
    rw [List.head?_append_of_ne_nil _ nameNotEmpty] at isFirst
    exact nameNotBlank isName character (List.mem_of_head? isFirst)
  have loopArgument := argumentOf "FOR" (List.append_ne_nil_of_left_ne_nil nameNotEmpty _) nameFirst
  have listArgument := argumentOf "IN" bodyNotEmpty embeddable.first
  have word : Report.Command.splitWord
      (itemName.toList ++ ' ' :: ("IN".toList ++ ' ' :: body.toList)) =
        (itemName.toList, "IN".toList ++ ' ' :: body.toList) :=
    splitWordOf (nameNotBlank isName) fun _ isFirst => Option.some.inj isFirst ▸ (by decide)
  rw [Report.Command.ofText, characters, Report.Command.ofCharacters, Report.Command.openLoop?,
    loopArgument]
  simp only [Option.bind_eq_bind, Option.bind_some, word, listArgument, Option.getD_some,
    itemNameOfName isName, String.ofList_toList]

/-- A closing token whose word has no blank ends a loop. -/
theorem wordKind (notEmpty : body ≠ "")
    (noBlank : ∀ character ∈ body.toList, Text.isBlank character = false) :
    Report.Command.ofText ("END-FOR " ++ body) =
      .closeLoop (Report.Command.itemName body.toList) := by
  have bodyNotEmpty : body.toList ≠ [] := fun empty => notEmpty (String.toList_eq_nil_iff.1 empty)
  have characters : ("END-FOR " ++ body).toList = "END-FOR".toList ++ ' ' :: body.toList := by
    simp
  have noLoop : Report.Command.openLoop? ("END-FOR".toList ++ ' ' :: body.toList) = none := rfl
  have endArgument := argumentOf "END-FOR" bodyNotEmpty fun character isFirst =>
    noBlank character (List.mem_of_head? isFirst)
  have word : Report.Command.splitWord body.toList = (body.toList, []) := by
    have taken : body.toList.takeWhile (fun character => !Text.isBlank character) = body.toList :=
      List.takeWhile_eq_self_iff.2 (by simpa using noBlank)
    simp [Report.Command.splitWord, taken]
  have closes : Report.Command.closeLoop? ("END-FOR".toList ++ ' ' :: body.toList) =
      some (.closeLoop (Report.Command.itemName body.toList)) := by
    rw [Report.Command.closeLoop?, afterKeywordOf, endArgument]
    simp only [Option.bind_eq_bind, Option.bind_some, word]
  rw [Report.Command.ofText, characters, Report.Command.ofCharacters, noLoop, closes]
  rfl

/-- The command of a closing token ends the loop with its alias. -/
theorem closingKind (isName : IsName itemName) :
    Report.Command.ofText ("END-FOR " ++ itemName) = .closeLoop itemName := by
  rw [wordKind isName.1 (nameNotBlank isName), itemNameOfName isName]

namespace CarriesOver

variable {given written : List Char → Prop} (carries : CarriesOver given written)

include carries

theorem valueCode (areNames : ∀ itemName ∈ aliases, IsName itemName) (isGiven : given body.toList) :
    written (Token.valueCode aliases body).toList := by
  unfold Token.valueCode
  split
  case h_1 itemName _ =>
    split
    case isTrue => exact carries.accessFromAlias (areNames itemName (List.mem_cons_self ..)) isGiven
    case isFalse => exact carries.rootExpression isGiven
  case h_2 => exact carries.rootExpression isGiven

/-- What is given of the body of a token is written of its command. -/
theorem command (fallback : IsName rules.fallback)
    (areNames : ∀ itemName ∈ aliases, IsName itemName) {token : Token}
    (isGiven : given token.body.toList) : written (token.command rules aliases).toList := by
  cases token with
  | opening body =>
      simp only [Token.command, String.toList_append]
      have isName := deriveAliasIsName fallback body aliases
      exact carries.append (carries.append (carries.append (carries.fillers (by decide))
        (carries.name isName)) (carries.fillers (by decide))) (carries.kept isGiven)
  | closing body =>
      rw [Token.command, String.toList_append]
      refine carries.append (carries.fillers (by decide)) ?_
      cases aliases with
      | nil => exact carries.kept isGiven
      | cons itemName outer => exact carries.name (areNames itemName (List.mem_cons_self ..))
  | value body => exact carries.valueCode areNames isGiven

end CarriesOver

/-- The command of a value token is inserted. -/
theorem valueIsAccess (areNames : ∀ itemName ∈ aliases, IsName itemName)
    (embeddable : Embeddable body) : IsAccess (Token.valueCode aliases body) := by
  unfold Token.valueCode
  split
  case h_1 itemName _ =>
    split
    case isTrue =>
      exact accessFromAliasIsAccess (areNames itemName (List.mem_cons_self ..)) embeddable.last
    case isFalse => exact toRootExpressionIsAccess embeddable.notEmpty
  case h_2 => exact toRootExpressionIsAccess embeddable.notEmpty

theorem nameEmbeddable (isName : IsName itemName) : Embeddable itemName where
  notEmpty := isName.1
  first character isFirst := nameNotBlank isName character (List.mem_of_head? isFirst)
  last character isLast := nameNotBlank isName character (List.mem_of_getLast? isLast)
  harmless character isInside :=
    segmentCharacterHarmless (Text.asciiWordInSegment (isName.2 character isInside))

/-- Harmless words may stand before an embeddable command. -/
theorem embeddableAfter {front rest : String} (embeddable : Embeddable rest)
    (first : ∃ character, front.toList.head? = some character ∧ Text.isBlank character = false)
    (harmless : front.toList.all isHarmless = true) : Embeddable (front ++ rest) where
  notEmpty empty := embeddable.notEmpty (String.append_eq_empty_iff.1 empty).2
  first character isFirst := by
    obtain ⟨begins, isBegins, notBlank⟩ := first
    rw [String.toList_append, List.head?_append, isBegins] at isFirst
    exact Option.some.inj isFirst ▸ notBlank
  last character isLast := by
    have restNotEmpty : rest.toList ≠ [] := fun empty =>
      embeddable.notEmpty (String.toList_eq_nil_iff.1 empty)
    rw [String.toList_append, List.getLast?_append_of_ne_nil _ restNotEmpty] at isLast
    exact embeddable.last character isLast
  harmless character isInside := by
    rw [String.toList_append, List.mem_append] at isInside
    exact isInside.elim (List.all_eq_true.1 harmless character) (embeddable.harmless character)

/-- The command of a token stands between braces as it is. -/
theorem commandEmbeddable (fallback : IsName rules.fallback)
    (areNames : ∀ itemName ∈ aliases, IsName itemName) {token : Token}
    (embeddable : Embeddable token.body) : Embeddable (token.command rules aliases) := by
  cases token with
  | opening body =>
      refine embeddableAfter embeddable ⟨'F', by simp, by decide⟩ ?_
      have nameHarmless := (nameEmbeddable (deriveAliasIsName fallback body aliases)).harmless
      simp only [String.toList_append, List.all_append, Bool.and_eq_true]
      exact ⟨⟨by decide, List.all_eq_true.2 nameHarmless⟩, by decide⟩
  | closing body =>
      refine embeddableAfter ?_ ⟨'E', by simp, by decide⟩ (by decide)
      cases aliases with
      | nil => exact embeddable
      | cons itemName outer => exact nameEmbeddable (areNames itemName (List.mem_cons_self ..))
  | value body =>
      exact (valueIsAccess areNames embeddable).embeddable
        (harmlessCarries.valueCode areNames embeddable.harmless)

end

/-! ### Progress -/

/-- A progress agrees with the aliases of the open loops. They are names and differ. -/
structure Progress.Agrees (progress : Progress) (aliases : List String) : Prop where
  loops : progress.loops.map Loop.itemName = aliases
  active : progress.active = aliases
  distinct : aliases.Nodup
  areNames : ∀ itemName ∈ aliases, IsName itemName

theorem startAgrees : Progress.start.Agrees [] := ⟨rfl, rfl, .nil, nofun⟩

/-- A token is rewritten to its command, and the progress keeps to the open loops. -/
theorem rewriteTokenAgrees {rules : AliasRules} {progress : Progress} {aliases : List String}
    (fallback : IsName rules.fallback) (agrees : progress.Agrees aliases) (mark : Mark)
    (body : String) :
    (rewriteToken rules progress mark body).1 =
        braced ((Token.ofMark mark body).command rules aliases) ∧
      (rewriteToken rules progress mark body).2.Agrees
        ((Token.ofMark mark body).aliasesAfter rules aliases) := by
  obtain ⟨sameLoops, rfl, distinct, areNames⟩ := agrees
  have hygienic : progress.IsHygienic := ⟨sameLoops.symm, distinct⟩
  have value : valueCommand progress body = braced (Token.valueCode progress.active body) := by
    rw [← sameLoops]
    unfold valueCommand Token.valueCode
    cases progress.loops with
    | nil => rfl
    | cons loop outer =>
        simp only [List.map_cons]
        split <;> rfl
  cases mark with
  | opening =>
      have notActive := deriveAliasNotActive rules body progress.active
      refine ⟨rfl, congrArg _ sameLoops, rfl, List.nodup_cons.2 ⟨notActive, distinct⟩, ?_⟩
      exact List.forall_mem_cons.2 ⟨deriveAliasIsName fallback body progress.active, areNames⟩
  | closing =>
      cases loops : progress.loops with
      | nil =>
          rw [loops] at sameLoops
          simp only [rewriteToken, closeLoop, loops, ← sameLoops]
          exact ⟨rfl, by rw [loops]; rfl, sameLoops.symm, .nil, List.forall_mem_nil _⟩
      | cons loop outer =>
          obtain ⟨active, distinctOuter⟩ := hygienic.outer loops
          rw [loops, List.map_cons] at sameLoops
          simp only [rewriteToken, closeLoop, loops, ← sameLoops] at areNames active distinctOuter ⊢
          exact ⟨rfl, rfl, active, active ▸ distinctOuter, (List.forall_mem_cons.1 areNames).2⟩
  | value => exact ⟨value, sameLoops, rfl, distinct, areNames⟩
  | both => exact ⟨value, sameLoops, rfl, distinct, areNames⟩

/-! ### Tagged texts -/

/-- A tag holds no opening bracket and no brace that opens. The text around tags holds no character
of markup, commands or references. -/
def isAllowed (isInTag : Bool) (character : Char) : Bool :=
  if isInTag then character ≠ '[' && character ≠ '\x7b'
  else character ≠ '>' && character ≠ '\x7b' && character ≠ '\x7d' && character ≠ '&'

def isInTagAfter (isInTag : Bool) (character : Char) : Bool :=
  if isInTag then character ≠ '>' else character = '<'

/-- A tagged text is text with tags in it, and each tag is closed. -/
def isTagged : Bool → List Char → Bool
  | isInTag, [] => !isInTag
  | isInTag, character :: rest =>
      isAllowed isInTag character && isTagged (isInTagAfter isInTag character) rest

theorem interspersedCharacter {isInTag : Bool} {character : Char} {rest : List Char}
    {commands : List String} (allowed : isAllowed isInTag character = true)
    (interspersed : Interspersed (isInTagAfter isInTag character) rest commands) :
    Interspersed isInTag (character :: rest) commands := by
  cases isInTag with
  | false =>
      obtain ⟨⟨⟨-, notBrace⟩, -⟩, -⟩ : ((character ≠ '>' ∧ character ≠ '\x7b') ∧ character ≠ '\x7d') ∧
          character ≠ '&' := by simpa [isAllowed] using allowed
      by_cases opens : character = '<'
      · subst opens
        exact .opening interspersed
      · simp only [isInTagAfter, opens] at interspersed
        exact .plain opens notBrace interspersed
  | true =>
      by_cases closes : character = '>'
      · subst closes
        exact .closing interspersed
      · rw [isInTagAfter, if_pos rfl, decide_eq_true closes] at interspersed
        exact .inside closes interspersed

/-- What is copied from a tagged text leaves a tagged text. -/
theorem interspersedCopy {isInTag : Bool} {text rest : List Char}
    (tagged : isTagged isInTag (text ++ rest) = true) :
    ∃ isInTagThen, isTagged isInTagThen rest = true ∧
      ∀ {written : List Char} {commands : List String}, Interspersed isInTagThen written commands →
        Interspersed isInTag (text ++ written) commands := by
  induction text generalizing isInTag with
  | nil => exact ⟨isInTag, tagged, id⟩
  | cons character text inductionHypothesis =>
      obtain ⟨allowed, taggedRest⟩ := Bool.and_eq_true_iff.1 tagged
      obtain ⟨isInTagThen, taggedThen, copies⟩ := inductionHypothesis taggedRest
      exact ⟨isInTagThen, taggedThen, fun interspersed =>
        interspersedCharacter allowed (copies interspersed)⟩

/-- A text without a tag is harmless and leaves a tagged text. -/
theorem taggedAfterText {text rest : List Char} (noTag : ∀ character ∈ text, character ≠ '<')
    (tagged : isTagged false (text ++ rest) = true) :
    (∀ character ∈ text, isHarmless character = true) ∧ isTagged false rest = true := by
  induction text with
  | nil => exact ⟨nofun, tagged⟩
  | cons character text inductionHypothesis =>
      obtain ⟨notTag, noTagRest⟩ := List.forall_mem_cons.1 noTag
      obtain ⟨allowed, taggedRest⟩ := Bool.and_eq_true_iff.1 tagged
      simp only [isInTagAfter, notTag] at taggedRest
      obtain ⟨harmlessRest, taggedThen⟩ := inductionHypothesis noTagRest taggedRest
      obtain ⟨⟨⟨-, notOpening⟩, notClosing⟩, notReference⟩ : ((character ≠ '>' ∧ character ≠ '\x7b') ∧
          character ≠ '\x7d') ∧ character ≠ '&' := by simpa [isAllowed] using allowed
      exact ⟨List.forall_mem_cons.2
        ⟨harmlessIff.2 ⟨notTag, notOpening, notClosing, notReference⟩, harmlessRest⟩, taggedThen⟩

theorem sourceNoTag {mark : Mark} {body : List Char} (admitted : (Piece.token mark body).Admitted) :
    ∀ character ∈ (Piece.token mark body).source, character ≠ '<' := by
  intro character isInside
  rw [Piece.source, List.mem_cons, List.mem_append, List.mem_singleton] at isInside
  obtain rfl | isInner | rfl := isInside
  · decide
  · have isAdmitted := admitted.inside character isInner
    simp only [isInBody, Bool.and_eq_true, decide_eq_true_eq] at isAdmitted
    exact isAdmitted.2
  · decide

/-- The body of a token in a tagged text can be embedded. -/
theorem bodyEmbeddable {mark : Mark} {body : List Char}
    (replaced : (Piece.token mark body).isReplaced = true)
    (harmless : ∀ character ∈ (Piece.token mark body).source, isHarmless character = true) :
    Embeddable (trimmedBody body) where
  notEmpty empty := by
    rw [trimmedBody, String.ofList_eq_empty_iff] at empty
    simp [Piece.isReplaced, empty] at replaced
  first character isFirst := by
    rw [trimmedBody, String.toList_ofList] at isFirst
    exact Text.stripListFirst isFirst
  last character isLast := by
    rw [trimmedBody, String.toList_ofList] at isLast
    exact Text.stripListLast isLast
  harmless character isInside := by
    rw [trimmedBody, String.toList_ofList] at isInside
    refine harmless character ?_
    simp [Piece.source, Text.stripListSubset _ isInside]

/-- The rewritten pieces of a tagged text are interspersed with the commands of its tokens, and the
bodies of these can be embedded. -/
theorem interspersedPieces {rules : AliasRules} (fallback : IsName rules.fallback)
    {cut : List Piece} (admitted : ∀ piece ∈ cut, piece.Admitted) {isInTag : Bool}
    (tagged : isTagged isInTag (cut.flatMap Piece.source) = true) {progress : Progress}
    {aliases : List String} (agrees : progress.Agrees aliases) :
    Interspersed isInTag (rewritePieces rules progress cut).flatten
        (commandsOfTokens rules aliases (cut.filterMap Piece.token?)) ∧
      ∀ token ∈ cut.filterMap Piece.token?, Embeddable token.body := by
  induction cut generalizing isInTag progress aliases with
  | nil =>
      cases isInTag with
      | false => exact ⟨.done, nofun⟩
      | true => exact nomatch tagged
  | cons piece rest inductionHypothesis =>
      obtain ⟨isAdmitted, admittedRest⟩ := List.forall_mem_cons.1 admitted
      rw [List.flatMap_cons] at tagged
      cases piece with
      | plain text =>
          obtain ⟨isInTagThen, taggedThen, copies⟩ := interspersedCopy tagged
          exact (inductionHypothesis admittedRest taggedThen agrees).imp_left copies
      | command inside =>
          have notAllowed : isAllowed isInTag '\x7b' = false := by cases isInTag <;> decide
          obtain ⟨allowed, -⟩ := Bool.and_eq_true_iff.1 tagged
          exact absurd allowed (by simp [notAllowed])
      | token mark body =>
          obtain rfl : isInTag = false := by
            cases isInTag with
            | false => rfl
            | true => exact absurd (Bool.and_eq_true_iff.1 tagged).1 (by decide)
          cases replaced : (Piece.token mark body).isReplaced with
          | false =>
              have isNone : (Piece.token mark body).token? = none := if_neg (by simp [replaced])
              have isKept : rewritePiece rules progress (.token mark body) =
                  ((Piece.token mark body).source, progress) := if_neg (by simp [replaced])
              obtain ⟨isInTagThen, taggedThen, copies⟩ := interspersedCopy tagged
              rw [List.filterMap_cons_none isNone, rewritePieces, isKept, List.flatten_cons]
              exact (inductionHypothesis admittedRest taggedThen agrees).imp_left copies
          | true =>
              have isToken : (Piece.token mark body).token? =
                  some (.ofMark mark (trimmedBody body)) := if_pos replaced
              have isRewritten : rewritePiece rules progress (.token mark body) =
                  rewriteToken rules progress mark (trimmedBody body) := if_pos replaced
              obtain ⟨harmless, taggedRest⟩ := taggedAfterText (sourceNoTag isAdmitted) tagged
              have embeddable : Embeddable (Token.ofMark mark (trimmedBody body)).body := by
                cases mark <;> exact bodyEmbeddable replaced harmless
              obtain ⟨written, agreesThen⟩ :=
                rewriteTokenAgrees fallback agrees mark (trimmedBody body)
              obtain ⟨interspersed, embeddableRest⟩ :=
                inductionHypothesis admittedRest taggedRest agreesThen
              rw [List.filterMap_cons_some isToken, rewritePieces, isRewritten,
                List.flatten_cons, written]
              exact ⟨.command (commandEmbeddable fallback agrees.areNames embeddable) interspersed,
                List.forall_mem_cons.2 ⟨embeddable, embeddableRest⟩⟩

theorem interspersedRewritten {rules : AliasRules} (fallback : IsName rules.fallback)
    {content : String} (tagged : isTagged false content.toList = true) :
    Interspersed false (rewrite rules content).content.toList
        (commandsOfTokens rules [] (tokensOf content)) ∧
      ∀ token ∈ tokensOf content, Embeddable token.body := by
  rw [← piecesSource content.toList] at tagged
  rw [rewrite, String.toList_ofList]
  exact interspersedPieces fallback (piecesAdmitted content.toList) tagged startAgrees

/-- The rewritten content is read as the commands of its tokens. -/
theorem commandsOfRewritten {rules : AliasRules} (fallback : IsName rules.fallback)
    {content : String} (tagged : isTagged false content.toList = true) :
    (Report.Lexeme.ofMarkup (rewrite rules content).content.toList).filterMap
        Report.Lexeme.command? = (commandsOfTokens rules [] (tokensOf content)).map .ok ∧
      ∀ token ∈ tokensOf content, Embeddable token.body :=
  (interspersedRewritten fallback tagged).imp_left Interspersed.commands

end Letterpress.Bracket
