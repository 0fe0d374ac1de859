import Letterpress.Proofs.Bracket.Exposure

/-!
This file shows when a second rewriting changes nothing. The commands of the first one must expose no
bracket.
-/

namespace Letterpress.Bracket

/-- No command of a script exposes a bracket to the text after it. -/
def Unexposed : List Edit → Prop
  | [] => True
  | .keep _ :: rest => Unexposed rest
  | .replace _ code :: rest =>
      ¬ ExposesBracket ('\x7b' :: (code ++ ['\x7d'])) (editedOf rest) ∧ Unexposed rest

theorem unexposedKeep (text : List Char) (script : List Edit) :
    Unexposed (keepAll text ++ script) ↔ Unexposed script := by
  induction text with
  | nil => exact Iff.rfl
  | cons character rest inductionHypothesis => exact inductionHypothesis

/-! ### What is reached after a rewriting is reached before it -/

section

variable {admits : Char → Bool} {closing : Char} {script : List Edit}

/-- If a replaced token hides no closing character, the whole script hides none. -/
theorem reachesOriginal (refuses : admits closing = false)
    (replaced : ∀ inside code before after, Edit.replace inside code ∈ script →
      ReachesClosing admits closing ('\x7b' :: (code ++ ['\x7d']) ++ after) →
        ReachesClosing admits closing ('[' :: (inside ++ [']']) ++ before))
    (reaches : ReachesClosing admits closing (editedOf script)) :
    ReachesClosing admits closing (originalOf script) := by
  induction script with
  | nil => exact reaches
  | cons edit rest inductionHypothesis =>
      rw [editedOfCons] at reaches
      rw [originalOfCons]
      cases edit with
      | keep character =>
          change ReachesClosing admits closing (character :: editedOf rest) at reaches
          change ReachesClosing admits closing (character :: originalOf rest)
          by_cases admitted : admits character = true
          · rw [reachesConsIff admitted refuses] at reaches ⊢
            apply inductionHypothesis _ reaches
            intro inside code before after isInside
            exact replaced inside code before after (List.mem_cons_of_mem _ isInside)
          · by_cases isClosing : character = closing
            · subst isClosing
              exact ⟨[], originalOf rest, rfl, nofun⟩
            · exact absurd reaches (reachesStop (Bool.not_eq_true _ ▸ admitted) isClosing)
      | replace inside code => exact replaced inside code _ _ (List.mem_cons_self ..) reaches

/-- A replaced token ends in a brace that closes no command begun before it. -/
theorem commandReached (reaches : ReachesClosing isInCommand '\x7d' (editedOf script)) :
    ReachesClosing isInCommand '\x7d' (originalOf script) := by
  apply reachesOriginal (by decide) _ reaches
  intro inside code before after isInside reachesCommand
  exact absurd reachesCommand (reachesStop (by decide) (by decide))

/-- A replaced token closes a token begun before it. -/
theorem tokenReached (sound : IsSound script)
    (reaches : ReachesClosing isInBody ']' (editedOf script)) :
    ReachesClosing isInBody ']' (originalOf script) := by
  apply reachesOriginal (by decide) _ reaches
  intro inside code before after isInside reachesToken
  have replacement : IsReplacement inside code := sound _ isInside
  refine ⟨'[' :: inside, before, by simp, ?_⟩
  exact List.forall_mem_cons.2 ⟨by decide, replacement.admitted⟩

end

/-! ### Settled rewritings -/

section

variable {rules : AliasRules} {aliases : List String}

/-- A piece that is kept leaves the question to the pieces after it. -/
theorem settledKeptIff {piece : Piece} {rest : List Piece} (isNone : piece.token? = none)
    (sound : IsSound (scriptFrom rules aliases (piece :: rest)))
    (settledRest : IsSound (scriptFrom rules aliases rest) →
      (IsSettled (editedOf (scriptFrom rules aliases rest)) ↔
        Unexposed (scriptFrom rules aliases rest)))
    (settledKept : IsSound (scriptFrom rules aliases rest) →
      (IsSettled (piece.source ++ editedOf (scriptFrom rules aliases rest)) ↔
        IsSettled (editedOf (scriptFrom rules aliases rest)))) :
    IsSettled (editedOf (scriptFrom rules aliases (piece :: rest))) ↔
      Unexposed (scriptFrom rules aliases (piece :: rest)) := by
  have kept : scriptFrom rules aliases (piece :: rest) =
      keepAll piece.source ++ scriptFrom rules aliases rest := by
    rw [scriptFrom, isNone]
  rw [kept] at sound ⊢
  have soundRest := (soundAppend.1 sound).2
  rw [editedOfAppend, editedOfKeep, unexposedKeep, settledKept soundRest, settledRest soundRest]

/-- A token that is not replaced has a blank body. -/
theorem blankOfKept {mark : Mark} {body : List Char}
    (isNone : (Piece.token mark body).token? = none) : Text.stripList body = [] := by
  by_contra notBlank
  have replaced : (Piece.token mark body).isReplaced = true := by
    simp [Piece.isReplaced, notBlank]
  have isToken := (if_pos replaced).symm.trans isNone
  cases isToken

/-- A rewritten content is settled exactly if no command exposes a bracket. -/
theorem settledScriptIff {content : List Char}
    (sound : IsSound (scriptFrom rules aliases (pieces content))) :
    IsSettled (editedOf (scriptFrom rules aliases (pieces content))) ↔
      Unexposed (scriptFrom rules aliases (pieces content)) := by
  induction content using pieceInduction generalizing aliases with
  | empty => exact iff_of_true settledNil trivial
  | step character rest inductionHypothesis =>
      rw [piecesCons] at sound ⊢
      have source : originalOf (scriptFrom rules aliases (pieces rest)) = rest := by
        rw [originalOfScript, piecesSource]
      by_cases isBrace : character = '\x7b'
      · subst isBrace
        by_cases isCommand : ReachesClosing isInCommand '\x7d' rest
        · obtain ⟨inside, others, rfl, admitted⟩ := isCommand
          rw [firstCommand admitted] at sound inductionHypothesis ⊢
          apply settledKeptIff rfl sound inductionHypothesis
          intro soundRest
          simp only [Piece.source, List.cons_append, List.append_assoc, List.nil_append]
          exact settledCommandIff admitted
        · rw [firstBrace isCommand] at sound inductionHypothesis ⊢
          apply settledKeptIff rfl sound inductionHypothesis
          intro soundRest
          apply settledBraceIff
          intro reaches
          exact isCommand (source ▸ commandReached reaches)
      · by_cases isBracket : character = '['
        · subst isBracket
          by_cases isToken : ReachesClosing isInBody ']' rest
          · obtain ⟨inside, others, rfl, admitted⟩ := isToken
            rw [firstToken admitted] at sound inductionHypothesis ⊢
            cases found : (Piece.token (splitMark inside).1 (splitMark inside).2).token? with
            | none =>
                apply settledKeptIff found sound inductionHypothesis
                intro soundRest
                rw [Piece.source, splitMarkSource]
                simp only [List.cons_append, List.append_assoc, List.nil_append]
                rw [settledTokenIff admitted]
                exact and_iff_right (blankOfKept found)
            | some token =>
                rw [scriptFrom, found] at sound ⊢
                simp only at sound ⊢
                obtain ⟨replacement, soundRest⟩ := soundCons.1 sound
                rw [editedOfCons, Unexposed, ← inductionHypothesis soundRest]
                exact (writtenRemainder replacement).settledIff
          · rw [firstBracket isToken] at sound inductionHypothesis ⊢
            apply settledKeptIff rfl sound inductionHypothesis
            intro soundRest
            apply settledBracketIff
            intro reaches
            exact isToken (source ▸ tokenReached soundRest reaches)
        · have plain : isPlain character = true := by simp [isPlain, isBrace, isBracket]
          rw [firstPlain plain] at sound inductionHypothesis ⊢
          apply settledKeptIff rfl sound inductionHypothesis
          intro soundRest
          apply settledPlainsIff
          exact List.forall_mem_cons.2 ⟨plain, fun other => List.mem_takeWhile_imp⟩

theorem notMutatedIff (text : String) :
    (rewrite rules text).mutated = false ↔ IsSettled text.toList :=
  Iff.rfl

/-- A text is settled exactly if a rewriting leaves it as it is. -/
theorem rewriteSettledIff (text : String) :
    rewrite rules text = ⟨text, false⟩ ↔ IsSettled text.toList := by
  constructor
  · intro same
    exact congrArg Rewritten.mutated same
  · intro settled
    have kept (progress : Progress) (cut : List Piece)
        (noneReplaced : cut.any Piece.isReplaced = false) :
        (rewritePieces rules progress cut).flatten = cut.flatMap Piece.source := by
      induction cut with
      | nil => rfl
      | cons piece rest inductionHypothesis =>
          rw [List.any_cons, Bool.or_eq_false_iff] at noneReplaced
          have isNone : piece.token? = none := by
            cases piece with
            | plain text => rfl
            | command inside => rfl
            | token mark body => exact if_neg (by simp [noneReplaced.1])
          rw [rewritePieces, rewritePieceKept isNone, List.flatten_cons, List.flatMap_cons,
            inductionHypothesis noneReplaced.2]
    rw [rewrite, Rewritten.mk.injEq, kept _ _ settled, piecesSource, String.ofList_toList]
    exact ⟨rfl, settled⟩

/-- A second rewriting changes nothing exactly if no command of the first one exposes a bracket. -/
theorem rewrittenSettledIff (fallback : IsName rules.fallback) (content : String) :
    IsSettled (rewrite rules content).content.toList ↔ Unexposed (scriptOf rules content) := by
  obtain ⟨-, edited, sound⟩ := scriptOfRewriting fallback content
  rw [← edited]
  exact settledScriptIff sound

end

/-! ### Bodies without braces -/

/-- A body holds no brace. -/
def IsBraceless (body : String) : Prop := '\x7b' ∉ body.toList ∧ '\x7d' ∉ body.toList

instance (body : String) : Decidable (IsBraceless body) := inferInstanceAs (Decidable (_ ∧ _))

theorem fillerInCommand {character : Char} (isFill : isFiller character = true) :
    isInCommand character = true := by
  have notBrace : character ≠ '\x7b' := by
    rintro rfl
    exact absurd isFill (by decide)
  have notClosing : character ≠ '\x7d' := by
    rintro rfl
    exact absurd isFill (by decide)
  have notTag : character ≠ '<' := by
    rintro rfl
    exact absurd isFill (by decide)
  simp [isInCommand, notBrace, notClosing, notTag]

theorem escapeInCommand {character : Char} (escape : Text.isEscape character = true) :
    isInCommand character = true := by
  simp only [Text.isEscape, Bool.or_eq_true, decide_eq_true_eq, or_assoc] at escape
  rcases escape with isWord | rfl | rfl
  · exact fillerInCommand (by simp [isFiller, Text.isAsciiWord, isWord])
  · decide
  · decide

/-- A body without braces may stand in a command. -/
theorem bracelessInCommand {mark : Mark} {body : List Char}
    (admitted : (Piece.token mark body).Admitted) (braceless : IsBraceless (trimmedBody body)) :
    ∀ character ∈ (trimmedBody body).toList, isInCommand character = true := by
  intro character isInside
  have notBrace : character ≠ '\x7b' := by
    rintro rfl
    exact braceless.1 isInside
  have notClosing : character ≠ '\x7d' := by
    rintro rfl
    exact braceless.2 isInside
  rw [trimmedBody, String.toList_ofList] at isInside
  have inBody := admitted character (Text.stripListSubset _ isInside)
  have notTag : character ≠ '<' := by
    rintro rfl
    exact absurd inBody (by decide)
  simp [isInCommand, notBrace, notClosing, notTag]

/-- The command of a token without braces is one command. -/
theorem commandInCommand {rules : AliasRules} {aliases : List String}
    (fallback : IsName rules.fallback) (areNames : ∀ itemName ∈ aliases, IsName itemName)
    {mark : Mark} {body : List Char} (admitted : (Piece.token mark body).Admitted)
    (braceless : IsBraceless (trimmedBody body)) :
    ∀ character ∈ ((Token.ofMark mark (trimmedBody body)).command rules aliases).toList,
      isInCommand character = true := by
  have carries : CarriesOver (fun text => ∀ character ∈ text, isInCommand character = true)
      (fun text => ∀ character ∈ text, isInCommand character = true) :=
    classCarries (fun _ => fillerInCommand) (fun _ => escapeInCommand) (by decide) (by decide)
  apply carries.command fallback areNames
  rw [bodyOfMark]
  exact bracelessInCommand admitted braceless

theorem commandExposesNone {code after : List Char}
    (inCommand : ∀ character ∈ code, isInCommand character = true) :
    ¬ ExposesBracket ('\x7b' :: (code ++ ['\x7d'])) after := by
  rw [exposesCommandIff inCommand]
  rintro ⟨front, back, whole, -⟩
  exact absurd whole (by simp)

/-- Tokens without braces become commands that expose no brackets. -/
theorem unexposedOfBraceless {rules : AliasRules} (fallback : IsName rules.fallback)
    {cut : List Piece} (admitted : ∀ piece ∈ cut, piece.Admitted) {aliases : List String}
    {progress : Progress} (agrees : progress.Agrees aliases)
    (braceless : ∀ token ∈ cut.filterMap Piece.token?, IsBraceless token.body) :
    Unexposed (scriptFrom rules aliases cut) := by
  induction cut generalizing aliases progress with
  | nil => trivial
  | cons piece rest inductionHypothesis =>
      obtain ⟨isAdmitted, admittedRest⟩ := List.forall_mem_cons.1 admitted
      rw [scriptFrom]
      cases isToken : piece.token? with
      | none =>
          rw [List.filterMap_cons_none isToken] at braceless
          rw [unexposedKeep]
          exact inductionHypothesis admittedRest agrees braceless
      | some token =>
          rw [List.filterMap_cons_some isToken, List.forall_mem_cons] at braceless
          obtain ⟨bracelessFirst, bracelessRest⟩ := braceless
          obtain ⟨mark, body, rfl, -, rfl⟩ := tokenOfPiece isToken
          rw [bodyOfMark] at bracelessFirst
          have agreesThen := (rewriteTokenAgrees fallback agrees mark (trimmedBody body)).2
          constructor
          · apply commandExposesNone
            exact commandInCommand fallback agrees.areNames isAdmitted bracelessFirst
          · exact inductionHypothesis admittedRest agreesThen bracelessRest

end Letterpress.Bracket
