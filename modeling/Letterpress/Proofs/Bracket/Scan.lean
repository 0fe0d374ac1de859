import Letterpress.Proofs.Bracket.Idempotence

/-!
This file scans a content for commands and tokens from the left. A rewriting puts a command in the
place of every token with a body, and it keeps all other characters of the scan.
-/

namespace Letterpress.Bracket

/-- A mark is as long as possible if none leads the token that is longer. -/
def Mark.IsLongest (mark : Mark) (body : List Char) : Prop :=
  ∀ other : Mark, other.characters <+: mark.characters ++ body →
    other.characters.length ≤ mark.characters.length

/-- A command or a token begins a text. This is what stands after it. -/
inductive Begins : List Char → Piece → List Char → Prop
  | command {inside : List Char} (admitted : ∀ character ∈ inside, isInCommand character = true)
      (after : List Char) : Begins ('\x7b' :: (inside ++ '\x7d' :: after)) (.command inside) after
  | token {mark : Mark} {body : List Char} (admitted : ∀ character ∈ body, isInBody character = true)
      (longest : mark.IsLongest body) (after : List Char) :
      Begins ('[' :: (mark.characters ++ body ++ ']' :: after)) (.token mark body) after

/-- At each character from the left, what begins there is found, or the character is passed. The scan
goes on after what was found. -/
inductive Scans : List Char → List Piece → Prop
  | stop : Scans [] []
  | found {text after : List Char} {piece : Piece} {scan : List Piece}
      (begins : Begins text piece after) (rest : Scans after scan) : Scans text (piece :: scan)
  | pass {character : Char} {text : List Char} {scan : List Piece}
      (notFound : ∀ piece after, ¬ Begins (character :: text) piece after) (rest : Scans text scan) :
      Scans (character :: text) (.plain [character] :: scan)

/-- A token with a body is replaced by a command between braces, and anything else is kept. The command
holds no brace itself, as long as neither the body nor the fallback of the rules brings one. -/
inductive IsWritten (rules : AliasRules) : Piece → List Char → Prop
  | kept {piece : Piece} (isKept : piece.isReplaced = false) : IsWritten rules piece piece.source
  | replaced {mark : Mark} {body code : List Char}
      (isReplaced : (Piece.token mark body).isReplaced = true)
      (isOne : IsName rules.fallback → IsBraceless (trimmedBody body) →
        ∀ character ∈ code, isInCommand character = true) :
      IsWritten rules (.token mark body) ('\x7b' :: (code ++ ['\x7d']))

/-! ### What a scan finds -/

section

variable {text after inside : List Char} {piece : Piece} {mark : Mark} {body : List Char}

theorem splitMarkLongest (inside : List Char) : (splitMark inside).1.IsLongest (splitMark inside).2 := by
  intro other leads
  rw [splitMarkSource] at leads
  obtain ⟨rest, rfl⟩ := leads
  cases other with
  | value => exact Nat.zero_le _
  | opening =>
      by_cases slash : rest.head? = some '/'
      · obtain ⟨others, rfl⟩ := List.head?_eq_some_iff.1 slash
        exact Nat.le_succ 1
      · cases rest with
        | nil => exact Nat.le_refl 1
        | cons next others =>
            have notSlash : next ≠ '/' := by simpa using slash
            simp [Mark.characters, splitMark, notSlash]
  | closing => exact Nat.le_refl 1
  | both => exact Nat.le_refl 2

/-- The longest mark is the one that is split off. -/
theorem Mark.IsLongest.split (longest : mark.IsLongest body) :
    splitMark (mark.characters ++ body) = (mark, body) := by
  have source := splitMarkSource (mark.characters ++ body)
  have longestSplit := splitMarkLongest (mark.characters ++ body)
  revert source longestSplit
  generalize splitMark (mark.characters ++ body) = split
  obtain ⟨found, rest⟩ := split
  intro source longestSplit
  have sameLength : found.characters.length = mark.characters.length :=
    Nat.le_antisymm (longest found ⟨rest, source⟩)
      (longestSplit mark ⟨body, source.symm⟩)
  obtain ⟨sameMark, rfl⟩ := List.append_inj source sameLength
  have sameFound : found = mark := by
    cases found <;> cases mark <;> first | rfl | exact absurd sameMark (by simp [Mark.characters])
  rw [sameFound]

/-- What begins a text is its first piece. -/
theorem Begins.first {character : Char} (begins : Begins (character :: text) piece after) :
    firstPiece character text = (piece, after) := by
  cases begins with
  | command admitted after => exact firstCommand admitted after
  | @token mark body admitted longest after =>
      have insideAdmitted : ∀ character ∈ mark.characters ++ body, isInBody character = true :=
        Piece.Admitted.inside admitted
      rw [firstToken insideAdmitted, longest.split]

theorem Begins.source (begins : Begins text piece after) : text = piece.source ++ after := by
  cases begins <;> simp [Piece.source]

theorem Begins.notEmpty (begins : Begins text piece after) : text ≠ [] := by
  cases begins <;> exact List.cons_ne_nil _ _

/-- A token with a body of its own begins a text with a bracket, and a command with a brace. -/
theorem Begins.notPlain {character : Char} (begins : Begins (character :: text) piece after) :
    isPlain character = false := by
  cases begins <;> rfl

theorem beginsToken (admitted : ∀ character ∈ inside, isInBody character = true) (after : List Char) :
    Begins ('[' :: (inside ++ ']' :: after)) (.token (splitMark inside).1 (splitMark inside).2)
      after := by
  have begins := Begins.token (afterMarkAdmitted admitted) (splitMarkLongest inside) after
  rwa [splitMarkSource] at begins

theorem Begins.reachesBrace (begins : Begins ('\x7b' :: text) piece after) :
    ReachesClosing isInCommand '\x7d' text := by
  cases begins with
  | command admitted after => exact ⟨_, after, rfl, admitted⟩

theorem Begins.reachesBracket (begins : Begins ('[' :: text) piece after) :
    ReachesClosing isInBody ']' text := by
  cases begins with
  | token admitted _ after => exact ⟨_, after, rfl, Piece.Admitted.inside admitted⟩

end

namespace Scans

variable {text : List Char} {scan : List Piece}

/-- A scan loses no character. -/
theorem source (scans : Scans text scan) : scan.flatMap Piece.source = text := by
  induction scans with
  | stop => rfl
  | found begins _ inductionHypothesis =>
      rw [List.flatMap_cons, inductionHypothesis, begins.source]
  | pass _ _ inductionHypothesis =>
      rw [List.flatMap_cons, inductionHypothesis]
      rfl

theorem admitted (scans : Scans text scan) : ∀ piece ∈ scan, piece.Admitted := by
  induction scans with
  | stop => exact nofun
  | found begins _ inductionHypothesis =>
      refine List.forall_mem_cons.2 ⟨?_, inductionHypothesis⟩
      cases begins with
      | command admitted _ => exact admitted
      | token admitted _ _ => exact admitted
  | pass _ _ inductionHypothesis => exact List.forall_mem_cons.2 ⟨trivial, inductionHypothesis⟩

/-- The scan of a text is determined. -/
theorem unique {other : List Piece} (scans : Scans text scan) (otherScans : Scans text other) :
    other = scan := by
  induction scans generalizing other with
  | stop =>
      cases otherScans with
      | stop => rfl
      | found begins _ => exact absurd rfl begins.notEmpty
  | @found text _ _ _ begins _ inductionHypothesis =>
      cases otherScans with
      | stop => exact absurd rfl begins.notEmpty
      | found otherBegins rest =>
          obtain ⟨character, others, rfl⟩ := List.exists_cons_of_ne_nil begins.notEmpty
          obtain ⟨rfl, rfl⟩ := Prod.mk.inj (begins.first.symm.trans otherBegins.first)
          rw [inductionHypothesis rest]
      | pass notFound _ => exact absurd begins (notFound _ _)
  | pass notFound _ inductionHypothesis =>
      cases otherScans with
      | found begins _ => exact absurd begins (notFound _ _)
      | pass _ rest => rw [inductionHypothesis rest]

/-- Plain characters are passed. -/
theorem plains {front : List Char} (plain : ∀ character ∈ front, isPlain character = true)
    (scans : Scans text scan) :
    Scans (front ++ text) (front.map (fun character => .plain [character]) ++ scan) := by
  induction front with
  | nil => exact scans
  | cons character others inductionHypothesis =>
      obtain ⟨isPlainFirst, plainOthers⟩ := List.forall_mem_cons.1 plain
      refine .pass (fun piece after begins => ?_) (inductionHypothesis plainOthers)
      exact absurd isPlainFirst (by simp [begins.notPlain])

end Scans

/-! ### Pieces and scans -/

/-- A scan passes the characters of a plain piece one by one. -/
def Piece.steps : Piece → List Piece
  | plain text => text.map fun character => .plain [character]
  | piece => [piece]

/-- The scan of a content takes its pieces in turn. -/
theorem scanOfPieces (content : List Char) :
    Scans content ((pieces content).flatMap Piece.steps) := by
  induction content using pieceInduction with
  | empty => exact .stop
  | step character rest inductionHypothesis =>
      rw [piecesCons, List.flatMap_cons]
      by_cases isBrace : character = '\x7b'
      · subst isBrace
        by_cases isCommand : ReachesClosing isInCommand '\x7d' rest
        · obtain ⟨inside, after, rfl, admitted⟩ := isCommand
          rw [firstCommand admitted] at inductionHypothesis ⊢
          exact .found (.command admitted after) inductionHypothesis
        · rw [firstBrace isCommand] at inductionHypothesis ⊢
          exact .pass (fun _ _ begins => isCommand begins.reachesBrace) inductionHypothesis
      · by_cases isBracket : character = '['
        · subst isBracket
          by_cases isToken : ReachesClosing isInBody ']' rest
          · obtain ⟨inside, after, rfl, admitted⟩ := isToken
            rw [firstToken admitted] at inductionHypothesis ⊢
            exact .found (beginsToken admitted after) inductionHypothesis
          · rw [firstBracket isToken] at inductionHypothesis ⊢
            exact .pass (fun _ _ begins => isToken begins.reachesBracket) inductionHypothesis
        · have plain : isPlain character = true := by simp [isPlain, isBrace, isBracket]
          rw [firstPlain plain] at inductionHypothesis ⊢
          have plainFront : ∀ other ∈ character :: rest.takeWhile isPlain, isPlain other = true :=
            List.forall_mem_cons.2 ⟨plain, fun _ => List.mem_takeWhile_imp⟩
          have passed := inductionHypothesis.plains plainFront
          rw [List.cons_append, List.takeWhile_append_dropWhile] at passed
          exact passed

section

variable {rules : AliasRules}

theorem rewritePlains (progress : Progress) (text : List Char) (rest : List Piece) :
    (rewritePieces rules progress
        (text.map (fun character => .plain [character]) ++ rest)).flatten =
      text ++ (rewritePieces rules progress rest).flatten := by
  induction text with
  | nil => rfl
  | cons character text inductionHypothesis => exact congrArg _ inductionHypothesis

/-- It makes no difference to a rewriting how plain pieces are cut. -/
theorem rewriteSteps (progress : Progress) (cut : List Piece) :
    (rewritePieces rules progress (cut.flatMap Piece.steps)).flatten =
      (rewritePieces rules progress cut).flatten := by
  induction cut generalizing progress with
  | nil => rfl
  | cons piece rest inductionHypothesis =>
      rw [List.flatMap_cons]
      cases piece with
      | plain text => exact (rewritePlains progress text _).trans (congrArg _ (inductionHypothesis _))
      | command inside => exact congrArg (List.append _) (inductionHypothesis _)
      | token mark body => exact congrArg (List.append _) (inductionHypothesis _)

theorem replacedSteps (cut : List Piece) :
    (cut.flatMap Piece.steps).any Piece.isReplaced = cut.any Piece.isReplaced := by
  induction cut with
  | nil => rfl
  | cons piece rest inductionHypothesis =>
      rw [List.flatMap_cons, List.any_append, inductionHypothesis, List.any_cons]
      cases piece <;> simp [Piece.steps, Piece.isReplaced, Function.comp_def]

/-- A rewriting takes the pieces of the scan in turn. -/
theorem Scans.rewrites {content : String} {scan : List Piece} (scans : Scans content.toList scan) :
    rewrite rules content =
      ⟨String.ofList (rewritePieces rules .start scan).flatten, scan.any Piece.isReplaced⟩ := by
  obtain rfl := (scanOfPieces content.toList).unique scans
  rw [rewriteSteps, replacedSteps]
  rfl

/-! ### What is written -/

theorem tokenIsBraced (progress : Progress) (mark : Mark) (body : String) :
    ∃ code, (rewriteToken rules progress mark body).1 = braced code := by
  have ofValue : ∃ code, valueCommand progress body = braced code := by
    unfold valueCommand
    split
    · split <;> exact ⟨_, rfl⟩
    · exact ⟨_, rfl⟩
  cases mark with
  | opening => exact ⟨_, rfl⟩
  | closing =>
      simp only [rewriteToken, closeLoop]
      split <;> exact ⟨_, rfl⟩
  | value => exact ofValue
  | both => exact ofValue

/-- The names of the open loops are names if the fallback is one. -/
def Progress.IsNamed (rules : AliasRules) (progress : Progress) : Prop :=
  IsName rules.fallback → ∃ aliases, progress.Agrees aliases

variable {progress : Progress}

theorem Progress.IsNamed.piece (named : progress.IsNamed rules) (piece : Piece) :
    (rewritePiece rules progress piece).2.IsNamed rules := by
  unfold rewritePiece
  split
  · split
    · intro fallback
      obtain ⟨aliases, agrees⟩ := named fallback
      exact ⟨_, (rewriteTokenAgrees fallback agrees _ _).2⟩
    · exact named
  · exact named

theorem pieceIsWritten (named : progress.IsNamed rules) {piece : Piece} (admitted : piece.Admitted) :
    IsWritten rules piece (rewritePiece rules progress piece).1 := by
  cases piece with
  | plain text => exact .kept rfl
  | command inside => exact .kept rfl
  | token mark body =>
      rw [rewritePiece]
      split
      case isTrue isReplaced =>
        obtain ⟨code, written⟩ : ∃ code, (rewriteToken rules progress mark (trimmedBody body)).1 =
            braced code := tokenIsBraced progress mark (trimmedBody body)
        rw [written]
        refine .replaced isReplaced fun fallback braceless => ?_
        obtain ⟨aliases, agrees⟩ := named fallback
        have isCommand := (rewriteTokenAgrees fallback agrees mark (trimmedBody body)).1
        have sameCode := List.append_cancel_right (List.cons.inj (written.symm.trans isCommand)).2
        rw [sameCode]
        exact commandInCommand fallback agrees.areNames admitted braceless
      case isFalse isKept => exact .kept (Bool.not_eq_true _ ▸ isKept)

theorem piecesAreWritten (named : progress.IsNamed rules) {cut : List Piece}
    (admitted : ∀ piece ∈ cut, piece.Admitted) :
    List.Forall₂ (IsWritten rules) cut (rewritePieces rules progress cut) := by
  induction cut generalizing progress with
  | nil => exact .nil
  | cons piece rest inductionHypothesis =>
      obtain ⟨isAdmitted, admittedRest⟩ := List.forall_mem_cons.1 admitted
      exact .cons (pieceIsWritten named isAdmitted) (inductionHypothesis (named.piece piece) admittedRest)

/-- The first piece that is replaced makes a difference: its bracket becomes a brace. -/
theorem writtenSameIff {scan : List Piece} {texts : List (List Char)}
    (written : List.Forall₂ (IsWritten rules) scan texts) :
    texts.flatten = scan.flatMap Piece.source ↔ scan.any Piece.isReplaced = false := by
  induction written with
  | nil => simp
  | @cons piece text rest others isWritten _ inductionHypothesis =>
      rw [List.flatten_cons, List.flatMap_cons, List.any_cons]
      cases isWritten with
      | kept isKept => rw [List.append_cancel_left_eq, inductionHypothesis, isKept, Bool.false_or]
      | replaced isReplaced isOne =>
          simp [isReplaced, Piece.source]

end

/-- A content is scanned in one way only. A rewriting writes one command for each token with a body and
keeps everything else in place. It tells whether there is such a token, which is to say whether the
content has changed. -/
theorem rewritingReplacesTokensOnly (rules : AliasRules) (content : String) :
    ∃ scan texts, Scans content.toList scan ∧ (∀ other, Scans content.toList other → other = scan) ∧
      scan.flatMap Piece.source = content.toList ∧ List.Forall₂ (IsWritten rules) scan texts ∧
      (rewrite rules content).content = String.ofList texts.flatten ∧
      ((rewrite rules content).mutated = true ↔ ∃ piece ∈ scan, piece.isReplaced = true) ∧
      ((rewrite rules content).mutated = true ↔ (rewrite rules content).content ≠ content) := by
  have scans := scanOfPieces content.toList
  have named : Progress.start.IsNamed rules := fun _ => ⟨[], startAgrees⟩
  have written := piecesAreWritten named scans.admitted
  refine ⟨_, _, scans, fun _ => scans.unique, scans.source, written, ?_, ?_, ?_⟩
  · rw [scans.rewrites]
  · rw [scans.rewrites, List.any_eq_true]
  · have sameIff := writtenSameIff written
    rw [scans.source] at sameIff
    rw [scans.rewrites, ne_eq, ← String.toList_inj, String.toList_ofList, sameIff, Bool.not_eq_false]

end Letterpress.Bracket
