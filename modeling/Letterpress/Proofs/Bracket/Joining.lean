import Letterpress.Proofs.Bracket.Scan

/-!
This file joins contents. No command and no token goes on into a tag, so that a tag and what follows it
are rewritten as if they stood alone, unless a loop is open before them.
-/

namespace Letterpress.Bracket

/-- A text begins with a tag, or it is empty. -/
def BeginsTag (text : List Char) : Prop := text = [] ∨ text.head? = some '<'

section

variable {front later after : List Char} {piece : Piece} {scan scanLater : List Piece}

/-- What ends with a closing character after some that are admitted ends before the tag. -/
theorem closedBeforeTag {admits : Char → Bool} {closing : Char} {inside : List Char}
    (refuses : admits '<' = false) (notTag : closing ≠ '<') (beginsTag : BeginsTag later)
    (admitted : ∀ character ∈ inside, admits character = true)
    (whole : front ++ later = inside ++ closing :: after) :
    ∃ rest, front = inside ++ closing :: rest := by
  rcases Text.inBeginningOrAfter whole with ⟨remaining, rfl, atTag⟩ | closed
  · rcases beginsTag with rfl | isTag
    · exact absurd atTag (by simp)
    · rw [atTag] at isTag
      cases remaining with
      | nil => exact absurd (Option.some.inj isTag) notTag
      | cons first others =>
          obtain rfl := Option.some.inj isTag
          exact absurd (admitted '<' (by simp)) (by simp [refuses])
  · exact closed

/-- What begins a text begins it also when a tag follows. -/
theorem Begins.beforeTag {character : Char} (begins : Begins (character :: (front ++ later)) piece after)
    (beginsTag : BeginsTag later) : ∃ rest, Begins (character :: front) piece rest := by
  generalize whole : character :: (front ++ later) = text at begins
  cases begins with
  | command admitted after =>
      obtain ⟨rfl, wholeRest⟩ := List.cons.inj whole
      obtain ⟨rest, rfl⟩ := closedBeforeTag (by decide) (by decide) beginsTag admitted wholeRest
      exact ⟨rest, .command admitted rest⟩
  | @token mark body admitted longest after =>
      obtain ⟨rfl, wholeRest⟩ := List.cons.inj whole
      have insideAdmitted : ∀ character ∈ mark.characters ++ body, isInBody character = true :=
        Piece.Admitted.inside admitted
      obtain ⟨rest, rfl⟩ := closedBeforeTag (by decide) (by decide) beginsTag insideAdmitted wholeRest
      exact ⟨rest, .token admitted longest rest⟩

theorem Begins.append {text : List Char} (begins : Begins text piece after) (later : List Char) :
    Begins (text ++ later) piece (after ++ later) := by
  cases begins with
  | @command inside admitted after => simpa using Begins.command admitted (after ++ later)
  | @token mark body admitted longest after =>
      simpa using Begins.token admitted longest (after ++ later)

/-- Two contents are scanned one after the other if the second one begins with a tag. -/
theorem Scans.append (scans : Scans front scan) (scansLater : Scans later scanLater)
    (beginsTag : BeginsTag later) : Scans (front ++ later) (scan ++ scanLater) := by
  induction scans with
  | stop => exact scansLater
  | found begins _ inductionHypothesis => exact .found (begins.append later) inductionHypothesis
  | pass notFound _ inductionHypothesis =>
      refine .pass (fun piece after begins => ?_) inductionHypothesis
      obtain ⟨rest, beginsFront⟩ := begins.beforeTag beginsTag
      exact notFound piece rest beginsFront

end

/-! ### Closed loops -/

section

variable {rules : AliasRules}

/-- Plain pieces open and close no loop, however they are cut. -/
theorem progressAfterSteps (cut : List Piece) :
    progressAfter rules (cut.flatMap Piece.steps) = progressAfter rules cut := by
  have passed (progress : Progress) (text : List Char) :
      (text.map fun character => Piece.plain [character]).foldl
        (fun progress piece => (rewritePiece rules progress piece).2) progress = progress := by
    induction text with
    | nil => rfl
    | cons character text inductionHypothesis => exact inductionHypothesis
  unfold progressAfter
  generalize Progress.start = progress
  induction cut generalizing progress with
  | nil => rfl
  | cons piece rest inductionHypothesis =>
      rw [List.flatMap_cons, List.foldl_append, List.foldl_cons, ← inductionHypothesis]
      cases piece with
      | plain text => rw [Piece.steps, passed]; rfl
      | command inside => rfl
      | token mark body => rfl

/-- Where no loop is open, a rewriting goes on as it began. -/
theorem Progress.IsHygienic.startAgain {progress : Progress} (hygienic : progress.IsHygienic)
    (noneOpen : progress.loops = []) : progress = .start := by
  obtain ⟨loops, active⟩ := progress
  obtain rfl : loops = [] := noneOpen
  obtain rfl : active = [] := hygienic.active
  rfl

/-- A content that closes its loops and a content after it that begins with a tag are rewritten
independently of each other. -/
theorem closedContentsRewrittenApart (rules : AliasRules) (content later : String)
    (beginsTag : later = "" ∨ later.toList.head? = some '<')
    (noneOpen : (progressAfter rules (pieces content.toList)).loops = []) :
    rewrite rules (content ++ later) =
      ⟨(rewrite rules content).content ++ (rewrite rules later).content,
        (rewrite rules content).mutated || (rewrite rules later).mutated⟩ := by
  have scans := scanOfPieces content.toList
  have scansLater := scanOfPieces later.toList
  have begins : BeginsTag later.toList := beginsTag.imp_left String.toList_eq_nil_iff.2
  have joined : Scans (content ++ later).toList _ :=
    String.toList_append ▸ scans.append scansLater begins
  have again := (progressAfterIsHygienic rules _).startAgain noneOpen
  rw [← progressAfterSteps, progressAfter] at again
  rw [joined.rewrites, scans.rewrites, scansLater.rewrites, rewritePiecesAppend, again,
    List.flatten_append, List.any_append, String.ofList_append]

/-- The alias of a closed loop is used again after the next tag. -/
theorem sameAliasAfterTag :
    (progressAfter .standard (pieces "<w:t>[#items][name][/items]".toList)).loops = [] ∧
      rewrite .standard ("<w:t>[#items][name][/items]" ++ "</w:t><w:t>[#items][/items]</w:t>") =
        ⟨"<w:t>\x7bFOR item IN items\x7d\x7b$item.name\x7d\x7bEND-FOR item\x7d" ++
          "</w:t><w:t>\x7bFOR item IN items\x7d\x7bEND-FOR item\x7d</w:t>", true⟩ := by
  have noneOpen : (progressAfter .standard (pieces "<w:t>[#items][name][/items]".toList)).loops = [] := by
    decide +kernel
  have first : rewrite .standard "<w:t>[#items][name][/items]" =
      ⟨"<w:t>\x7bFOR item IN items\x7d\x7b$item.name\x7d\x7bEND-FOR item\x7d", true⟩ := by
    decide +kernel
  have second : rewrite .standard "</w:t><w:t>[#items][/items]</w:t>" =
      ⟨"</w:t><w:t>\x7bFOR item IN items\x7d\x7bEND-FOR item\x7d</w:t>", true⟩ := by
    decide +kernel
  refine ⟨noneOpen, ?_⟩
  rw [closedContentsRewrittenApart .standard _ _ (.inr (by decide)) noneOpen, first, second]
  rfl

end

end Letterpress.Bracket
