import Letterpress.Proofs.Text.Search
import Letterpress.Report.Chunk

/-!
This file fixes which parts of written markup are kept and which are taken out as commands. The
lexemes of a report are cut accordingly, and no character is lost.
-/

namespace Letterpress.Report

open Text (Delimited Part Searches)

def tagPattern : Delimited := ⟨'<', '>', (· ≠ '>'), rfl⟩

def commandPattern : Delimited :=
  ⟨'\x7b', '\x7d', fun character => character ≠ '\x7b' && character ≠ '\x7d', rfl⟩

/-- A cut of written markup is kept, or it is a command with its braces. -/
inductive Cut
  | kept (content : List Char)
  | command (inside : List Char) (isInRun : Bool)

/-- A symbol is a character that is kept, or a command whose references have been replaced. -/
inductive Symbol
  | kept (character : Char)
  | command (raw : Except Fault String) (isInRun : Bool)

def Symbol.command? : Symbol → Option (Except Fault String)
  | kept _ => none
  | command raw _ => some raw

def Symbol.kept? : Symbol → Option Char
  | kept character => some character
  | command _ _ => none

namespace Cut

def source : Cut → List Char
  | kept content => content
  | command inside _ => commandPattern.wrap inside

def symbols : Cut → List Symbol
  | kept content => content.map .kept
  | command inside isInRun => [.command (Fragment.decode inside) isInRun]

/-- A blank command is kept. -/
def ofInside (isInRun : Bool) (inside : List Char) : Cut :=
  if (Fragment.decode inside).toOption = some "" then .kept (commandPattern.wrap inside)
  else .command inside isInRun

def ofPart (isInRun : Bool) : Part → Cut
  | .gap content => .kept content
  | .found inside => ofInside isInRun inside

@[simp] theorem sourceOfPart (isInRun : Bool) (part : Part) :
    (ofPart isInRun part).source = part.source commandPattern := by
  cases part with
  | gap content => rfl
  | found inside =>
      simp only [ofPart, ofInside]
      split <;> rfl

end Cut

/-- These are the chunks of a text that was searched for tags. -/
def chunksOf (parts : List Part) : List (List Char) :=
  (parts.map (Part.source tagPattern)).filter (! ·.isEmpty)

theorem chunksOfCons (part : Part) (parts : List Part) :
    chunksOf (part :: parts) = chunksOf [part] ++ chunksOf parts := by
  unfold chunksOf
  rw [List.map_cons, ← List.singleton_append, List.filter_append]
  rfl

/-- A chunk that begins like a tag is kept as a whole. It tells whether the chunks after it stand
in a text run. Any other chunk is searched for commands. -/
inductive ChunkCuts : Bool → List (List Char) → List Cut → Prop
  | none {isInRun : Bool} : ChunkCuts isInRun [] []
  | markup {isInRun : Bool} {chunk : List Char} {chunks : List (List Char)} {cuts : List Cut}
      (isMarkup : chunk.head? = some '<')
      (rest : ChunkCuts (Chunk.opensRun chunk) chunks cuts) :
      ChunkCuts isInRun (chunk :: chunks) (.kept chunk :: cuts)
  | text {isInRun : Bool} {chunk : List Char} {parts : List Part} {chunks : List (List Char)}
      {cuts : List Cut} (isText : chunk.head? ≠ some '<')
      (searches : Searches commandPattern chunk parts) (rest : ChunkCuts isInRun chunks cuts) :
      ChunkCuts isInRun (chunk :: chunks) (parts.map (Cut.ofPart isInRun) ++ cuts)

/-- Written markup is searched for tags first. -/
def IsCutInto (markup : List Char) (cuts : List Cut) : Prop :=
  ∃ parts, Searches tagPattern markup parts ∧ ChunkCuts false (chunksOf parts) cuts

theorem ChunkCuts.source {isInRun : Bool} {chunks : List (List Char)} {cuts : List Cut}
    (chunkCuts : ChunkCuts isInRun chunks cuts) : cuts.flatMap Cut.source = chunks.flatten := by
  induction chunkCuts with
  | none => rfl
  | markup _ _ inductionHypothesis => simp [Cut.source, inductionHypothesis]
  | text _ searches _ inductionHypothesis =>
      simp [List.flatMap_map, inductionHypothesis, searches.source]

theorem ChunkCuts.unique {isInRun : Bool} {chunks : List (List Char)} {cuts otherCuts : List Cut}
    (chunkCuts : ChunkCuts isInRun chunks cuts)
    (otherChunkCuts : ChunkCuts isInRun chunks otherCuts) : cuts = otherCuts := by
  induction chunkCuts generalizing otherCuts with
  | none => cases otherChunkCuts; rfl
  | markup isMarkup _ inductionHypothesis =>
      cases otherChunkCuts with
      | markup _ rest => rw [inductionHypothesis rest]
      | text isText _ _ => exact absurd isMarkup isText
  | text isText searches _ inductionHypothesis =>
      cases otherChunkCuts with
      | markup isMarkup _ => exact absurd isMarkup isText
      | text _ otherSearches rest => rw [searches.unique otherSearches, inductionHypothesis rest]

theorem flattenChunks (parts : List Part) :
    (chunksOf parts).flatten = parts.flatMap (Part.source tagPattern) := by
  rw [chunksOf, List.flatMap_def]
  generalize parts.map (Part.source tagPattern) = chunks
  induction chunks with
  | nil => rfl
  | cons chunk rest inductionHypothesis => cases chunk <;> simp [inductionHypothesis]

namespace IsCutInto

variable {markup : List Char} {cuts : List Cut}

/-- The cuts hold all characters of the markup. -/
theorem source (isCut : IsCutInto markup cuts) : cuts.flatMap Cut.source = markup := by
  obtain ⟨parts, searches, chunkCuts⟩ := isCut
  rw [chunkCuts.source, flattenChunks, searches.source]

theorem unique {otherCuts : List Cut} (isCut : IsCutInto markup cuts)
    (otherIsCut : IsCutInto markup otherCuts) : cuts = otherCuts := by
  obtain ⟨parts, searches, chunkCuts⟩ := isCut
  obtain ⟨otherParts, otherSearches, otherChunkCuts⟩ := otherIsCut
  obtain rfl := searches.unique otherSearches
  exact chunkCuts.unique otherChunkCuts

end IsCutInto

/-! ### The lexemes -/

/-- A lexeme may hold several characters. -/
def Lexeme.symbols : Lexeme → List Symbol
  | markup content => content.map .kept
  | command raw isInRun => [.command raw isInRun]

namespace Fragment

def symbols (isInRun : Bool) : Fragment → List Symbol
  | plain content => content.map .kept
  | command raw => [.command raw isInRun]

variable (isInRun : Bool)

theorem symbolsAddPlain (content : List Char) (fragments : List Fragment) :
    (addPlain content fragments).flatMap (symbols isInRun) =
      content.map .kept ++ fragments.flatMap (symbols isInRun) := by
  unfold addPlain
  split
  · simp [symbols]
  · split <;> simp_all [symbols]

theorem symbolsAdd (inside : List Char) (fragments : List Fragment) :
    (add inside fragments).flatMap (symbols isInRun) =
      (Cut.ofInside isInRun inside).symbols ++ fragments.flatMap (symbols isInRun) := by
  unfold add Cut.ofInside
  split
  case h_1 blank =>
    have empty : (decode inside).toOption = some "" := by rw [blank]; rfl
    rw [if_pos empty]
    exact symbolsAddPlain isInRun _ fragments
  case h_2 notBlank =>
    have notEmpty : ¬(decode inside).toOption = some "" := by
      cases decoded : decode inside with
      | ok raw => exact fun empty => notBlank (by rw [decoded, Option.some.inj empty])
      | error fault => exact nofun
    rw [if_neg notEmpty]
    rfl

/-- A text is cut at its commands. -/
theorem searchesFromCharacters (fuel : Nat) (characters : List Char)
    (enough : characters.length < fuel) :
    ∃ parts, Searches commandPattern characters parts ∧
      (fromCharacters fuel characters).flatMap (symbols isInRun) =
        (parts.map (Cut.ofPart isInRun)).flatMap Cut.symbols := by
  induction fuel generalizing characters with
  | zero => omega
  | succ fuel inductionHypothesis =>
      obtain ⟨before, atOpening, rfl, taken, dropped, plain, opens⟩ :=
        Text.spanAdmitted (· ≠ '\x7b') characters
      have noOpening : ∀ character ∈ before, character ≠ commandPattern.opening :=
        fun character inBefore => of_decide_eq_true (plain character inBefore)
      simp only [fromCharacters, taken, dropped]
      cases atOpening with
      | nil =>
          have searches := Searches.skipFront noOpening .stop
          exact ⟨_, searches, by simp [symbolsAddPlain, Cut.ofPart, Cut.symbols]⟩
      | cons opening afterOpening =>
          obtain rfl : opening = '\x7b' := by simpa using opens opening rfl
          obtain ⟨inside, atClosing, rfl, takenInside, droppedInside, admitted, -⟩ :=
            Text.spanAdmitted isInside afterOpening
          simp only [List.length_append, List.length_cons] at enough
          simp only [takenInside, droppedInside]
          split
          case h_1 rest =>
            obtain ⟨parts, searches, sameSymbols⟩ :=
              inductionHypothesis rest (by simp at enough; omega)
            have begins : commandPattern.Begins ('\x7b' :: (inside ++ '\x7d' :: rest)) inside rest :=
              ⟨admitted, by simp [Delimited.wrap, commandPattern]⟩
            refine ⟨_, Searches.foundAfter noOpening begins searches, ?_⟩
            simp [symbolsAddPlain, symbolsAdd, sameSymbols, Cut.ofPart, Cut.symbols]
          case h_2 notClosed =>
            -- The brace opens no command, so the search goes on right after it.
            obtain ⟨parts, searches, sameSymbols⟩ :=
              inductionHypothesis (inside ++ atClosing) (by simp; omega)
            obtain ⟨content, rest, rfl⟩ := searches.beginsWithGap
            have notFound (otherInside after : List Char) :
                ¬commandPattern.Begins ('\x7b' :: (inside ++ atClosing)) otherInside after :=
              fun begins => notClosed after (begins.closingAfterAdmitted takenInside)
            refine ⟨_, Searches.skipFront noOpening (.skip notFound searches), ?_⟩
            simp [symbolsAddPlain, sameSymbols, Cut.ofPart, Cut.symbols]

end Fragment

namespace Chunk

/-- A chunk is a tag if it begins like one. -/
def ofSource (content : List Char) : Chunk :=
  if content.head? = some '<' then .tag content else .text content

theorem textUnlessEmptyOf {content : List Char} (noOpening : ∀ character ∈ content, character ≠ '<') :
    textUnlessEmpty content = (chunksOf [.gap content]).map ofSource := by
  cases content with
  | nil => rfl
  | cons character rest =>
      simp [textUnlessEmpty, chunksOf, Part.source, ofSource, noOpening character]

theorem unclosedOf {before : List Char} (noOpening : ∀ character ∈ before, character ≠ '<')
    (after : List Char) :
    [unclosed before ('<' :: after)] = (chunksOf [.gap (before ++ '<' :: after)]).map ofSource := by
  cases before with
  | nil => rfl
  | cons character rest =>
      simp [unclosed, chunksOf, Part.source, ofSource, noOpening character]

/-- Written markup is cut at its tags. -/
theorem searchesFromCharacters (fuel : Nat) (characters : List Char)
    (enough : characters.length < fuel) :
    ∃ parts, Searches tagPattern characters parts ∧
      fromCharacters fuel characters = (chunksOf parts).map ofSource := by
  induction fuel generalizing characters with
  | zero => omega
  | succ fuel inductionHypothesis =>
      obtain ⟨before, atOpening, rfl, taken, dropped, plain, opens⟩ :=
        Text.spanAdmitted (· ≠ '<') characters
      have noOpening : ∀ character ∈ before, character ≠ '<' :=
        fun character inBefore => of_decide_eq_true (plain character inBefore)
      simp only [fromCharacters, taken, dropped]
      cases atOpening with
      | nil =>
          have searches : Searches tagPattern (before ++ []) [.gap (before ++ [])] :=
            .skipFront noOpening .stop
          exact ⟨_, searches, by simpa using textUnlessEmptyOf noOpening⟩
      | cons opening afterOpening =>
          obtain rfl : opening = '<' := by simpa using opens opening rfl
          obtain ⟨inside, atClosing, rfl, takenInside, droppedInside, admitted, closes⟩ :=
            Text.spanAdmitted (· ≠ '>') afterOpening
          simp only [List.length_append, List.length_cons] at enough
          simp only [takenInside, droppedInside]
          cases atClosing with
          | nil =>
              have noClosing : '>' ∉ '<' :: (inside ++ []) := by
                simpa using fun inInside => of_decide_eq_true (admitted '>' inInside) rfl
              have searches : Searches tagPattern (before ++ '<' :: (inside ++ []))
                  [.gap (before ++ '<' :: (inside ++ []))] :=
                .skipFront noOpening (.ofNoClosing noClosing)
              exact ⟨_, searches, unclosedOf noOpening (inside ++ [])⟩
          | cons closing rest =>
              obtain rfl : closing = '>' := by simpa using closes closing rfl
              obtain ⟨parts, searches, sameChunks⟩ :=
                inductionHypothesis rest (by simp at enough; omega)
              have begins : tagPattern.Begins ('<' :: (inside ++ '>' :: rest)) inside rest :=
                ⟨admitted, by simp [Delimited.wrap, tagPattern]⟩
              refine ⟨_, Searches.foundAfter noOpening begins searches, ?_⟩
              rw [chunksOfCons, List.map_append, ← textUnlessEmptyOf noOpening]
              simp [chunksOf, Part.source, Delimited.wrap, tagPattern, ofSource, sameChunks]

end Chunk

theorem Lexeme.symbolsOfFragment (isInRun : Bool) (fragment : Fragment) :
    (ofFragment isInRun fragment).symbols = fragment.symbols isInRun := by
  cases fragment <;> rfl

/-- The lexemes of chunks hold the symbols of their cuts. -/
theorem cutsOfChunks (isInRun : Bool) (chunks : List (List Char)) :
    ∃ cuts, ChunkCuts isInRun chunks cuts ∧
      (Lexeme.ofChunks isInRun (chunks.map Chunk.ofSource)).flatMap Lexeme.symbols =
        cuts.flatMap Cut.symbols := by
  induction chunks generalizing isInRun with
  | nil => exact ⟨[], .none, rfl⟩
  | cons chunk rest inductionHypothesis =>
      by_cases isMarkup : chunk.head? = some '<'
      · obtain ⟨cuts, chunkCuts, sameSymbols⟩ := inductionHypothesis (Chunk.opensRun chunk)
        refine ⟨_, .markup isMarkup chunkCuts, ?_⟩
        simp [Chunk.ofSource, isMarkup, Lexeme.ofChunks, Lexeme.symbols, Cut.symbols, sameSymbols]
      · obtain ⟨cuts, chunkCuts, sameSymbols⟩ := inductionHypothesis isInRun
        obtain ⟨parts, searches, sameText⟩ :=
          Fragment.searchesFromCharacters isInRun _ chunk (Nat.lt_succ_self _)
        refine ⟨_, .text isMarkup searches chunkCuts, ?_⟩
        simp only [List.map_cons, Chunk.ofSource, isMarkup, if_false, Lexeme.ofChunks,
          List.flatMap_append, List.flatMap_map, Lexeme.symbolsOfFragment, sameSymbols]
        exact congrArg (· ++ _) (by rw [Fragment.ofText, sameText, List.flatMap_map])

/-- The lexemes of written markup hold the symbols of its only cuts. -/
theorem cutsOfMarkup (markup : List Char) :
    ∃ cuts, IsCutInto markup cuts ∧
      (Lexeme.ofMarkup markup).flatMap Lexeme.symbols = cuts.flatMap Cut.symbols := by
  obtain ⟨parts, searches, sameChunks⟩ :=
    Chunk.searchesFromCharacters _ markup (Nat.lt_succ_self _)
  obtain ⟨cuts, chunkCuts, sameSymbols⟩ := cutsOfChunks false (chunksOf parts)
  refine ⟨cuts, ⟨parts, searches, chunkCuts⟩, ?_⟩
  rw [Lexeme.ofMarkup, Chunk.ofMarkup, sameChunks, sameSymbols]

end Letterpress.Report
