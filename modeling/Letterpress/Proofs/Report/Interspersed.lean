import Letterpress.Proofs.Report.Parsing
import Letterpress.Proofs.Text.Letter

/-!
This file reads the commands off texts that they are interspersed in. Between the commands and the
tags of such a text no brace opens.
-/

namespace Letterpress.Report

open Text (Part Searches)

/-- A harmless character takes no part in tags, commands or references. -/
def isHarmless (character : Char) : Bool :=
  character ≠ '<' && character ≠ '\x7b' && character ≠ '\x7d' && character ≠ '&'

theorem harmlessIff {character : Char} :
    isHarmless character = true ↔
      character ≠ '<' ∧ character ≠ '\x7b' ∧ character ≠ '\x7d' ∧ character ≠ '&' := by
  simp [isHarmless, and_assoc]

/-- An embeddable command stands between braces as it is. -/
structure Embeddable (raw : String) : Prop where
  notEmpty : raw ≠ ""
  first : ∀ character, raw.toList.head? = some character → Text.isBlank character = false
  last : ∀ character, raw.toList.getLast? = some character → Text.isBlank character = false
  harmless : ∀ character ∈ raw.toList, isHarmless character = true

theorem decodeWithoutReference {characters : List Char} (noReference : '&' ∉ characters) :
    Text.CharacterReference.decode characters = .ok characters := by
  unfold Text.CharacterReference.decode
  induction characters with
  | nil => rfl
  | cons character rest inductionHypothesis =>
      have notReference : character ≠ '&' := fun same => noReference (same ▸ List.mem_cons_self ..)
      rw [Text.CharacterReference.decodeFrom, if_neg notReference,
        inductionHypothesis (fun isInside => noReference (List.mem_cons_of_mem _ isInside))]
      rfl

theorem Embeddable.decode {raw : String} (embeddable : Embeddable raw) :
    Fragment.decode raw.toList = .ok raw := by
  have noReference : '&' ∉ raw.toList := fun isInside =>
    (harmlessIff.1 (embeddable.harmless _ isInside)).2.2.2 rfl
  rw [Fragment.decode, decodeWithoutReference noReference]
  change Except.ok (String.ofList (Text.stripList raw.toList)) = _
  rw [Text.stripListOfEnds embeddable.first embeddable.last, String.ofList_toList]

/-- A text outside or inside of a tag is interspersed with commands. -/
inductive Interspersed : Bool → List Char → List String → Prop
  | done : Interspersed false [] []
  | opening {rest : List Char} {commands : List String}
      (inTag : Interspersed true rest commands) : Interspersed false ('<' :: rest) commands
  | inside {character : Char} {rest : List Char} {commands : List String}
      (notClosing : character ≠ '>') (inTag : Interspersed true rest commands) :
      Interspersed true (character :: rest) commands
  | closing {rest : List Char} {commands : List String}
      (afterTag : Interspersed false rest commands) : Interspersed true ('>' :: rest) commands
  | plain {character : Char} {rest : List Char} {commands : List String} (noTag : character ≠ '<')
      (noBrace : character ≠ '\x7b') (after : Interspersed false rest commands) :
      Interspersed false (character :: rest) commands
  | command {rest : List Char} {raw : String} {commands : List String}
      (embeddable : Embeddable raw) (after : Interspersed false rest commands) :
      Interspersed false (commandPattern.wrap raw.toList ++ rest) (raw :: commands)

/-- These are the commands of cuts. -/
def commandsIn (cuts : List Cut) : List (Except Fault String) :=
  (cuts.flatMap Cut.symbols).filterMap Symbol.command?

theorem commandsInCons (cut : Cut) (cuts : List Cut) :
    commandsIn (cut :: cuts) = cut.symbols.filterMap Symbol.command? ++ commandsIn cuts := by
  simp [commandsIn]

theorem commandsInAppend (cuts more : List Cut) :
    commandsIn (cuts ++ more) = commandsIn cuts ++ commandsIn more := by
  simp [commandsIn]

theorem commandsInKept (content : List Char) (cuts : List Cut) :
    commandsIn (.kept content :: cuts) = commandsIn cuts := by
  simp [commandsIn, Cut.symbols, Symbol.command?, List.filterMap_map, Function.comp_def]

/-- A command that is not blank is taken out. -/
theorem decodedCut {inside : List Char} {raw : String} (decodes : Fragment.decode inside = .ok raw)
    (notEmpty : raw ≠ "") (isInRun : Bool) :
    Cut.ofInside isInRun inside = .command inside isInRun := by
  have notBlank : ¬(Fragment.decode inside).toOption = some "" := by
    rw [decodes]
    exact fun same => notEmpty (Option.some.inj same)
  rw [Cut.ofInside, if_neg notBlank]

/-- A text begins outside of a tag with a gap that is searched for commands. -/
def CutsOutside (text : List Char) (commands : List String) : Prop :=
  ∃ content parts, Searches tagPattern text (.gap content :: parts) ∧ '<' ∉ content ∧
    ∃ textParts, Searches commandPattern content textParts ∧
      ∀ isInRun, ∃ cuts, ChunkCuts isInRun (chunksOf parts) cuts ∧
        commandsIn (textParts.map (Cut.ofPart isInRun)) ++ commandsIn cuts = commands.map .ok

/-- A text inside of a tag goes on outside of it. -/
def CutsWithin : Bool → List Char → List String → Prop
  | false, text, commands => CutsOutside text commands
  | true, text, commands =>
      ∃ inside rest, text = inside ++ '>' :: rest ∧ (∀ character ∈ inside, character ≠ '>') ∧
        CutsOutside rest commands

namespace CutsOutside

variable {text rest : List Char} {commands : List String}

theorem empty : CutsOutside [] [] :=
  ⟨[], [], .stop, List.not_mem_nil, [.gap []], .stop, fun _ => ⟨[], .none, rfl⟩⟩

theorem plain {character : Char} (noTag : character ≠ '<') (noBrace : character ≠ '\x7b')
    (cuts : CutsOutside rest commands) : CutsOutside (character :: rest) commands := by
  obtain ⟨content, parts, searches, noTags, textParts, textSearches, sameCommands⟩ := cuts
  obtain ⟨gap, others, rfl⟩ := textSearches.beginsWithGap
  refine ⟨character :: content, parts, .skip (fun _ _ begins => noTag begins.headOpening) searches,
    List.not_mem_cons_of_ne_of_not_mem (Ne.symm noTag) noTags, .gap (character :: gap) :: others,
    .skip (fun _ _ begins => noBrace begins.headOpening) textSearches, ?_⟩
  simpa only [List.map_cons, Cut.ofPart, commandsInKept] using sameCommands

/-- A command is taken out that is decoded, with no delimiter of commands or tags in it. -/
theorem decoded {inside : List Char} {raw : String}
    (admitted : ∀ character ∈ inside, character ≠ '<' ∧ character ≠ '\x7b' ∧ character ≠ '\x7d')
    (decodes : Fragment.decode inside = .ok raw) (notEmpty : raw ≠ "")
    (cuts : CutsOutside rest commands) :
    CutsOutside (commandPattern.wrap inside ++ rest) (raw :: commands) := by
  obtain ⟨content, parts, searches, noTags, textParts, textSearches, sameCommands⟩ := cuts
  have noTagInCommand : '<' ∉ commandPattern.wrap inside := by
    have noTag : '<' ∉ inside := fun isInside => (admitted _ isInside).1 rfl
    simpa [Text.Delimited.wrap, commandPattern] using noTag
  have admits (character : Char) (isInside : character ∈ inside) :
      commandPattern.admits character = true := by
    obtain ⟨-, notOpening, notClosing⟩ := admitted character isInside
    simp [commandPattern, notOpening, notClosing]
  refine ⟨commandPattern.wrap inside ++ content, parts, ?_, ?_,
    .gap [] :: .found inside :: textParts, .found ⟨admits, rfl⟩ textSearches, ?_⟩
  · refine searches.skipFront fun character isInside same => noTagInCommand ?_
    exact (show character = '<' from same) ▸ isInside
  · simp [noTagInCommand, noTags]
  · intro isInRun
    obtain ⟨cuts, chunkCuts, sameCommands⟩ := sameCommands isInRun
    refine ⟨cuts, chunkCuts, ?_⟩
    rw [List.map_cons, List.map_cons, Cut.ofPart, commandsInKept, Cut.ofPart,
      decodedCut decodes notEmpty, commandsInCons, List.append_assoc, sameCommands, Cut.symbols,
      decodes]
    rfl

theorem command {raw : String} (embeddable : Embeddable raw) (cuts : CutsOutside rest commands) :
    CutsOutside (commandPattern.wrap raw.toList ++ rest) (raw :: commands) := by
  apply decoded _ embeddable.decode embeddable.notEmpty cuts
  intro character isInside
  obtain ⟨notTag, notOpening, notClosing, -⟩ := harmlessIff.1 (embeddable.harmless _ isInside)
  exact ⟨notTag, notOpening, notClosing⟩

/-- The chunk of the gap comes before the other chunks. -/
theorem chunks {content : List Char} {parts textParts : List Part} {isInRun : Bool} {cuts : List Cut}
    (noTags : '<' ∉ content) (textSearches : Searches commandPattern content textParts)
    (chunkCuts : ChunkCuts isInRun (chunksOf parts) cuts) :
    ∃ gapCuts, ChunkCuts isInRun (chunksOf (.gap content :: parts)) gapCuts ∧
      commandsIn gapCuts = commandsIn (textParts.map (Cut.ofPart isInRun)) ++ commandsIn cuts := by
  rw [chunksOfCons]
  cases content with
  | nil =>
      obtain rfl := textSearches.unique .stop
      refine ⟨cuts, chunkCuts, ?_⟩
      rw [List.map_singleton, Cut.ofPart, commandsInKept]
      rfl
  | cons character rest =>
      have isText : (character :: rest).head? ≠ some '<' := by
        rintro ⟨rfl⟩
        exact noTags (List.mem_cons_self ..)
      exact ⟨_, .text isText textSearches chunkCuts, commandsInAppend _ _⟩

theorem tag {inside : List Char} (noClosing : ∀ character ∈ inside, character ≠ '>')
    (cuts : CutsOutside rest commands) :
    CutsOutside ('<' :: (inside ++ '>' :: rest)) commands := by
  obtain ⟨content, parts, searches, noTags, textParts, textSearches, sameCommands⟩ := cuts
  have begins : tagPattern.Begins ('<' :: (inside ++ '>' :: rest)) inside rest :=
    ⟨fun character isInside => by simpa [tagPattern] using noClosing character isInside,
      by simp [Text.Delimited.wrap, tagPattern]⟩
  refine ⟨[], _, .found begins searches, List.not_mem_nil, [.gap []], .stop, ?_⟩
  intro isInRun
  rw [chunksOfCons]
  obtain ⟨cuts, chunkCuts, sameCommands⟩ :=
    sameCommands (Chunk.opensRun (tagPattern.wrap inside))
  obtain ⟨gapCuts, gapChunkCuts, gapCommands⟩ := chunks noTags textSearches chunkCuts
  refine ⟨_, .markup rfl gapChunkCuts, ?_⟩
  rw [commandsInKept, gapCommands, sameCommands]
  rfl

/-- The commands that are cut out of a text are read off it. -/
theorem lexemes (cuts : CutsOutside text commands) :
    (Lexeme.ofMarkup text).filterMap Lexeme.command? = commands.map .ok := by
  obtain ⟨content, parts, searches, noTags, textParts, textSearches, sameCommands⟩ := cuts
  obtain ⟨cuts, chunkCuts, sameCommands⟩ := sameCommands false
  obtain ⟨gapCuts, gapChunkCuts, gapCommands⟩ := chunks noTags textSearches chunkCuts
  obtain ⟨markupCuts, isCut, sameSymbols⟩ := cutsOfMarkup text
  obtain rfl := isCut.unique ⟨_, searches, gapChunkCuts⟩
  rw [← commandsOfSymbols, sameSymbols, ← sameCommands, ← gapCommands, commandsIn]

end CutsOutside

theorem Interspersed.cuts {isInTag : Bool} {text : List Char} {commands : List String}
    (interspersed : Interspersed isInTag text commands) : CutsWithin isInTag text commands := by
  induction interspersed with
  | done => exact CutsOutside.empty
  | opening _ inductionHypothesis =>
      obtain ⟨inside, rest, rfl, noClosing, cuts⟩ := inductionHypothesis
      exact CutsOutside.tag noClosing cuts
  | @inside character _ _ notClosing _ inductionHypothesis =>
      obtain ⟨inside, rest, rfl, noClosing, cuts⟩ := inductionHypothesis
      exact ⟨character :: inside, rest, rfl, List.forall_mem_cons.2 ⟨notClosing, noClosing⟩, cuts⟩
  | closing _ inductionHypothesis => exact ⟨[], _, rfl, nofun, inductionHypothesis⟩
  | plain noTag noBrace _ inductionHypothesis =>
      exact CutsOutside.plain noTag noBrace inductionHypothesis
  | command embeddable _ inductionHypothesis =>
      exact CutsOutside.command embeddable inductionHypothesis

/-- The commands of an interspersed text are the ones that it is interspersed with. -/
theorem Interspersed.commands {text : List Char} {commands : List String}
    (interspersed : Interspersed false text commands) :
    (Lexeme.ofMarkup text).filterMap Lexeme.command? = commands.map .ok := by
  have cuts : CutsOutside text commands := interspersed.cuts
  exact cuts.lexemes

end Letterpress.Report
