import Letterpress.Proofs.Report.Insertion
import Letterpress.Proofs.Report.Parsing

/-!
This file tells where the commands of a report stand in its markup. When all of them stand in character
data, they can be taken out of the markup without changing where it leads.
-/

namespace Letterpress.Report

open Markup
open Text (Part Searches)

/-- A command after this markup stands in the character data of an element. -/
def EndsInElement (markup : List Char) : Prop :=
  ∃ outline, Reaches markup outline ∧ outline.opened ≠ []

/-- A command after this markup stands in the character data of a text run. -/
def EndsInRun (markup : List Char) : Prop := ∃ outline, Reaches markup outline ∧ IsInRun outline

mutual

/-- A command stands in character data, given the markup before it. What is inserted like in a text
run stands in one. -/
def Item.Stands (before : List Char) : Item → Prop
  | .markup _ => True
  | .insert _ isInRun => if isInRun then EndsInRun before else EndsInElement before
  | .execute _ => EndsInElement before
  | .loop _ _ body =>
      EndsInElement before ∧ AllStand before body ∧ EndsInElement (before ++ writtenIn body)
  | .choice _ body =>
      EndsInElement before ∧ AllStand before body ∧ EndsInElement (before ++ writtenIn body)

def AllStand (before : List Char) : List Item → Prop
  | [] => True
  | item :: rest => item.Stands before ∧ AllStand (before ++ item.written) rest

end

/-- The commands among symbols stand in character data. -/
def CommandsStand (before : List Char) : List Symbol → Prop
  | [] => True
  | .kept character :: rest => CommandsStand (before ++ [character]) rest
  | .command _ _ :: rest => EndsInElement before ∧ CommandsStand before rest

/-! ### The commands of a derivation -/

section

variable {before : List Char}

theorem EndsInRun.endsInElement (endsInRun : EndsInRun before) : EndsInElement before := by
  obtain ⟨outline, reaches, _, _, _, same⟩ := endsInRun
  exact ⟨outline, reaches, by simp [same]⟩

theorem insertStands {code : String} {isInRun : Bool}
    (stands : (Item.insert code isInRun).Stands before) : EndsInElement before := by
  rw [Item.Stands] at stands
  split at stands
  · exact stands.endsInElement
  · exact stands

theorem allStandAppend {items more : List Item} :
    AllStand before (items ++ more) ↔
      AllStand before items ∧ AllStand (before ++ writtenIn items) more := by
  induction items generalizing before with
  | nil => simp [AllStand, writtenIn]
  | cons item rest inductionHypothesis =>
      simp [AllStand, writtenIn, inductionHypothesis, and_assoc]

theorem allStandSingle {item : Item} : AllStand before [item] ↔ item.Stands before := by
  simp [AllStand]

theorem commandsStandAppend {symbols more : List Symbol} :
    CommandsStand before (symbols ++ more) ↔ CommandsStand before symbols ∧
      CommandsStand (before ++ symbols.filterMap Symbol.kept?) more := by
  induction symbols generalizing before with
  | nil => simp [CommandsStand]
  | cons symbol rest inductionHypothesis =>
      cases symbol <;>
        simp [CommandsStand, Symbol.kept?, List.filterMap_cons, inductionHypothesis, and_assoc]

theorem keptStand (content : List Char) : CommandsStand before (content.map .kept) := by
  induction content generalizing before with
  | nil => trivial
  | cons character rest inductionHypothesis => exact inductionHypothesis

theorem commandStands {raw : Except Fault String} {isInRun : Bool} :
    CommandsStand before (Lexeme.command raw isInRun).symbols ↔ EndsInElement before := by
  simp [Lexeme.symbols, CommandsStand]

theorem blockStands {opening closing : Except Fault String} {isOpeningInRun isClosingInRun : Bool}
    {inside : List Lexeme} {body : List Item} (derives : Derives inside body)
    (opens : EndsInElement before) (closes : EndsInElement (before ++ writtenIn body))
    (stand : CommandsStand before (inside.flatMap Lexeme.symbols)) :
    CommandsStand before ((Lexeme.command opening isOpeningInRun ::
      (inside ++ [.command closing isClosingInRun])).flatMap Lexeme.symbols) := by
  rw [derives.written] at closes
  simp only [List.flatMap_cons, List.flatMap_append, List.flatMap_nil, List.append_nil,
    commandsStandAppend, commandStands, keptOfCommand]
  exact ⟨opens, stand, closes⟩

theorem Derives.commandsStand {lexemes : List Lexeme} {items : List Item}
    (derives : Derives lexemes items) (stand : AllStand before items) :
    CommandsStand before (lexemes.flatMap Lexeme.symbols) := by
  induction derives generalizing before with
  | empty => trivial
  | markup derives content inductionHypothesis =>
      rw [List.flatMap_append, commandsStandAppend]
      exact ⟨inductionHypothesis (allStandAppend.1 stand).1,
        by simpa [Lexeme.symbols] using keptStand content⟩
  | insert derives kind isInRun inductionHypothesis =>
      obtain ⟨standBefore, stands⟩ := allStandAppend.1 stand
      rw [List.flatMap_append, commandsStandAppend, ← derives.written, List.flatMap_singleton,
        commandStands]
      exact ⟨inductionHypothesis standBefore, insertStands (allStandSingle.1 stands)⟩
  | execute derives kind isInRun inductionHypothesis =>
      obtain ⟨standBefore, stands⟩ := allStandAppend.1 stand
      rw [List.flatMap_append, commandsStandAppend, ← derives.written, List.flatMap_singleton,
        commandStands]
      exact ⟨inductionHypothesis standBefore, by simpa [Item.Stands] using allStandSingle.1 stands⟩
  | loop derives opens derivesInside closes fits isOpeningInRun isClosingInRun hypothesis
      hypothesisInside =>
      obtain ⟨standBefore, stands⟩ := allStandAppend.1 stand
      obtain ⟨opens, standInside, closes⟩ := by simpa only [allStandSingle, Item.Stands] using stands
      rw [List.flatMap_append, commandsStandAppend, ← derives.written]
      exact ⟨hypothesis standBefore,
        blockStands derivesInside opens closes (hypothesisInside standInside)⟩
  | choice derives opens derivesInside closes isOpeningInRun isClosingInRun hypothesis
      hypothesisInside =>
      obtain ⟨standBefore, stands⟩ := allStandAppend.1 stand
      obtain ⟨opens, standInside, closes⟩ := by simpa only [allStandSingle, Item.Stands] using stands
      rw [List.flatMap_append, commandsStandAppend, ← derives.written]
      exact ⟨hypothesis standBefore,
        blockStands derivesInside opens closes (hypothesisInside standInside)⟩

end

/-! ### Texts between tags -/

/-- A text that ends with a closed tag opens no tag in its gaps. -/
theorem gapNoTag {text : List Char} {parts : List Part} (searches : Searches tagPattern text parts)
    (ends : text = [] ∨ text.getLast? = some '>') :
    ∀ content, Part.gap content ∈ parts → '<' ∉ content := by
  induction searches with
  | stop => simp
  | @found text inside after parts begins _ inductionHypothesis =>
      have endsAfter : after = [] ∨ after.getLast? = some '>' := by
        obtain rfl | ⟨last, others, rfl⟩ := List.eq_nil_or_concat after
        · exact .inl rfl
        · refine .inr ?_
          obtain rfl | ends := ends
          · exact absurd begins.2 (List.cons_ne_nil _ _).symm
          · rw [begins.2] at ends
            simpa using ends
      simpa using inductionHypothesis endsAfter
  | @skip character text content parts notFound _ inductionHypothesis =>
      have endsRest : text = [] ∨ text.getLast? = some '>' := by
        obtain rfl | notEmpty := eq_or_ne text []
        · exact .inl rfl
        · obtain same | ends := ends
          · exact nomatch same
          · exact .inr (by rwa [List.getLast?_cons_of_ne_nil notEmpty] at ends)
      have notOpening : '<' ≠ character := by
        rintro rfl
        obtain rfl | endsRest := endsRest
        · simp at ends
        · obtain ⟨inside, after, rfl, absent⟩ :=
            List.eq_append_cons_of_mem (List.mem_of_getLast? endsRest)
          have admitted (letter : Char) (isInside : letter ∈ inside) :
              tagPattern.admits letter = true :=
            decide_eq_true fun same => absent (same ▸ isInside)
          exact notFound inside after ⟨admitted, by simp [Text.Delimited.wrap, tagPattern]⟩
      have inRest := inductionHypothesis endsRest
      simp only [List.mem_cons, Part.gap.injEq, forall_eq_or_imp] at inRest ⊢
      exact ⟨by simp [notOpening, inRest.1], inRest.2⟩

theorem ChunkCuts.noTag {isInRun : Bool} {chunks : List (List Char)} {cuts : List Cut}
    (chunkCuts : ChunkCuts isInRun chunks cuts)
    (plain : ∀ chunk ∈ chunks, chunk.head? ≠ some '<' → '<' ∉ chunk) :
    ∀ inside isInRun, Cut.command inside isInRun ∈ cuts → '<' ∉ inside := by
  induction chunkCuts with
  | none => simp
  | markup isMarkup _ inductionHypothesis =>
      simpa using inductionHypothesis (List.forall_mem_cons.1 plain).2
  | @text isInRun chunk parts chunks cuts isText searches _ inductionHypothesis =>
      obtain ⟨plainChunk, plainRest⟩ := List.forall_mem_cons.1 plain
      intro inside isCommandInRun isCut
      obtain isCut | isCut := List.mem_append.1 isCut
      · obtain ⟨part, isPart, same⟩ := List.mem_map.1 isCut
        have source : commandPattern.wrap inside = part.source commandPattern := by
          rw [← Cut.sourceOfPart isInRun, same]
          rfl
        intro isInside
        refine plainChunk isText ?_
        rw [← searches.source]
        exact List.mem_flatMap.2
          ⟨part, isPart, source ▸ by simp [Text.Delimited.wrap, isInside]⟩
      · exact inductionHypothesis plainRest inside isCommandInRun isCut

/-- A command of a markup that ends with a closed tag opens no tag. -/
theorem IsCutInto.noTag {markup : List Char} {cuts : List Cut} (isCut : IsCutInto markup cuts)
    (ends : markup.getLast? = some '>') :
    ∀ inside isInRun, Cut.command inside isInRun ∈ cuts → '<' ∉ inside := by
  obtain ⟨parts, searches, chunkCuts⟩ := isCut
  refine chunkCuts.noTag fun chunk isChunk isText => ?_
  obtain ⟨part, isPart, rfl⟩ := List.mem_map.1 (List.mem_filter.1 isChunk).1
  cases part with
  | gap content => exact gapNoTag searches (.inr ends) content isPart
  | found inside => exact absurd rfl isText

/-! ### Taking commands out -/

theorem reachesWithoutCuts {before : List Char} {outline : Outline} {cuts : List Cut}
    (noTag : ∀ inside isInRun, Cut.command inside isInRun ∈ cuts → '<' ∉ inside)
    (stand : CommandsStand before (cuts.flatMap Cut.symbols))
    (reaches : Reaches (before ++ cuts.flatMap Cut.source) outline) :
    Reaches (before ++ cuts.flatMap Cut.remaining) outline := by
  induction cuts generalizing before with
  | nil => exact reaches
  | cons cut rest inductionHypothesis =>
      have noTagRest (inside : List Char) (isInRun : Bool) (isCut : .command inside isInRun ∈ rest) :
          '<' ∉ inside := noTag inside isInRun (List.mem_cons_of_mem _ isCut)
      simp only [List.flatMap_cons] at stand reaches ⊢
      rw [commandsStandAppend, keptOfCut] at stand
      rw [← List.append_assoc]
      cases cut with
      | kept content =>
          rw [← List.append_assoc] at reaches
          exact inductionHypothesis noTagRest stand.2 reaches
      | command inside isInRun =>
          simp only [Cut.remaining, List.append_nil] at stand ⊢
          obtain ⟨⟨⟨middle, reachesBefore, -⟩, -⟩, standRest⟩ := stand
          -- The command is character data, so what follows it begins where the command does.
          have passes := reachesBefore.afterFront reaches
          have noTagInside : '<' ∉ '\x7b' :: inside := by
            simpa using noTag inside isInRun List.mem_cons_self
          have source : (Cut.command inside isInRun).source ++ rest.flatMap Cut.source =
              '\x7b' :: inside ++ '\x7d' :: rest.flatMap Cut.source := by
            simp [Cut.source, Text.Delimited.wrap, commandPattern]
          have passesRest := (source ▸ passes).afterData (by decide) (by decide) noTagInside
          exact inductionHypothesis noTagRest standRest (reachesBefore.append passesRest)

/-- The markup of a report leads where it leads without its commands. -/
theorem reachesWithoutCommands {markup : List Char} {outline : Outline} {items : List Item}
    (parsed : itemsOf markup = .ok items) (stand : AllStand [] items)
    (ends : markup.getLast? = some '>') (reaches : Reaches markup outline) :
    Reaches (writtenIn items) outline := by
  obtain ⟨cuts, isCut, sameSymbols⟩ := cutsOfMarkup markup
  have derives := (itemsOfIff markup items).1 parsed
  have written : writtenIn items = cuts.flatMap Cut.remaining := by
    rw [derives.written, sameSymbols, List.filterMap_flatMap]
    simp only [keptOfCut]
  have standCommands := derives.commandsStand stand
  rw [sameSymbols] at standCommands
  rw [← isCut.source] at reaches
  have reachesRest := reachesWithoutCuts (isCut.noTag ends) standCommands reaches
  rw [written]
  exact reachesRest

end Letterpress.Report
