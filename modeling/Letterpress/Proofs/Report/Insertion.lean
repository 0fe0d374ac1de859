import Letterpress.Proofs.Markup.Passage
import Letterpress.Proofs.Report.InsertedText

/-!
This file shows that an inserted text leads back to the outline where it is inserted. The text is
character data, and a line break closes the run around it and opens another one.
-/

namespace Letterpress.Report

open Markup

def runName : QualifiedName := ⟨"w".toList, "t".toList⟩

/-- The innermost element is a text run that declares nothing, so that other elements around the
run resolve the same names. -/
def IsInRun (outline : Outline) : Prop :=
  ∃ declarations name outer,
    outline.opened = ⟨runName, declarations⟩ :: ⟨name, declarations⟩ :: outer

section

variable {outline : Outline} {text : List Char}

/-! ### Texts without line breaks -/

theorem escapeRefers {escape : List Char} (isEscape : escape ∈ escapes) :
    ∃ name character, escape = name ++ [';'] ∧ referenced? name = some character := by
  simp only [escapes, List.mem_cons, List.not_mem_nil, or_false] at isEscape
  obtain rfl | rfl | rfl := isEscape
  · exact ⟨"amp".toList, '&', rfl, rfl⟩
  · exact ⟨"lt".toList, '<', rfl, rfl⟩
  · exact ⟨"gt".toList, '>', rfl, rfl⟩

theorem escapedPasses {character : Char} (inside : outline.opened ≠ [])
    (legal : isLegal character = true) : Passes outline (escapeCharacter character) outline := by
  obtain ⟨notReference, notTag, notClosing, same⟩ | ⟨escape, isEscape, same⟩ :=
    escapeCharacterWrites character
  · rw [same]
    exact .plain inside ⟨legal, notTag, notClosing, notReference⟩ .done
  · obtain ⟨name, referenced, rfl, refers⟩ := escapeRefers isEscape
    rw [same]
    exact .reference inside refers .done

theorem escapedTextPasses (inside : outline.opened ≠ []) (legal : AllLegal text) :
    Passes outline (text.flatMap escapeCharacter) outline :=
  .flatMap fun character isInside => escapedPasses inside (legal character isInside)

/-- A text that is inserted outside of runs stays character data. -/
theorem plainTextPasses (inside : outline.opened ≠ []) (legal : AllLegal text) :
    Passes outline (insertedText false text) outline := by
  rw [insertedPlain]
  exact escapedTextPasses inside fun character isInside =>
    legal character (List.mem_filter.1 isInside).1

/-! ### Line breaks -/

theorem sourceOfRead {event : Event} {source : List Char}
    (found : Event.readMarkup? source = some (event, [])) : event.IsSource source := by
  obtain ⟨_, rfl, isSource⟩ := readMarkupIff.1 found
  rwa [List.append_nil]

def breakTag : Tag := ⟨⟨"w".toList, "br".toList⟩, []⟩

def preservingTag : Tag := ⟨runName, [⟨⟨"xml".toList, "space".toList⟩, "preserve".toList⟩]⟩

section

variable {declarations : Declarations}
  (resolvesRun : (declarations.resolve? "w".toList).isSome = true)
include resolvesRun

theorem breakHeaded :
    ∃ heading, Heading.ofTag? declarations breakTag = some (heading, declarations) := by
  obtain ⟨address, resolved⟩ := Option.isSome_iff_exists.1 resolvesRun
  exact ⟨_, ofTagIff.2 ⟨rfl, address, [], resolved, rfl, rfl, rfl, rfl, rfl⟩⟩

theorem preservingHeaded (resolvesMarkup : (declarations.resolve? "xml".toList).isSome = true) :
    ∃ heading, Heading.ofTag? declarations preservingTag = some (heading, declarations) := by
  obtain ⟨address, resolved⟩ := Option.isSome_iff_exists.1 resolvesRun
  obtain ⟨markup, resolvedMarkup⟩ := Option.isSome_iff_exists.1 resolvesMarkup
  have key : attributeKey? declarations ⟨"xml".toList, "space".toList⟩ =
      some (markup, "space".toList) := congrArg (Option.map _) resolvedMarkup
  have keys : preservingTag.attributes.mapM (fun found => attributeKey? declarations found.name) =
      some [(markup, "space".toList)] := by
    rw [preservingTag, List.mapM_cons, key]
    rfl
  exact ⟨_, ofTagIff.2 ⟨rfl, address, _, resolved, keys, rfl, rfl, rfl, rfl⟩⟩

end

/-- A line break closes the run, puts an empty element after it and opens the run again. -/
theorem lineBreakPasses (isInRun : IsInRun outline) (resolves : outline.Resolves) :
    Passes outline lineBreak outline := by
  obtain ⟨opened, isComplete⟩ := outline
  obtain ⟨declarations, name, outer, rfl⟩ := isInRun
  have resolvesRun := resolves ⟨runName, declarations⟩ List.mem_cons_self
  obtain ⟨breakHeading, isBreak⟩ := breakHeaded resolvesRun.name
  obtain ⟨runHeading, isRun⟩ := preservingHeaded resolvesRun.name resolvesRun.markup
  have notEmpty : (⟨name, declarations⟩ :: outer : List OpenElement) ≠ [] := List.cons_ne_nil _ _
  have closes : Outline.step? ⟨⟨runName, declarations⟩ :: ⟨name, declarations⟩ :: outer, isComplete⟩
      (.closing runName) = some ⟨⟨name, declarations⟩ :: outer, isComplete⟩ := by
    rw [Outline.step?, closeInside notEmpty, if_pos rfl]
  have opens {tag : Tag} {heading : Heading}
      (headed : Heading.ofTag? declarations tag = some (heading, declarations)) :
      Outline.open? ⟨⟨name, declarations⟩ :: outer, isComplete⟩ tag =
        some ⟨⟨tag.name, declarations⟩ :: ⟨name, declarations⟩ :: outer, isComplete⟩ := by
    rw [Outline.open?, show Outline.declarations ⟨⟨name, declarations⟩ :: outer, isComplete⟩ =
      declarations from rfl, headed]
    rfl
  have breaks : Outline.step? ⟨⟨name, declarations⟩ :: outer, isComplete⟩ (.empty breakTag) =
      some ⟨⟨name, declarations⟩ :: outer, isComplete⟩ := by
    rw [Outline.step?, opens isBreak, Option.bind_some, closeInside notEmpty, if_pos rfl]
  have closing : (Event.closing runName).IsSource "/w:t>".toList := sourceOfRead rfl
  have breaking : (Event.empty breakTag).IsSource "w:br/>".toList := sourceOfRead rfl
  have opening : (Event.opening preservingTag).IsSource
      "w:t xml:space=\"preserve\">".toList := sourceOfRead rfl
  exact .markup closing (by decide) closes <| .markup breaking (by decide) breaks <|
    .markup opening (by decide) (opens isRun) .done

/-- Each line of a text that is inserted in a run stays character data of a run. -/
theorem runTextPasses (isInRun : IsInRun outline) (resolves : outline.Resolves)
    (legal : AllLegal text) : Passes outline (insertedText true text) outline := by
  have inside : outline.opened ≠ [] := by
    obtain ⟨_, _, _, same⟩ := isInRun
    simp [same]
  have inRun : insertedText true text =
      breakLines ((text.filter (! isControl ·)).flatMap escapeCharacter) := by
    rw [← insertedPlain]
    rfl
  have linePasses (line : List Char) (isLine : line ∈ linesOf (text.filter (! isControl ·))) :
      Passes outline (line.flatMap escapeCharacter) outline :=
    escapedTextPasses inside fun character isInside => by
      have inText := joinReturnsSubset _ (Text.splitWhereSubset _ _ line isLine isInside)
      exact legal character (List.mem_filter.1 inText).1
  obtain ⟨first, pieces, lines⟩ := linesNotEmpty (text.filter (! isControl ·))
  rw [lines] at linePasses
  obtain ⟨firstPasses, piecesPass⟩ := List.forall_mem_cons.1 linePasses
  rw [inRun, breakLinesEscaped, lines, List.map_cons, Text.intercalateCons, List.flatMap_map]
  exact firstPasses.append <| .flatMap fun piece isPiece =>
    (lineBreakPasses isInRun resolves).append (piecesPass piece isPiece)

end

end Letterpress.Report
