import Letterpress.Proofs.Markup.Written
import Letterpress.Proofs.Part.Soundness
import Letterpress.Proofs.Report.Standing
import Letterpress.Proofs.Report.Trace

/-!
This file shows that data does not spoil the markup of a report. What the items of a report are rendered
to leads where the markup of the items leads.
-/

namespace Letterpress.Report

open Markup
open Rendering

mutual

/-- The markup in each block is balanced. -/
def Item.HasBalanced : Item → Prop
  | .markup _ => True
  | .insert .. => True
  | .execute _ => True
  | .loop _ _ body => IsBalanced (writtenIn body) ∧ AllBalanced body
  | .choice _ body => IsBalanced (writtenIn body) ∧ AllBalanced body

def AllBalanced : List Item → Prop
  | [] => True
  | item :: rest => item.HasBalanced ∧ AllBalanced rest

end

/-- A new text may take the place of an old one if the markup leads to the same outline, whatever
follows. -/
def Replaces (before old new : List Char) : Prop :=
  ∀ rest outline, Reaches (before ++ (old ++ rest)) outline → Reaches (before ++ (new ++ rest)) outline

section

variable {before old new more : List Char}

theorem Replaces.same (content : List Char) : Replaces before content content :=
  fun _ _ reaches => reaches

/-- The second of two texts is replaced first, so that the markup before it is still the old one. -/
theorem Replaces.append {oldMore newMore : List Char} (replaces : Replaces before old new)
    (replacesMore : Replaces (before ++ old) oldMore newMore) :
    Replaces before (old ++ oldMore) (new ++ newMore) := by
  intro rest outline reaches
  have replaced := replacesMore rest outline (by simpa using reaches)
  simpa using replaces (newMore ++ rest) outline (by simpa using replaced)

theorem Replaces.insertion {outline : Outline} (reaches : Reaches before outline)
    (passes : Passes outline new outline) : Replaces before [] new :=
  fun _ _ reachesAll => reaches.append (passes.append (reaches.afterFront reachesAll))

theorem Replaces.ofInserted {isInRun : Bool} {code text : String}
    (stands : (Item.insert code isInRun).Stands before) (legal : AllLegal text.toList) :
    Replaces before [] (insertedText isInRun text.toList) := by
  cases isInRun with
  | true =>
      obtain ⟨outline, reaches, inRun⟩ : EndsInRun before := by simpa [Item.Stands] using stands
      exact .insertion reaches (runTextPasses inRun reaches.resolves legal)
  | false =>
      obtain ⟨outline, reaches, inside⟩ : EndsInElement before := by
        simpa [Item.Stands] using stands
      exact .insertion reaches (plainTextPasses inside legal)

/-- The markup of a block leads back to the outline before it. -/
structure IsBlock (before content : List Char) (outline : Outline) : Prop where
  opens : Reaches before outline
  closes : Reaches (before ++ content) outline

theorem blockOfBalanced {content : List Char} (opens : EndsInElement before)
    (closes : EndsInElement (before ++ content)) (balanced : IsBalanced content) :
    ∃ outline, IsBlock before content outline := by
  obtain ⟨outline, reaches, inside⟩ := opens
  obtain ⟨after, reachesAfter, -⟩ := closes
  obtain rfl := (reaches.afterFront reachesAfter).balanced inside balanced
  exact ⟨_, reaches, reachesAfter⟩

section

variable {content : List Char} {outline : Outline} (isBlock : IsBlock before content outline)
include isBlock

/-- A block may be left out. -/
theorem IsBlock.omitted : Replaces before content [] := by
  intro rest after reaches
  rw [← List.append_assoc] at reaches
  exact isBlock.opens.append (isBlock.closes.afterFront reaches)

/-- A block may be followed by its markup again. -/
theorem IsBlock.repeated (replaces : Replaces before content new)
    (replacesMore : Replaces before content more) : Replaces before content (new ++ more) := by
  intro rest after reaches
  have passes := isBlock.opens.afterFront (replacesMore rest after reaches)
  have again := isBlock.closes.append passes
  rw [List.append_assoc] at again ⊢
  exact replaces (more ++ rest) after again

end

end

section

variable {settings : Settings}

/-- A rendering of items that stand in character data replaces their markup. -/
def KeepsOutline (settings : Settings) (items : List Item) : Prop :=
  ∀ {loopValues : Table Value} {session after : Session} {inserted : List String}
    {before output : List Char}, Renders settings loopValues items session inserted output after →
      AllStand before items → (∀ text ∈ inserted, AllLegal text.toList) →
        Replaces before (writtenIn items) output

theorem turnsReplace {loopValues : Table Value} {itemName : String} {list : Value}
    {body : List Item} {indices : List Nat} {session after : Session} {inserted : List String}
    {before output : List Char} {outline : Outline} (keeps : KeepsOutline settings body)
    (repeats : Repeats settings loopValues itemName list body indices session inserted output after)
    (isBlock : IsBlock before (writtenIn body) outline) (stand : AllStand before body)
    (legal : ∀ text ∈ inserted, AllLegal text.toList) : Replaces before (writtenIn body) output := by
  induction indices generalizing session inserted output with
  | nil =>
      cases repeats
      exact isBlock.omitted
  | cons index rest inductionHypothesis =>
      cases repeats with
      | turn renders repeats =>
          obtain ⟨legalFirst, legalRest⟩ := List.forall_mem_append.1 legal
          exact isBlock.repeated (keeps renders stand legalFirst)
            (inductionHypothesis repeats legalRest)

/-- One item after the other is replaced by what it is rendered to. -/
theorem rendersReplaces : ∀ {items : List Item}, AllBalanced items → KeepsOutline settings items
  | [], _, _, _, _, _, _, _, renders, _, _ => by
      cases renders
      exact .same _
  | item :: rest, balanced, _, _, _, _, before, _, renders, stand, legal => by
      obtain ⟨itemBalanced, restBalanced⟩ := balanced
      obtain ⟨itemStands, restStand⟩ := stand
      have keepsRest : KeepsOutline settings rest := rendersReplaces restBalanced
      rw [writtenIn]
      cases renders with
      | markup content rendersRest =>
          exact .append (.same content) (keepsRest rendersRest restStand legal)
      | insert isInRun runs written rendersRest =>
          obtain ⟨legalText, legalRest⟩ := List.forall_mem_cons.1 legal
          exact .append (.ofInserted itemStands legalText)
            (keepsRest rendersRest restStand legalRest)
      | execute runs rendersRest =>
          have nothing : Replaces before [] [] := .same []
          exact nothing.append (keepsRest rendersRest restStand legal)
      | @loop _ _ body _ _ _ _ _ _ _ _ _ _ _ _ _ _ repeats rendersRest =>
          obtain ⟨legalBody, legalRest⟩ := List.forall_mem_append.1 legal
          simp only [Item.Stands, Item.HasBalanced] at itemStands itemBalanced
          obtain ⟨opens, bodyStand, closes⟩ := itemStands
          -- Balanced markup ends where it begins, so each turn begins there too.
          obtain ⟨outline, isBlock⟩ := blockOfBalanced opens closes itemBalanced.1
          have keepsBody : KeepsOutline settings body := rendersReplaces itemBalanced.2
          rw [Item.written] at restStand ⊢
          exact .append (turnsReplace keepsBody repeats isBlock bodyStand legalBody)
            (keepsRest rendersRest restStand legalRest)
      | @taken _ _ body _ _ _ _ _ _ _ _ _ _ _ _ rendersBody rendersRest =>
          obtain ⟨legalBody, legalRest⟩ := List.forall_mem_append.1 legal
          simp only [Item.Stands, Item.HasBalanced] at itemStands itemBalanced
          have keepsBody : KeepsOutline settings body := rendersReplaces itemBalanced.2
          rw [Item.written] at restStand ⊢
          exact .append (keepsBody rendersBody itemStands.2.1 legalBody)
            (keepsRest rendersRest restStand legalRest)
      | skipped runs isFalsy rendersRest =>
          simp only [Item.Stands, Item.HasBalanced] at itemStands itemBalanced
          obtain ⟨opens, -, closes⟩ := itemStands
          obtain ⟨outline, isBlock⟩ := blockOfBalanced opens closes itemBalanced.1
          rw [Item.written] at restStand ⊢
          exact .append isBlock.omitted (keepsRest rendersRest restStand legal)

end

/-! ### Parts -/

/-- A prepared part is a document, and it ends with the closing of a tag. -/
theorem preparedReaches {text : String} {markup : List Char}
    (prepared : preparePart text = .ok markup) :
    Reaches markup .complete ∧ markup.getLast? = some '>' := by
  unfold preparePart at prepared
  split at prepared
  case h_1 => exact nomatch prepared
  case h_2 root read =>
    obtain ⟨isElement, sound⟩ := documentSound read
    obtain ⟨gatheredIsElement, gatheredSound⟩ := Part.gatheredSound isElement sound
    split at prepared
    case h_2 => exact nomatch prepared
    case h_1 collapsed collapses =>
      obtain ⟨collapsedIsElement, collapsedSound⟩ :=
        Part.collapsedSound collapses gatheredIsElement gatheredSound
      exact Except.ok.inj prepared ▸ writtenReaches collapsedIsElement collapsedSound

section

variable {settings : Settings} {session after : Session} {text : String}
  {markup output : List Char} {items : List Item}

/-- A part is rendered if its output is well formed. -/
theorem partRenders {name : String} {bytes : ByteArray} (decoded : String.fromUTF8? bytes = some text)
    (prepared : preparePart text = .ok markup) (parsed : itemsOf markup = .ok items)
    (rendered : (renderItems settings .empty items).outcome session = (.ok output, after))
    (wellFormed : (readDocument? (String.ofList output)).isSome = true) :
    ∃ part last, (renderPart settings name bytes).outcome session = (.ok part, last) ∧
      ∀ shown ∈ part, shown = String.ofList output := by
  have accepted : (preparePart text).bind itemsOf = .ok items := by
    rw [prepared]
    exact parsed
  have checked : checkOutput name output = .ok (String.ofList output) := if_pos wellFormed
  simp only [renderPart, decoded]
  split
  · exact ⟨none, session, rfl, nofun⟩
  · rw [outcomeOfBind, outcomeOfExcept accepted]
    dsimp only
    split
    · exact ⟨none, session, rfl, nofun⟩
    · refine ⟨some (String.ofList output), after, ?_, fun _ isShown => Option.some.inj isShown.symm⟩
      exact bindOutcomeIff.2 ⟨_, _, rendered, bindOutcomeIff.2 ⟨_, _, outcomeOfExcept checked, rfl⟩⟩

/-- Data does not break a report whose blocks are balanced and whose commands stand in character
data: if all texts that are inserted are legal, the output is well formed, and the part is
rendered. -/
theorem renderedIsWellFormed (prepared : preparePart text = .ok markup)
    (parsed : itemsOf markup = .ok items) (balanced : AllBalanced items) (stand : AllStand [] items)
    (rendered : (renderItems settings .empty items).outcome session = (.ok output, after)) :
    (∃ inserted, Renders settings .empty items session inserted output after) ∧
      ∀ inserted, Renders settings .empty items session inserted output after →
        (∀ text ∈ inserted, AllLegal text.toList) →
          (readDocument? (String.ofList output)).isSome = true ∧
            ∀ name bytes, String.fromUTF8? bytes = some text →
              ∃ part last, (renderPart settings name bytes).outcome session = (.ok part, last) ∧
                ∀ shown ∈ part, shown = String.ofList output := by
  refine ⟨rendersOfOutcome rendered, fun inserted renders legal => ?_⟩
  obtain ⟨reaches, ends⟩ := preparedReaches prepared
  have reachesWritten : Reaches ([] ++ (writtenIn items ++ [])) .complete := by
    simpa using reachesWithoutCommands parsed stand ends reaches
  have reachesOutput := rendersReplaces balanced renders stand legal [] .complete reachesWritten
  rw [List.nil_append, List.append_nil] at reachesOutput
  have wellFormed := reachesOutput.isDocument
  exact ⟨wellFormed, fun _ _ decoded => partRenders decoded prepared parsed rendered wellFormed⟩

end

/-! ### Two reports with a broken line -/

section

/-- The text of this session has two lines. -/
def lineSession : Session := ⟨.empty, ⟨.ofList [("v", .text "a\nb")], .empty⟩, .empty⟩

theorem lineRuns : (run plainSettings "v" .empty).outcome lineSession =
    (.ok (.text "a\nb"), ((run plainSettings "v" .empty).outcome lineSession).2) :=
  outcomeOfOption (by decide +kernel)

theorem lineLegal : ∀ text ∈ ["a\nb"], AllLegal text.toList :=
  List.forall_mem_singleton.2 (List.all_eq_true.1 rfl)

def choiceReport : String :=
  "<w:r xmlns:w=\"u\">\x7bIF v\x7d<w:t>\x7bv\x7d</w:t>\x7bEND-IF\x7d</w:r>"

def choiceItems : List Item :=
  [.markup "<?xml version='1.0' encoding='UTF-8' standalone='yes'?>".toList, .markup "\n".toList,
    .markup "<w:r xmlns:w=\"u\">".toList,
    .choice "v" [.markup "<w:t>".toList, .insert "v" true, .markup "</w:t>".toList],
    .markup "</w:r>".toList]

set_option maxRecDepth 2000 in
theorem choiceParsed : itemsOf (documentHeader ++ choiceReport.toList) = .ok choiceItems := by rfl

theorem choiceBalanced : AllBalanced choiceItems := by
  have balanced : IsBalanced ("<w:t>".toList ++ "</w:t>".toList) :=
    ⟨[.opening ⟨runName, []⟩, .closing runName], by decide +kernel, by decide +kernel⟩
  exact ⟨trivial, trivial, trivial, ⟨balanced, trivial, trivial, trivial, trivial⟩, trivial, trivial⟩

/-- The text run stands in an element that declares its qualifier. -/
theorem choiceStands : AllStand [] choiceItems := by
  have declares : (Event.opening ⟨⟨"w".toList, "r".toList⟩,
      [⟨⟨"xmlns".toList, "w".toList⟩, "u".toList⟩]⟩).IsSource "w:r xmlns:w=\"u\">".toList :=
    sourceOfRead rfl
  have opens : (Event.opening ⟨runName, []⟩).IsSource "w:t>".toList := sourceOfRead rfl
  have closes : (Event.closing runName).IsSource "/w:t>".toList := sourceOfRead rfl
  have reaches : Reaches (documentHeader ++ "<w:r xmlns:w=\"u\">".toList) _ :=
    ⟨_, rfl, .markup declares (by decide) rfl .done⟩
  have reachesText := reaches.append (.markup opens (by decide) rfl .done)
  have reachesEnd := reachesText.append (.markup closes (by decide) rfl .done)
  refine ⟨trivial, trivial, trivial, ⟨?_, ⟨trivial, ?_, trivial, trivial⟩, ?_⟩, trivial, trivial⟩
  · exact ⟨_, reaches, List.cons_ne_nil _ _⟩
  · exact ⟨_, reachesText, _, _, _, rfl⟩
  · exact ⟨_, reachesEnd, List.cons_ne_nil _ _⟩

theorem choiceRenders : ∃ output after,
    Renders plainSettings .empty choiceItems lineSession ["a\nb"] output after := by
  have runsAgain : ((run plainSettings "v" .empty).outcome
      ((run plainSettings "v" .empty).outcome lineSession).2).1.toOption = some (.text "a\nb") := by
    decide +kernel
  exact ⟨_, _, .markup _ <| .markup _ <| .markup _ <|
    .taken lineRuns rfl (.markup _ <| .insert true (outcomeOfOption runsAgain) rfl <| .markup _ .done)
      (.markup _ .done)⟩

/-- Both lines stand in text runs. -/
theorem brokenLineIsWellFormed :
    preparePart choiceReport = .ok (documentHeader ++ choiceReport.toList) ∧
      itemsOf (documentHeader ++ choiceReport.toList) = .ok choiceItems ∧
        AllBalanced choiceItems ∧ AllStand [] choiceItems ∧ ∃ output after,
          (renderItems plainSettings .empty choiceItems).outcome lineSession = (.ok output, after) ∧
            Renders plainSettings .empty choiceItems lineSession ["a\nb"] output after ∧
              (readDocument? (String.ofList output)).isSome = true := by
  have prepared : preparePart choiceReport = .ok (documentHeader ++ choiceReport.toList) :=
    okOfOption (by decide +kernel)
  obtain ⟨output, after, renders⟩ := choiceRenders
  have rendered := outcomeOfRenders renders
  obtain ⟨-, wellFormed⟩ :=
    renderedIsWellFormed prepared choiceParsed choiceBalanced choiceStands rendered
  exact ⟨prepared, choiceParsed, choiceBalanced, choiceStands, output, after, rendered, renders,
    (wellFormed _ renders lineLegal).1⟩

def emptyRunReport : String := "<w:r xmlns:w=\"u\"><w:t xml:space=\"preserve\"/>\x7bv\x7d</w:r>"

def emptyRunItems : List Item :=
  [.markup "<?xml version='1.0' encoding='UTF-8' standalone='yes'?>".toList, .markup "\n".toList,
    .markup "<w:r xmlns:w=\"u\">".toList, .markup "<w:t xml:space=\"preserve\"/>".toList,
    .insert "v" true, .markup "</w:r>".toList]

/-- A command after an empty run is taken for one inside of it, so that a line break closes a run
that is not open. -/
theorem emptyRunSpoils :
    preparePart emptyRunReport = .ok (documentHeader ++ emptyRunReport.toList) ∧
      itemsOf (documentHeader ++ emptyRunReport.toList) = .ok emptyRunItems ∧
        AllBalanced emptyRunItems ∧ ∃ output after,
          (renderItems plainSettings .empty emptyRunItems).outcome lineSession = (.ok output, after) ∧
            Renders plainSettings .empty emptyRunItems lineSession ["a\nb"] output after ∧
              (∀ text ∈ ["a\nb"], AllLegal text.toList) ∧
                (readDocument? (String.ofList output)).isSome = false := by
  have prepared : preparePart emptyRunReport = .ok (documentHeader ++ emptyRunReport.toList) :=
    okOfOption (by decide +kernel)
  have parsed : itemsOf (documentHeader ++ emptyRunReport.toList) = .ok emptyRunItems := by rfl
  have balanced : AllBalanced emptyRunItems :=
    ⟨trivial, trivial, trivial, trivial, trivial, trivial, trivial⟩
  have renders : Renders plainSettings .empty emptyRunItems lineSession ["a\nb"] _ _ :=
    .markup _ <| .markup _ <| .markup _ <| .markup _ <| .insert true lineRuns rfl <| .markup _ .done
  exact ⟨prepared, parsed, balanced, _, _, outcomeOfRenders renders, renders, lineLegal,
    by decide +kernel⟩

end

end Letterpress.Report
