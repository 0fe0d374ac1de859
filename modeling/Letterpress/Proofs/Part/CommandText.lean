import Letterpress.Proofs.Part.Gathering
import Letterpress.Proofs.Part.Structural
import Letterpress.Proofs.Report.Cutting

/-!
This file lists the commands of a document in order. A command lies in one text between two tags, and
there is no brace in it.
-/

namespace Letterpress.Part

open Markup

/-! ### Commands of a text -/

/-- What stands after an open brace is the beginning of a command, unless another brace opens. -/
def commandsFrom : Option (List Char) → List Char → List (List Char)
  | _, [] => []
  | opened, character :: rest =>
      if character = '\x7b' then commandsFrom (some []) rest
      else if character = '\x7d' then opened.toList ++ commandsFrom none rest
      else commandsFrom (opened.map (· ++ [character])) rest

def commandsIn (text : List Char) : List (List Char) := commandsFrom none text

section

variable {opened : Option (List Char)} {text inside : List Char}

/-- Text without braces goes on with what is open. -/
theorem commandsFromBare (bare : NoBrace text) (opened : Option (List Char)) (rest : List Char) :
    commandsFrom opened (text ++ rest) = commandsFrom (opened.map (· ++ text)) rest := by
  induction text generalizing opened with
  | nil => simp
  | cons character text inductionHypothesis =>
      obtain ⟨notBrace, bareText⟩ := List.forall_mem_cons.1 bare
      rw [isBrace, Bool.or_eq_false_iff, decide_eq_false_iff_not, decide_eq_false_iff_not] at notBrace
      rw [List.cons_append, commandsFrom, if_neg notBrace.1, if_neg notBrace.2,
        inductionHypothesis bareText, Option.map_map]
      congr 2
      funext before
      simp

theorem commandsInBare (bare : NoBrace text) : commandsIn text = [] := by
  have unchanged := commandsFromBare bare none []
  rw [List.append_nil] at unchanged
  rw [commandsIn, unchanged]
  rfl

/-- A command is listed, whatever stands around it. -/
theorem commandsEnclosed (bare : NoBrace inside) (opened : Option (List Char)) (front back : List Char) :
    commandsFrom opened (front ++ '\x7b' :: (inside ++ '\x7d' :: back)) =
      commandsFrom opened front ++ inside :: commandsIn back := by
  induction front generalizing opened with
  | nil =>
      change commandsFrom opened ('\x7b' :: (inside ++ '\x7d' :: back)) = inside :: commandsIn back
      rw [commandsFrom, if_pos rfl, commandsFromBare bare, commandsFrom, if_neg (by decide), if_pos rfl]
      rfl
  | cons character front inductionHypothesis =>
      rw [List.cons_append, commandsFrom, commandsFrom]
      split
      case isTrue => exact inductionHypothesis _
      case isFalse =>
        split
        case isTrue => rw [inductionHypothesis, List.append_assoc]
        case isFalse => exact inductionHypothesis _

theorem commandsSublistOpened (opened : Option (List Char)) (text : List Char) :
    (commandsIn text).Sublist (commandsFrom opened text) := by
  induction text generalizing opened with
  | nil => exact .slnil
  | cons character text inductionHypothesis =>
      rw [commandsIn, commandsFrom, commandsFrom]
      split
      case isTrue => exact .refl _
      case isFalse =>
        split
        case isTrue => exact List.sublist_append_right _ _
        case isFalse => exact inductionHypothesis _

/-- No command is lost where two texts meet. -/
theorem commandsSublistAppend (opened : Option (List Char)) (text more : List Char) :
    (commandsFrom opened text ++ commandsIn more).Sublist (commandsFrom opened (text ++ more)) := by
  induction text generalizing opened with
  | nil => exact commandsSublistOpened opened more
  | cons character text inductionHypothesis =>
      rw [List.cons_append, commandsFrom, commandsFrom]
      split
      case isTrue => exact inductionHypothesis _
      case isFalse =>
        split
        case isTrue =>
          rw [List.append_assoc]
          exact (inductionHypothesis _).append_left _
        case isFalse => exact inductionHypothesis _

theorem commandsSublistFlatten (texts : List (List Char)) :
    (texts.flatMap commandsIn).Sublist (commandsIn texts.flatten) := by
  induction texts with
  | nil => exact .slnil
  | cons text texts inductionHypothesis =>
      rw [List.flatMap_cons, List.flatten_cons]
      exact (inductionHypothesis.append_left _).trans (commandsSublistAppend none text _)

/-- A part of a text that is searched for commands has one command at most. -/
def insideOf? : Text.Part → Option (List Char)
  | .gap _ => none
  | .found inside => some inside

/-- A brace that opens no command stands in no command. -/
theorem commandsUnopened
    (notFound : ∀ inside after, ¬ Report.commandPattern.Begins ('\x7b' :: text) inside after) :
    commandsFrom (some []) text = commandsIn text := by
  obtain ⟨before, after, rfl, -, -, admitted, stops⟩ := Text.spanAdmitted
    (fun character => decide (character ≠ '\x7b') && decide (character ≠ '\x7d')) text
  have bare : NoBrace before := noBraceIff.2 admitted
  rw [commandsIn, commandsFromBare bare, commandsFromBare bare]
  cases after with
  | nil => rfl
  | cons character rest =>
      have isBrace := stops character rfl
      rw [commandsFrom, commandsFrom]
      split
      case isTrue => rfl
      case isFalse notOpening =>
        have isClosing : character = '\x7d' := by simpa [notOpening] using isBrace
        subst isClosing
        refine absurd ⟨admitted, ?_⟩ (notFound before rest)
        simp [Text.Delimited.wrap, Report.commandPattern]

/-- The commands of a text are what a search for commands finds in it. -/
theorem commandsSearched {parts : List Text.Part}
    (searches : Text.Searches Report.commandPattern text parts) :
    parts.filterMap insideOf? = commandsIn text := by
  induction searches with
  | stop => rfl
  | @found text inside after parts begins _ inductionHypothesis =>
      obtain ⟨admitted, rfl⟩ := begins
      have enclosed := commandsEnclosed (noBraceIff.2 admitted) none [] after
      have found : commandsIn (Report.commandPattern.wrap inside ++ after) = inside :: commandsIn after := by
        simpa [commandsIn, commandsFrom, Text.Delimited.wrap, Report.commandPattern] using enclosed
      rw [found, ← inductionHypothesis]
      rfl
  | @skip character text content parts notFound _ inductionHypothesis =>
      have kept : commandsIn (character :: text) = commandsIn text := by
        rw [commandsIn, commandsFrom]
        split
        case isTrue isOpening =>
          subst isOpening
          exact commandsUnopened notFound
        case isFalse =>
          split
          case isTrue => rfl
          case isFalse => rfl
      rw [kept, ← inductionHypothesis]
      rfl

end

/-! ### Texts of a document -/

mutual

/-- The texts between two tags inside of an element are one, and they may be empty. -/
def textNodes : Node → List (List Char)
  | .element _ children => textNodesAfter [] children
  | _ => []

def textNodesAfter (before : List Char) : List Node → List (List Char)
  | [] => [before]
  | .text content :: rest => textNodesAfter (before ++ content) rest
  | node :: rest => before :: (textNodes node ++ textNodesAfter [] rest)

end

/-- These are the commands of a document in order. -/
def commandsOf (node : Node) : List (List Char) := (textNodes node).flatMap commandsIn

/-- These are the commands of children, with a text before them. -/
def commandsAfter (before : List Char) (children : List Node) : List (List Char) :=
  (textNodesAfter before children).flatMap commandsIn

def isText : Node → Bool
  | .text _ => true
  | _ => false

section

variable {before inside : List Char} {node : Node} {children : List Node}

theorem textNodesAfterOther (notText : isText node = false) (before : List Char) (rest : List Node) :
    textNodesAfter before (node :: rest) = before :: (textNodes node ++ textNodesAfter [] rest) := by
  cases node with
  | text => cases notText
  | element | comment | instruction => rfl

theorem commandsAfterOther (notText : isText node = false) (before : List Char) (rest : List Node) :
    commandsAfter before (node :: rest) =
      commandsIn before ++ (commandsOf node ++ commandsAfter [] rest) := by
  rw [commandsAfter, textNodesAfterOther notText, List.flatMap_cons, List.flatMap_append]
  rfl

theorem leadingTextOther (notText : isText node = false) (rest : List Node) :
    leadingText (node :: rest) = [] := by
  cases node with
  | text => cases notText
  | element | comment | instruction => rfl

/-- A command between texts does not depend on what follows. -/
theorem commandsAfterEnclosed (bare : NoBrace inside) (front back : List Char) (children : List Node) :
    commandsAfter (front ++ '\x7b' :: (inside ++ '\x7d' :: back)) children =
      commandsIn front ++ inside :: commandsAfter back children := by
  induction children generalizing back with
  | nil =>
      simp only [commandsAfter, textNodesAfter, List.flatMap_singleton]
      exact commandsEnclosed bare none front back
  | cons node rest inductionHypothesis =>
      cases isText : isText node with
      | true =>
          cases node with
          | text content =>
              have step := inductionHypothesis (back ++ content)
              simp only [commandsAfter, textNodesAfter] at step ⊢
              simpa using step
          | element | comment | instruction => exact nomatch isText
      | false =>
          rw [commandsAfterOther isText, commandsAfterOther isText, commandsIn,
            commandsEnclosed bare]
          simp [commandsIn]

end

/-! ### Texts of runs -/

mutual

/-- These are the texts that runs begin with. -/
def runTexts : Node → List (List Char)
  | .element heading children =>
      (if Kind.ofHeading heading = .run then [leadingText children] else []) ++ runTextsAll children
  | _ => []

def runTextsAll : List Node → List (List Char)
  | [] => []
  | node :: rest => runTexts node ++ runTextsAll rest

end

mutual

/-- These are the texts that no run begins with. -/
def strayTexts : Node → List (List Char)
  | .element heading children => strayTextsAll (Kind.ofHeading heading = .run) children
  | _ => []

/-- The texts that lead the children of a run belong to it. -/
def strayTextsAll (isLeading : Bool) : List Node → List (List Char)
  | [] => []
  | .text content :: rest =>
      (if isLeading then [] else [content]) ++ strayTextsAll isLeading rest
  | node :: rest => strayTexts node ++ strayTextsAll false rest

end

def BracesInRuns (node : Node) : Prop := ∀ text ∈ strayTexts node, NoBrace text

instance (node : Node) : Decidable (BracesInRuns node) :=
  inferInstanceAs (Decidable (∀ text ∈ strayTexts node, ∀ character ∈ text, isBrace character = false))

section

variable {before text : List Char} {node : Node} {children : List Node} {isLeading : Bool}

theorem runTextsAllFlatMap (nodes : List Node) : runTextsAll nodes = nodes.flatMap runTexts := by
  induction nodes with
  | nil => rw [runTextsAll, List.flatMap_nil]
  | cons node rest inductionHypothesis =>
      rw [runTextsAll, List.flatMap_cons, inductionHypothesis]

theorem strayTextsOther (notText : isText node = false) (isLeading : Bool) (rest : List Node) :
    strayTextsAll isLeading (node :: rest) = strayTexts node ++ strayTextsAll false rest := by
  cases node with
  | text => exact nomatch notText
  | element | comment | instruction => rfl

theorem runTextFlatten (node : Node) : runText node = (runTexts node).flatten := by
  induction node using nodeInduction with
  | element heading children inductionHypothesis =>
      have inChildren : runTextAll children = (runTextsAll children).flatten := by
        rw [runTextAllFlatMap, runTextsAllFlatMap, List.flatMap_def, List.flatMap_def, List.flatten_flatten,
          List.map_map]
        exact congrArg List.flatten (List.map_congr_left inductionHypothesis)
      rw [runText, runTexts, List.flatten_append, inChildren]
      split <;> simp
  | text | comment | instruction => rfl

/-- Commands that no stray text holds are those of the runs, and of the text that leads a run. -/
theorem commandsOfChildren
    (each : ∀ child ∈ children, BracesInRuns child → commandsOf child = (runTexts child).flatMap commandsIn)
    (bare : ∀ text ∈ strayTextsAll isLeading children, NoBrace text)
    (before : List Char) (bareBefore : isLeading = false → NoBrace before) :
    commandsAfter before children =
      (if isLeading then commandsIn (before ++ leadingText children) else []) ++
        (runTextsAll children).flatMap commandsIn := by
  induction children generalizing before isLeading with
  | nil =>
      cases isLeading with
      | true => simp [commandsAfter, textNodesAfter, runTextsAll, leadingText]
      | false => simp [commandsAfter, textNodesAfter, runTextsAll, commandsInBare (bareBefore rfl)]
  | cons child rest inductionHypothesis =>
      obtain ⟨ofChild, eachRest⟩ := List.forall_mem_cons.1 each
      cases isText : isText child with
      | true =>
          cases child with
          | text content =>
              rw [strayTextsAll, List.forall_mem_append] at bare
              have step := inductionHypothesis eachRest bare.2 (before ++ content)
                (fun stray => noBraceAppend.2 ⟨bareBefore stray, bare.1 content (by simp [stray])⟩)
              simpa [commandsAfter, textNodesAfter, leadingText, runTextsAll, runTexts] using step
          | element | comment | instruction => cases isText
      | false =>
          rw [strayTextsOther isText, List.forall_mem_append] at bare
          have step := inductionHypothesis eachRest bare.2 [] (fun _ => noBraceNil)
          rw [commandsAfterOther isText, ofChild bare.1, step, leadingTextOther isText, runTextsAll, List.flatMap_append,
            List.append_nil]
          cases isLeading with
          | true => simp
          | false => simp [commandsInBare (bareBefore rfl)]

/-- When braces stand in the texts of runs only, the commands are those of the runs. -/
theorem commandsOfRuns (bare : BracesInRuns node) :
    commandsOf node = (runTexts node).flatMap commandsIn := by
  induction node using nodeInduction with
  | element heading children inductionHypothesis =>
      have ofChildren := commandsOfChildren inductionHypothesis bare [] fun _ => noBraceNil
      rw [commandsOf, textNodes]
      refine ofChildren.trans ?_
      by_cases isRun : Kind.ofHeading heading = .run <;> simp [runTexts, isRun]
  | text | comment | instruction => rfl

end

end Letterpress.Part
