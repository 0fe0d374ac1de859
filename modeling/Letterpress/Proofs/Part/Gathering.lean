import Letterpress.Proofs.Part.Holding

/-!
This file shows that gathering commands changes nothing but the runs of a document. The text of each
paragraph stays the same, and afterwards every command of it lies in one run.
-/

namespace Letterpress.Part

open Markup

/-! ### Runs -/

/-- A run has a heading and the text that it begins with. -/
structure Run where
  heading : Heading
  text : List Char

/-- A run gets its share. -/
def Share.applyTo (share : Share) (run : Run) : Run :=
  ⟨if share.isPreserved then preserveSpace run.heading else run.heading, share.text.getD run.text⟩

/-- Shares are handed out to runs in order. -/
def handOut : List Share → List Run → List Run
  | share :: shares, run :: runs => share.applyTo run :: handOut shares runs
  | _, runs => runs

/-- A run without a share keeps everything. -/
def Share.keeping : Share := ⟨none, false⟩

@[simp] theorem handOutNoRuns (shares : List Share) : handOut shares [] = [] := by
  cases shares <;> rfl

theorem handOutCons (shares : List Share) (run : Run) (runs : List Run) :
    handOut shares (run :: runs) =
      (shares.headD .keeping).applyTo run :: handOut shares.tail runs := by
  cases shares with
  | nil => cases runs <;> rfl
  | cons share others => rfl

def paragraphText (runs : List Run) : List Char := runs.flatMap Run.text

/-- These are the shares that belong to runs. -/
def sharing (runs : List Run) : Sharing := share (runs.map Run.text)

/-- Every command in the text of a paragraph lies in one run, which preserves blanks. -/
def CommandsGathered (runs : List Run) : Prop :=
  ∀ front inside back, paragraphText runs = front ++ '\x7b' :: (inside ++ '\x7d' :: back) →
    NoBrace inside →
    ∃ earlier run later left right, runs = earlier ++ run :: later ∧
      front = paragraphText earlier ++ left ∧
      run.text = left ++ '\x7b' :: (inside ++ '\x7d' :: right) ∧
      back = right ++ paragraphText later ∧ preserving ∈ run.heading.attributes

section

variable {run : Run} {runs : List Run}

theorem paragraphTextCons (run : Run) (runs : List Run) :
    paragraphText (run :: runs) = run.text ++ paragraphText runs := List.flatMap_cons

theorem preservingOfPreserved (heading : Heading) :
    preserving ∈ (preserveSpace heading).attributes := by
  unfold preserveSpace
  split
  case isTrue hasSpace =>
    obtain ⟨found, isFound, isSpace⟩ := List.any_eq_true.1 hasSpace
    exact List.mem_map.2 ⟨found, isFound, if_pos (of_decide_eq_true isSpace)⟩
  case isFalse => exact List.mem_append_right _ (List.mem_singleton_self _)

/-- An opening brace that no other follows leaves a command open. -/
theorem leavesOpenOfOpening {left right : List Char} (noBrace : NoBrace right) :
    leavesOpen (left ++ '\x7b' :: right) = true := by
  simp [leavesOpen, List.filter_append, isBrace, bracesOfBare noBrace]

theorem openingOfOpen {text : List Char} (isOpen : leavesOpen text = true) : '\x7b' ∈ text :=
  (List.mem_filter.1 (List.mem_of_getLast? (of_decide_eq_true isOpen))).1

theorem leavesOpenOfClosing {text : List Char} (closing : text.getLast? = some '\x7d') :
    leavesOpen text = false := by
  obtain ⟨front, rfl⟩ := List.getLast?_eq_some_iff.1 closing
  simp [leavesOpen, List.filter_append, isBrace]

/-- Commands are gathered if those of the other runs are and none reaches over the end of the first
run. -/
theorem gatheredCons (isPreserved : '\x7b' ∈ run.text → preserving ∈ run.heading.attributes)
    (ends : leavesOpen run.text = false ∨ paragraphText runs = [])
    (gathered : CommandsGathered runs) : CommandsGathered (run :: runs) := by
  intro front inside back same noBrace
  have later (middle : List Char) (isFront : front = run.text ++ middle)
      (rest : paragraphText runs = middle ++ '\x7b' :: (inside ++ '\x7d' :: back)) :
      ∃ earlier other later left right, run :: runs = earlier ++ other :: later ∧
        front = paragraphText earlier ++ left ∧
        other.text = left ++ '\x7b' :: (inside ++ '\x7d' :: right) ∧
        back = right ++ paragraphText later ∧ preserving ∈ other.heading.attributes := by
    obtain ⟨earlier, other, later, left, right, rfl, rfl, isText, isBack, preserves⟩ :=
      gathered middle inside back rest noBrace
    refine ⟨run :: earlier, other, later, left, right, rfl, ?_, isText, isBack, preserves⟩
    rw [isFront, paragraphTextCons, List.append_assoc]
  rw [paragraphTextCons] at same
  rcases List.append_eq_append_iff.1 same with ⟨middle, isFront, rest⟩ | ⟨middle, isText, rest⟩
  · exact later middle isFront rest
  cases middle with
  | nil =>
      rw [List.append_nil] at isText
      exact later [] (by rw [isText, List.append_nil]) rest.symm
  | cons opening middle =>
      obtain ⟨rfl, same⟩ := List.cons.inj (rest.trans (List.cons_append ..))
      -- A run that ends inside of the command would leave it open.
      have ended (noBrace : NoBrace middle) : paragraphText runs = [] := by
        rcases ends with ends | isEmpty
        · rw [isText, leavesOpenOfOpening noBrace] at ends
          cases ends
        · exact isEmpty
      rcases List.append_eq_append_iff.1 same with ⟨rest, isMiddle, isBack⟩ | ⟨rest, isInside, isRest⟩
      · cases rest with
        | nil =>
            rw [List.append_nil] at isMiddle
            rw [ended (isMiddle ▸ noBrace)] at isBack
            cases isBack
        | cons closing right =>
            obtain ⟨rfl, atEnd⟩ := List.cons.inj (isBack.trans (List.cons_append ..))
            refine ⟨[], run, runs, front, right, rfl, rfl, isMiddle ▸ isText, atEnd, isPreserved ?_⟩
            rw [isText]
            exact List.mem_append_right _ List.mem_cons_self
      · rw [ended (noBraceAppend.1 (isInside ▸ noBrace)).1] at isRest
        simp at isRest

theorem gatheredNil : CommandsGathered [] := by
  intro front inside back same
  simp [paragraphText] at same

end

/-! ### Shares -/

theorem applyPreserves {share : Share} {run : Run} (isPreserved : share.isPreserved = true) :
    preserving ∈ (share.applyTo run).heading.attributes := by
  rw [Share.applyTo, if_pos isPreserved]
  exact preservingOfPreserved _

/-- What runs get after some text depends on whether a command is open there. The text that an open
command takes over ends with its closing brace, or else nothing is left of the runs. -/
structure SharesGather (runs : List Run) : Prop where
  closedText : paragraphText (handOut (sharing runs).closed runs) = paragraphText runs
  openedText : (sharing runs).taken ++ paragraphText (handOut (sharing runs).opened runs) =
    paragraphText runs
  closed : CommandsGathered (handOut (sharing runs).closed runs)
  opened : CommandsGathered (handOut (sharing runs).opened runs)
  ends : (sharing runs).taken.getLast? = some '\x7d' ∨
    paragraphText (handOut (sharing runs).opened runs) = []

section

variable {run : Run} {runs : List Run} {text : List Char} {isChanged : Bool}

/-- A run keeps its own text unless it gets another one. -/
theorem textOfApplied (isOwn : isChanged = false → run.text = text) (isPreserved : Bool) :
    (Share.applyTo ⟨if isChanged then some text else none, isPreserved⟩ run).text = text := by
  cases isChanged with
  | false => exact isOwn rfl
  | true => rfl

theorem settleText (gathers : SharesGather runs) (isOwn : isChanged = false → run.text = text) :
    paragraphText (handOut (settle text isChanged (sharing runs)) (run :: runs)) =
      text ++ paragraphText runs := by
  unfold settle
  split
  · rw [handOut, paragraphTextCons, ← gathers.openedText, ← List.append_assoc]
    rfl
  · rw [handOut, paragraphTextCons, gathers.closedText, textOfApplied isOwn]

theorem settleGathers (gathers : SharesGather runs) (isOwn : isChanged = false → run.text = text) :
    CommandsGathered (handOut (settle text isChanged (sharing runs)) (run :: runs)) := by
  unfold settle
  split
  case isTrue isOpen =>
    have isPreserved : text.contains '\x7b' = true := List.contains_iff_mem.2 (openingOfOpen isOpen)
    refine gatheredCons (fun _ => applyPreserves isPreserved) ?_ gathers.opened
    refine gathers.ends.imp_left fun closing => ?_
    change leavesOpen (text ++ (sharing runs).taken) = false
    exact leavesOpenOfClosing (by rw [List.getLast?_append, closing, Option.some_or])
  case isFalse isClosed =>
    refine gatheredCons (fun hasOpening => applyPreserves ?_) (.inl ?_) gathers.closed
    · rw [textOfApplied isOwn] at hasOpening
      exact List.contains_iff_mem.2 hasOpening
    · rw [textOfApplied isOwn]
      exact Bool.eq_false_iff.2 isClosed

/-- A run inside of an open command is left with nothing. -/
theorem sharingInside (runs : List Run) (notClosing : splitClosing? run.text = none) :
    sharing (run :: runs) =
      ⟨settle run.text false (sharing runs), run.text ++ (sharing runs).taken,
        ⟨some [], false⟩ :: (sharing runs).opened⟩ := by
  rw [sharing, List.map_cons, share]
  simp only [notClosing, sharing]

/-- A run that closes an open command keeps what comes after it. -/
theorem sharingClosing {taken left : List Char} (runs : List Run)
    (isSplit : splitClosing? run.text = some (taken, left)) :
    sharing (run :: runs) =
      ⟨settle run.text false (sharing runs), taken, settle left true (sharing runs)⟩ := by
  rw [sharing, List.map_cons, share]
  simp only [isSplit, sharing]

theorem sharesGather (runs : List Run) : SharesGather runs := by
  induction runs with
  | nil => exact ⟨rfl, rfl, gatheredNil, gatheredNil, .inr rfl⟩
  | cons run runs gathers =>
      have keepsText (_ : false = false) : run.text = run.text := rfl
      have closedText := settleText gathers keepsText
      have closed := settleGathers gathers keepsText
      cases split : splitClosing? run.text with
      | none =>
          have unfolded := sharingInside runs split
          have emptied (runs : List Run) : paragraphText
              (handOut (⟨some [], false⟩ :: (sharing runs).opened) (run :: runs)) =
                paragraphText (handOut (sharing runs).opened runs) := rfl
          constructor <;> rw [unfolded]
          · exact closedText
          · rw [emptied, List.append_assoc, gathers.openedText, paragraphTextCons]
          · exact closed
          · have noOpening {run : Run} : '\x7b' ∉ (Share.applyTo ⟨some [], false⟩ run).text :=
              List.not_mem_nil
            exact gatheredCons (fun hasOpening => absurd hasOpening noOpening) (.inl rfl) gathers.opened
          · rw [emptied]
            refine gathers.ends.imp_left fun closing => ?_
            rw [List.getLast?_append, closing, Option.some_or]
      | some parts =>
          obtain ⟨taken, left⟩ := parts
          have unfolded := sharingClosing runs split
          have leftOver (isChanged : true = false) : run.text = left :=
            absurd isChanged.symm Bool.false_ne_true
          constructor <;> rw [unfolded]
          · exact closedText
          · rw [settleText gathers leftOver, ← List.append_assoc, ← (splitClosingParts split).1,
              paragraphTextCons]
          · exact closed
          · exact settleGathers gathers leftOver
          · exact .inl (splitClosingParts split).2

end

/-! ### Trees -/

mutual

/-- These are the runs that lie in no paragraph inside. -/
def ownRuns : Node → List Run
  | .element heading children =>
      match Kind.ofHeading heading with
      | .paragraph => []
      | .run => ⟨heading, leadingText children⟩ :: ownRunsAll children
      | _ => ownRunsAll children
  | _ => []

def ownRunsAll : List Node → List Run
  | [] => []
  | node :: rest => ownRuns node ++ ownRunsAll rest

end

mutual

/-- These are the runs of each paragraph. A run belongs to the innermost paragraph around it. -/
def paragraphs : Node → List (List Run)
  | .element heading children =>
      if Kind.ofHeading heading = .paragraph then ownRunsAll children :: paragraphsAll children
      else paragraphsAll children
  | _ => []

def paragraphsAll : List Node → List (List Run)
  | [] => []
  | node :: rest => paragraphs node ++ paragraphsAll rest

end

/-- A heading without the attribute for blanks. -/
def withoutSpace (heading : Heading) : Heading :=
  { heading with attributes := heading.attributes.filter fun found => found.name ≠ spaceName }

mutual

/-- This takes from every run the text that it begins with and the attribute for blanks. -/
def withoutRuns : Node → Node
  | .element heading children =>
      if Kind.ofHeading heading = .run then
        .element (withoutSpace heading) (dropLeadingText (withoutRunsAll children))
      else .element heading (withoutRunsAll children)
  | node => node

def withoutRunsAll : List Node → List Node
  | [] => []
  | node :: rest => withoutRuns node :: withoutRunsAll rest

end

/-- What holds of an element if it holds of its children holds of all nodes. -/
theorem nodeInduction {property : Node → Prop}
    (element : ∀ heading children, (∀ child ∈ children, property child) →
      property (.element heading children))
    (text : ∀ content, property (.text content))
    (comment : ∀ content, property (.comment content))
    (instruction : ∀ target content, property (.instruction target content)) :
    ∀ node, property node :=
  Node.rec (motive_1 := property) (motive_2 := fun children => ∀ child ∈ children, property child)
    element text comment instruction (List.forall_mem_nil _)
    fun _ _ first rest => List.forall_mem_cons.2 ⟨first, rest⟩

section

variable {heading : Heading} {children : List Node} {shares : List Share}

/-! ### One element -/

theorem gatherParagraph (isParagraph : Kind.ofHeading heading = .paragraph) (shares : List Share)
    (children : List Node) :
    gather shares (.element heading children) =
      (.element heading (gatherAll (share (ownTextsAll children)).closed children).1, shares) := by
  rw [gather.eq_def]
  simp only [isParagraph]

theorem gatherRun (isRun : Kind.ofHeading heading = .run) (shares : List Share)
    (children : List Node) :
    gather shares (.element heading children) =
      ((shares.headD .keeping).apply heading (gatherAll shares.tail children).1,
        (gatherAll shares.tail children).2) := by
  rw [gather.eq_def]
  simp only [isRun]
  cases shares <;> rfl

theorem gatherOther (notParagraph : Kind.ofHeading heading ≠ .paragraph)
    (notRun : Kind.ofHeading heading ≠ .run) (shares : List Share) (children : List Node) :
    gather shares (.element heading children) =
      (.element heading (gatherAll shares children).1, (gatherAll shares children).2) := by
  rw [gather.eq_def]
  dsimp only
  split
  · contradiction
  · contradiction
  · rfl

/-- A gathered element is an element of the same kind. -/
theorem gatheredIsElement (shares : List Share) (heading : Heading) (children : List Node) :
    ∃ after inner, (gather shares (.element heading children)).1 = .element after inner := by
  rw [gather.eq_def]
  dsimp only
  split
  · exact ⟨_, _, rfl⟩
  · split <;> exact ⟨_, _, rfl⟩
  · exact ⟨_, _, rfl⟩

theorem leadingTextGathered (shares : List Share) (children : List Node) :
    leadingText (gatherAll shares children).1 = leadingText children := by
  induction children generalizing shares with
  | nil => rw [gatherAll]
  | cons child rest inductionHypothesis =>
      rw [gatherAll]
      cases child with
      | element heading inner =>
          obtain ⟨after, others, isElement⟩ := gatheredIsElement shares heading inner
          simp only [isElement, leadingText]
      | text content => exact congrArg (content ++ ·) (inductionHypothesis shares)
      | comment content => rfl
      | instruction target content => rfl

theorem leadingTextSet (text : List Char) (children : List Node) :
    leadingText (setLeadingText text children) = text := by
  have dropped : leadingText (dropLeadingText children) = [] := by
    induction children with
    | nil => rfl
    | cons child rest inductionHypothesis =>
        cases child with
        | text content => exact inductionHypothesis
        | element | comment | instruction => rfl
  rw [setLeadingText, leadingText, dropped, List.append_nil]

/-! ### Runs of a tree -/

theorem ownRunsAllFlatMap (nodes : List Node) : ownRunsAll nodes = nodes.flatMap ownRuns := by
  induction nodes with
  | nil => rw [ownRunsAll, List.flatMap_nil]
  | cons node rest inductionHypothesis =>
      rw [ownRunsAll, List.flatMap_cons, inductionHypothesis]

/-- The leading text is no part of what other nodes give. -/
theorem flatMapSet {Part : Type} (parts : Node → List Part)
    (ofText : ∀ content, parts (.text content) = []) (text : List Char) (nodes : List Node) :
    (setLeadingText text nodes).flatMap parts = nodes.flatMap parts := by
  have dropped : (dropLeadingText nodes).flatMap parts = nodes.flatMap parts := by
    induction nodes with
    | nil => rfl
    | cons node rest inductionHypothesis =>
        cases node with
        | text content =>
            rw [List.flatMap_cons, ofText, List.nil_append]
            exact inductionHypothesis
        | element | comment | instruction => rfl
  rw [setLeadingText, List.flatMap_cons, ofText, List.nil_append, dropped]

theorem ownTextsOfRuns (node : Node) : ownTexts node = (ownRuns node).map Run.text := by
  induction node using nodeInduction with
  | element heading children inductionHypothesis =>
      have inChildren : ownTextsAll children = (ownRunsAll children).map Run.text := by
        rw [ownTextsAllFlatMap, ownRunsAllFlatMap, List.map_flatMap]
        exact List.flatMap_congr inductionHypothesis
      cases kind : Kind.ofHeading heading <;> simp [ownTexts, ownRuns, kind, inChildren]
  | text | comment | instruction => rfl

theorem ownTextsAllOfRuns (nodes : List Node) :
    ownTextsAll nodes = (ownRunsAll nodes).map Run.text := by
  rw [ownTextsAllFlatMap, ownRunsAllFlatMap, List.map_flatMap]
  exact List.flatMap_congr fun node _ => ownTextsOfRuns node

theorem handOutAppend (shares : List Share) (runs more : List Run) :
    handOut shares (runs ++ more) =
      handOut shares runs ++ handOut (shares.drop runs.length) more := by
  induction runs generalizing shares with
  | nil => rw [handOutNoRuns, List.nil_append, List.nil_append, List.length_nil, List.drop_zero]
  | cons run rest inductionHypothesis =>
      rw [List.cons_append, handOutCons, handOutCons, inductionHypothesis, List.drop_tail]
      rfl

/-- The runs of nodes get the first shares, and the others are left. -/
structure HandsOut (shares : List Share) (runs gathered : List Run) (left : List Share) : Prop where
  gathered : gathered = handOut shares runs
  left : left = shares.drop runs.length

theorem gatherAllHandsOut
    (each : ∀ child ∈ children, ∀ shares,
      HandsOut shares (ownRuns child) (ownRuns (gather shares child).1) (gather shares child).2)
    (shares : List Share) :
    HandsOut shares (ownRunsAll children) (ownRunsAll (gatherAll shares children).1)
      (gatherAll shares children).2 := by
  induction children generalizing shares with
  | nil =>
      rw [gatherAll, ownRunsAll]
      exact ⟨(handOutNoRuns shares).symm, rfl⟩
  | cons child rest inductionHypothesis =>
      obtain ⟨ofChild, eachRest⟩ := List.forall_mem_cons.1 each
      obtain ⟨gathered, left⟩ := ofChild shares
      obtain ⟨gatheredRest, leftRest⟩ := inductionHypothesis eachRest (gather shares child).2
      rw [gatherAll]
      constructor
      · rw [ownRunsAll, ownRunsAll, handOutAppend, gathered, gatheredRest, left]
      · rw [leftRest, left, ownRunsAll, List.length_append, List.drop_drop]

/-- A run that gets its share is a run. -/
theorem appliedKind (share : Share) (heading : Heading) :
    Kind.ofHeading (if share.isPreserved then preserveSpace heading else heading) =
      Kind.ofHeading heading := by
  split
  · exact preservedKind heading
  · rfl

theorem ownRunsApplied (isRun : Kind.ofHeading heading = .run) (share : Share) (inner : List Node) :
    ownRuns (share.apply heading inner) =
      share.applyTo ⟨heading, leadingText inner⟩ :: ownRunsAll inner := by
  rw [Share.apply, ownRuns, appliedKind, isRun, Share.applyTo]
  cases share.text with
  | none => rfl
  | some text =>
      simp only [leadingTextSet, ownRunsAllFlatMap, flatMapSet ownRuns (fun _ => rfl),
        Option.getD_some]

theorem ownRunsOfRun (isRun : Kind.ofHeading heading = .run) (children : List Node) :
    ownRuns (.element heading children) = ⟨heading, leadingText children⟩ :: ownRunsAll children := by
  simp only [ownRuns, isRun]

theorem ownRunsOfOther (notParagraph : Kind.ofHeading heading ≠ .paragraph)
    (notRun : Kind.ofHeading heading ≠ .run) (children : List Node) :
    ownRuns (.element heading children) = ownRunsAll children := by
  rw [ownRuns]
  split
  · contradiction
  · contradiction
  · rfl

theorem gatherHandsOut (node : Node) : ∀ shares,
    HandsOut shares (ownRuns node) (ownRuns (gather shares node).1) (gather shares node).2 := by
  induction node using nodeInduction with
  | element heading children inductionHypothesis =>
      intro shares
      have inChildren := gatherAllHandsOut inductionHypothesis
      by_cases isParagraph : Kind.ofHeading heading = .paragraph
      · rw [gatherParagraph isParagraph]
        simp only [ownRuns, isParagraph]
        exact ⟨(handOutNoRuns shares).symm, rfl⟩
      by_cases isRun : Kind.ofHeading heading = .run
      · obtain ⟨gathered, left⟩ := inChildren shares.tail
        rw [gatherRun isRun, ownRunsApplied isRun, ownRunsOfRun isRun, leadingTextGathered]
        exact ⟨by rw [gathered, handOutCons], by rw [left, List.drop_tail, List.length_cons]⟩
      · rw [gatherOther isParagraph isRun, ownRunsOfOther isParagraph isRun,
          ownRunsOfOther isParagraph isRun]
        exact inChildren shares
  | text | comment | instruction => exact fun shares => ⟨(handOutNoRuns shares).symm, rfl⟩

/-! ### Paragraphs -/

theorem paragraphsAllFlatMap (nodes : List Node) : paragraphsAll nodes = nodes.flatMap paragraphs := by
  induction nodes with
  | nil => rw [paragraphsAll, List.flatMap_nil]
  | cons node rest inductionHypothesis =>
      rw [paragraphsAll, List.flatMap_cons, inductionHypothesis]

theorem withoutRunsAllMap (nodes : List Node) : withoutRunsAll nodes = nodes.map withoutRuns := by
  induction nodes with
  | nil => rw [withoutRunsAll, List.map_nil]
  | cons node rest inductionHypothesis =>
      rw [withoutRunsAll, List.map_cons, inductionHypothesis]

/-- Each node of a list is gathered with the shares that are left for it. -/
theorem gatherAllMap {Image : Type} {view image : Node → Image}
    (each : ∀ child ∈ children, ∀ shares, view (gather shares child).1 = image child)
    (shares : List Share) : (gatherAll shares children).1.map view = children.map image := by
  induction children generalizing shares with
  | nil => rw [gatherAll, List.map_nil, List.map_nil]
  | cons child rest inductionHypothesis =>
      obtain ⟨ofChild, eachRest⟩ := List.forall_mem_cons.1 each
      rw [gatherAll, List.map_cons, List.map_cons, ofChild, inductionHypothesis eachRest]

/-- The paragraphs of a run are those of its children, whatever it begins with. -/
theorem paragraphsApplied (isRun : Kind.ofHeading heading = .run) (share : Share)
    (inner : List Node) : paragraphs (share.apply heading inner) = paragraphsAll inner := by
  rw [Share.apply, paragraphs, appliedKind, isRun, if_neg (by decide)]
  cases share.text with
  | none => rfl
  | some text => simp only [paragraphsAllFlatMap, flatMapSet paragraphs (fun _ => rfl)]

theorem gatherParagraphs (node : Node) : ∀ shares,
    paragraphs (gather shares node).1 =
      (paragraphs node).map fun runs => handOut (sharing runs).closed runs := by
  induction node using nodeInduction with
  | element heading children inductionHypothesis =>
      intro shares
      have inChildren (shares : List Share) : paragraphsAll (gatherAll shares children).1 =
          (paragraphsAll children).map fun runs => handOut (sharing runs).closed runs := by
        rw [paragraphsAllFlatMap, paragraphsAllFlatMap, List.map_flatMap, List.flatMap_def,
          List.flatMap_def, gatherAllMap inductionHypothesis]
      by_cases isParagraph : Kind.ofHeading heading = .paragraph
      · have handsOut := gatherAllHandsOut (fun child (_ : child ∈ children) => gatherHandsOut child)
          (share (ownTextsAll children)).closed
        rw [gatherParagraph isParagraph, paragraphs, if_pos isParagraph, paragraphs,
          if_pos isParagraph, List.map_cons, inChildren, handsOut.gathered, ownTextsAllOfRuns]
        rfl
      by_cases isRun : Kind.ofHeading heading = .run
      · rw [gatherRun isRun, paragraphsApplied isRun, inChildren, paragraphs, if_neg isParagraph]
      · rw [gatherOther isParagraph isRun, paragraphs, if_neg isParagraph, inChildren, paragraphs,
          if_neg isParagraph]
  | text | comment | instruction => exact fun _ => rfl

/-! ### Everything else -/

theorem withoutSpacePreserved (heading : Heading) :
    withoutSpace (preserveSpace heading) = withoutSpace heading := by
  have isDropped {found : Attribute} (isSpace : found.name = spaceName) (rest : List Attribute) :
      (found :: rest).filter (fun found => found.name ≠ spaceName) =
        rest.filter fun found => found.name ≠ spaceName :=
    List.filter_cons_of_neg (by simpa using isSpace)
  unfold preserveSpace withoutSpace
  dsimp only
  split
  · refine congrArg (Heading.mk _ _ _) ?_
    dsimp only
    induction heading.attributes with
    | nil => rfl
    | cons found rest inductionHypothesis =>
        rw [List.map_cons]
        by_cases isSpace : found.name = spaceName
        · rw [if_pos isSpace, isDropped rfl, isDropped isSpace, inductionHypothesis]
        · rw [if_neg isSpace, List.filter_cons, List.filter_cons, inductionHypothesis]
  · refine congrArg (Heading.mk _ _ _) ?_
    rw [List.filter_append, isDropped rfl, List.filter_nil, List.append_nil]

/-- Setting the leading text leaves nothing else changed. -/
theorem dropLeadingSet (text : List Char) (nodes : List Node) :
    dropLeadingText ((setLeadingText text nodes).map withoutRuns) =
      dropLeadingText (nodes.map withoutRuns) := by
  have dropped : dropLeadingText ((dropLeadingText nodes).map withoutRuns) =
      dropLeadingText (nodes.map withoutRuns) := by
    induction nodes with
    | nil => rfl
    | cons node rest inductionHypothesis =>
        cases node with
        | text content => exact inductionHypothesis
        | element | comment | instruction => rfl
  exact dropped

/-- A run and what it becomes by its share differ in text and in the attribute for blanks alone. -/
theorem withoutApplied (isRun : Kind.ofHeading heading = .run) (share : Share)
    (inner : List Node) :
    withoutRuns (share.apply heading inner) =
      .element (withoutSpace heading) (dropLeadingText (withoutRunsAll inner)) := by
  rw [Share.apply, withoutRuns, appliedKind, if_pos isRun]
  congr 1
  · split
    · exact withoutSpacePreserved heading
    · rfl
  · cases share.text with
    | none => rfl
    | some text =>
        rw [withoutRunsAllMap, withoutRunsAllMap]
        exact dropLeadingSet text _

theorem gatherWithoutRuns (node : Node) : ∀ shares,
    withoutRuns (gather shares node).1 = withoutRuns node := by
  induction node using nodeInduction with
  | element heading children inductionHypothesis =>
      intro shares
      have inChildren (shares : List Share) :
          withoutRunsAll (gatherAll shares children).1 = withoutRunsAll children := by
        rw [withoutRunsAllMap, withoutRunsAllMap, gatherAllMap inductionHypothesis]
      by_cases isRun : Kind.ofHeading heading = .run
      · rw [gatherRun isRun, withoutApplied isRun, withoutRuns, if_pos isRun, inChildren]
      by_cases isParagraph : Kind.ofHeading heading = .paragraph
      · rw [gatherParagraph isParagraph, withoutRuns, withoutRuns, inChildren]
      · rw [gatherOther isParagraph isRun, withoutRuns, withoutRuns, inChildren]
  | text | comment | instruction => exact fun _ => rfl

end

/-- Gathering changes the leading texts of runs and their attributes for blanks at most. Every
paragraph keeps its text, and every command of it lies in one run that preserves blanks. -/
theorem splitCommandsAreGathered (root : Node) :
    withoutRuns (gatherCommands root) = withoutRuns root ∧
      (paragraphs (gatherCommands root)).map paragraphText = (paragraphs root).map paragraphText ∧
      ∀ runs ∈ paragraphs (gatherCommands root), CommandsGathered runs := by
  refine ⟨gatherWithoutRuns root [], ?_, fun runs isInside => ?_⟩ <;>
    rw [gatherCommands, gatherParagraphs] at *
  · rw [List.map_map]
    exact List.map_congr_left fun runs _ => (sharesGather runs).closedText
  · obtain ⟨before, -, rfl⟩ := List.mem_map.1 isInside
    exact (sharesGather before).closed

/-- The commands of this paragraph are split over its runs. -/
def splitGreeting : Node :=
  let word (name : String) : Heading := ⟨⟨"w".toList, name.toList⟩, wordAddress, [], []⟩
  .element (word "p") (["Dear \x7bna", "me\x7d and \x7b", "o", "ther\x7d!"].map fun text =>
    .element (word "t") [.text text.toList])

/-- A run may end one command and begin the next. -/
theorem neighborsAreGathered :
    ∃ runs ∈ paragraphs (gatherCommands splitGreeting),
      runs.map Run.text = ["Dear \x7bname\x7d".toList, " and \x7bother\x7d".toList, [], "!".toList] ∧
        CommandsGathered runs := by
  have texts : (paragraphs (gatherCommands splitGreeting)).map (List.map Run.text) =
      [["Dear \x7bname\x7d".toList, " and \x7bother\x7d".toList, [], "!".toList]] := by
    decide +kernel
  obtain ⟨runs, same, texts⟩ := List.map_eq_singleton_iff.1 texts
  have isInside := same ▸ List.mem_singleton_self runs
  exact ⟨runs, isInside, texts, (splitCommandsAreGathered _).2.2 runs isInside⟩

end Letterpress.Part
