import Letterpress.Proofs.Part.CommandText
import Letterpress.Proofs.Part.Place

/-!
This file compares the commands of a document before and after it collapses. A row or a paragraph is
replaced by the text of its runs, which may join a command that lies in several runs, and which leaves
out the rows that have collapsed inside before.
-/

namespace Letterpress.Part

open Markup

/-! ### What is replaced -/

/-- An element is replaced if a text takes its place. -/
def IsReplaced (before after : Node) (place : List Nat) (element : Node) : Prop :=
  (∃ heading children, element = .element heading children) ∧ nodeAt place before = some element ∧
    ∃ content, nodeAt place after = some (.text content)

/-- One of the runs has both braces of the command. -/
def IsWhole (element : Node) : Prop :=
  ∃ text ∈ runTexts element, '\x7b' ∈ text ∧ '\x7d' ∈ text

section

variable {text : List Char} {node : Node}

/-- A structural text has one command, which is kept when the text is stripped. -/
theorem structuralCommand (structural : isStructural text = true) :
    ∃ inside, NoBrace inside ∧ commandsIn text = [inside] ∧
      Text.stripList text = '\x7b' :: (inside ++ ['\x7d']) := by
  obtain ⟨front, inside, back, rfl, blankFront, blankBack, bare, -⟩ := structuralIff.1 structural
  refine ⟨inside, bare, ?_, stripAround blankFront blankBack⟩
  rw [commandsIn, commandsEnclosed bare]
  change commandsIn front ++ inside :: commandsIn back = [inside]
  rw [commandsInBare (blanksNoBrace blankFront), commandsInBare (blanksNoBrace blankBack),
    List.nil_append]

theorem leadingTextNode (before : List Char) (children : List Node) :
    ∃ rest, textNodesAfter before children = (before ++ leadingText children) :: rest ∧
      children.flatMap textNodes ⊆ rest := by
  induction children generalizing before with
  | nil => exact ⟨[], by simp [textNodesAfter, leadingText], by simp⟩
  | cons child others inductionHypothesis =>
      cases isText : isText child with
      | true =>
          cases child with
          | text content =>
              obtain ⟨rest, same, included⟩ := inductionHypothesis (before ++ content)
              exact ⟨rest, by simp [textNodesAfter, leadingText, same], by simpa [textNodes] using included⟩
          | element | comment | instruction => cases isText
      | false =>
          obtain ⟨rest, same, included⟩ := inductionHypothesis []
          refine ⟨_, by rw [textNodesAfterOther isText, leadingTextOther isText, List.append_nil], ?_⟩
          rw [List.flatMap_cons, same]
          exact List.append_subset.2 ⟨List.subset_append_left .., fun text isInside =>
            List.mem_append_right _ (List.mem_cons_of_mem _ (included isInside))⟩

/-- The text that a run begins with is a text of its own. -/
theorem runTextIsTextNode (node : Node) : runTexts node ⊆ textNodes node := by
  induction node using nodeInduction with
  | element heading children inductionHypothesis =>
      obtain ⟨rest, same, included⟩ := leadingTextNode [] children
      intro text isInside
      rw [textNodes, same]
      rw [runTexts, runTextsAllFlatMap] at isInside
      rcases List.mem_append.1 isInside with isLeading | isInside
      · split at isLeading
        case isTrue => exact List.mem_cons.2 (.inl (List.mem_singleton.1 isLeading))
        case isFalse => exact absurd isLeading List.not_mem_nil
      · obtain ⟨child, isChild, isInside⟩ := List.mem_flatMap.1 isInside
        exact List.mem_cons_of_mem _ (included (List.mem_flatMap.2
          ⟨child, isChild, inductionHypothesis child isChild isInside⟩))
  | text | comment | instruction => exact List.nil_subset _

/-- A command between the braces of one part of a text lies in that part. -/
theorem commandInPart {before part after front inside back : List Char}
    (same : before ++ (part ++ after) = front ++ '\x7b' :: (inside ++ '\x7d' :: back))
    (bareFront : NoBrace front) (bare : NoBrace inside) (bareBack : NoBrace back)
    (opens : '\x7b' ∈ part) (closes : '\x7d' ∈ part) : inside ∈ commandsIn part := by
  obtain ⟨left, right, rfl⟩ := List.append_of_mem opens
  have notOpening : '\x7b' ∉ inside ++ '\x7d' :: back := by
    simp [noOpening bare, noOpening bareBack]
  have atOpening : front ++ '\x7b' :: (inside ++ '\x7d' :: back) =
      (before ++ left) ++ '\x7b' :: (right ++ after) := by
    simpa using same.symm
  obtain ⟨rfl, -, rest⟩ :=
    (List.append_cons_inj_of_notMem (noOpening bareFront) notOpening).1 atOpening
  have closesRight : '\x7d' ∈ right := by
    have notLeft : '\x7d' ∉ left := noClosing (noBraceAppend.1 bareFront).2
    simpa [notLeft] using closes
  obtain ⟨code, others, rfl⟩ := List.append_of_mem closesRight
  have atClosing : inside ++ '\x7d' :: back = code ++ '\x7d' :: (others ++ after) := by simpa using rest
  obtain ⟨rfl, -, -⟩ := (List.append_cons_inj_of_notMem (noClosing bare) (noClosing bareBack)).1 atClosing
  rw [commandsIn, commandsEnclosed bare]
  exact List.mem_append_right _ (List.mem_cons_self ..)

/-- A structural element with a whole command has that command. -/
theorem wholeCommand (structural : isStructural (runText node) = true) (whole : IsWhole node) :
    (commandsIn (runText node)).Sublist (commandsOf node) := by
  obtain ⟨text, isText, opens, closes⟩ := whole
  obtain ⟨earlier, later, same⟩ := List.append_of_mem isText
  obtain ⟨front, inside, back, isRunText, blankFront, blankBack, bare, -⟩ := structuralIff.1 structural
  have parts : earlier.flatten ++ (text ++ later.flatten) =
      front ++ '\x7b' :: (inside ++ '\x7d' :: back) := by
    rw [← isRunText, runTextFlatten, same, List.flatten_append, List.flatten_cons]
  have isCommand := commandInPart parts (blanksNoBrace blankFront) bare (blanksNoBrace blankBack)
    opens closes
  obtain ⟨only, -, found, stripped⟩ := structuralCommand structural
  rw [isRunText, stripAround blankFront blankBack] at stripped
  obtain rfl := List.append_cancel_right (List.cons.inj stripped).2
  rw [found]
  exact List.singleton_sublist.2
    (List.mem_flatMap.2 ⟨text, runTextIsTextNode node isText, isCommand⟩)

/-- The runs of a structural element have its command, or they have none when it is not whole. -/
theorem runCommands (bare : BracesInRuns node) :
    (commandsOf node).Sublist (commandsIn (runText node)) := by
  rw [commandsOfRuns bare, runTextFlatten]
  exact commandsSublistFlatten _

end

/-! ### Passes over a document -/

/-- A comparison of commands can be made part by part. -/
structure IsComparison (compares : List (List Char) → List (List Char) → Prop) : Prop where
  same : ∀ commands, compares commands commands
  append : ∀ {before after more others}, compares before after → compares more others →
    compares (before ++ more) (after ++ others)

/-- A child is compared with its image. A text that replaces an element has the command of its runs. -/
inductive ComparesImage (compares : List (List Char) → List (List Char) → Prop) : Node → Node → Prop
  | text (content : List Char) : ComparesImage compares (.text content) (.text content)
  | kept {child image : Node} (notText : isText child = false) (notTextImage : isText image = false)
      (compared : compares (commandsOf child) (commandsOf image)) : ComparesImage compares child image
  | replaced {child : Node} {content : List Char} (notText : isText child = false)
      (structural : isStructural content = true)
      (compared : compares (commandsOf child) (commandsIn content)) :
      ComparesImage compares child (.text (Text.stripList content))

section

variable {compares : List (List Char) → List (List Char) → Prop} {children others : List Node}
  {kind : Kind} {inside : Node → Node} {images : Heading → List Node → List Node}

theorem commandsCompared (isComparison : IsComparison compares)
    (each : List.Forall₂ (ComparesImage compares) children others) (before : List Char) :
    compares (commandsAfter before children) (commandsAfter before others) := by
  induction each generalizing before with
  | nil => exact isComparison.same _
  | cons compared _ inductionHypothesis =>
      cases compared with
      | text content => exact inductionHypothesis (before ++ content)
      | kept notText notTextImage compared =>
          rw [commandsAfterOther notText, commandsAfterOther notTextImage]
          exact isComparison.append (isComparison.same _)
            (isComparison.append compared (inductionHypothesis []))
      | @replaced child content notText structural compared =>
          obtain ⟨command, bare, found, stripped⟩ := structuralCommand structural
          rw [found] at compared
          rw [commandsAfterOther notText, stripped]
          change compares _ (commandsAfter (before ++ '\x7b' :: (command ++ ['\x7d'])) _)
          rw [commandsAfterEnclosed bare]
          exact isComparison.append (isComparison.same _)
            (isComparison.append compared (inductionHypothesis []))

theorem elementOfKind {node : Node} (isKind : isOfKind kind node = true) :
    ∃ heading children, node = .element heading children := by
  cases node with
  | element heading children => exact ⟨heading, children, rfl⟩
  | text | comment | instruction => exact nomatch isKind

theorem replacedInside {heading : Heading} {index : Nat} {child image element : Node} {place : List Nat}
    (isChild : children[index]? = some child) (isImage : others[index]? = some image)
    (replaced : IsReplaced child image place element) :
    IsReplaced (.element heading children) (.element heading others) (index :: place) element := by
  obtain ⟨isElement, found, content, foundText⟩ := replaced
  refine ⟨isElement, ?_, content, ?_⟩
  · rw [nodeAt, isChild, Option.bind_some, found]
  · rw [nodeAt, isImage, Option.bind_some, foundText]

/-- A child that stays is compared with what the pass makes of it. -/
theorem IsPass.comparesInside (pass : IsPass kind inside images) {child : Node}
    (compared : compares (commandsOf child) (commandsOf (inside child))) :
    ComparesImage compares child (inside child) := by
  cases child with
  | text content =>
      rw [pass.other _ (by simp)]
      exact .text content
  | element heading children =>
      refine .kept rfl ?_ compared
      rw [pass.element]
      rfl
  | comment | instruction =>
      refine .kept rfl ?_ compared
      rw [pass.other _ (by simp)]
      rfl

/-- The commands of a document are compared by what is replaced in it. -/
theorem IsPass.compared (pass : IsPass kind inside images) (isComparison : IsComparison compares) (node : Node)
    (each : ∀ place element, IsReplaced node (inside node) place element →
      (isOfKind kind element && isStructural (runText element)) = true →
        compares (commandsOf element) (commandsIn (runText element))) :
    compares (commandsOf node) (commandsOf (inside node)) := by
  induction node using nodeInduction with
  | element heading children inductionHypothesis =>
      rw [pass.element] at each ⊢
      refine commandsCompared isComparison (List.forall₂_iff_get.2 ?_) []
      obtain ⟨sameLength, imageAt⟩ := List.forall₂_iff_get.1 (pass.children heading children)
      refine ⟨sameLength, fun index bound boundImage => ?_⟩
      have isChild := List.getElem?_eq_getElem bound
      have isImage := List.getElem?_eq_getElem boundImage
      have atIndex := imageAt index bound boundImage
      simp only [List.get_eq_getElem] at atIndex ⊢
      rcases atIndex with ⟨structural, isText⟩ | isInside
      · rw [isText] at isImage ⊢
        obtain ⟨isKind, isStructural⟩ := Bool.and_eq_true_iff.1 structural
        obtain ⟨inner, nodes, isElement⟩ := elementOfKind isKind
        refine .replaced (by rw [isElement]; rfl) isStructural (each [index] _ ?_ structural)
        exact replacedInside isChild isImage ⟨⟨inner, nodes, isElement⟩, rfl, _, rfl⟩
      · rw [isInside] at isImage ⊢
        have compared := inductionHypothesis _ (List.getElem_mem bound) fun place element replaced =>
          each (index :: place) element (replacedInside isChild isImage replaced)
        exact pass.comparesInside compared
  | text | comment | instruction =>
      rw [pass.other _ (by simp)]
      exact isComparison.same _

theorem sublistComparison : IsComparison List.Sublist := ⟨List.Sublist.refl, List.Sublist.append⟩

theorem supersetComparison : IsComparison fun before after => List.Sublist after before :=
  ⟨List.Sublist.refl, List.Sublist.append⟩

end

/-! ### Gathered documents -/

section

variable {place : List Nat} {root node element : Node}

/-- What passes from an element to its children holds wherever a place leads. -/
theorem nodeAtInherits (property : Node → Prop)
    (inherits : ∀ heading children, property (.element heading children) →
      ∀ child ∈ children, property child)
    (holds : property root) (found : nodeAt place root = some node) : property node := by
  induction place generalizing root with
  | nil => exact Option.some.inj found ▸ holds
  | cons index place inductionHypothesis =>
      cases root with
      | element heading children =>
          rw [nodeAt, Option.bind_eq_some_iff] at found
          obtain ⟨child, isChild, found⟩ := found
          exact inductionHypothesis (inherits _ _ holds child (List.mem_of_getElem? isChild)) found
      | text | comment | instruction => cases found

theorem strayTextsOfChild {children : List Node} {child : Node} (isChild : child ∈ children)
    (isLeading : Bool) : strayTexts child ⊆ strayTextsAll isLeading children := by
  induction children generalizing isLeading with
  | nil => exact nomatch isChild
  | cons first rest inductionHypothesis =>
      rcases List.mem_cons.1 isChild with rfl | isLater
      · cases child with
        | text => exact List.nil_subset _
        | element | comment | instruction => exact List.subset_append_left ..
      · cases first with
        | text => exact fun _ isInside => List.mem_append_right _ (inductionHypothesis isLater _ isInside)
        | element | comment | instruction =>
            exact fun _ isInside => List.mem_append_right _ (inductionHypothesis isLater _ isInside)

theorem bracesInRunsAt (bare : BracesInRuns root) (found : nodeAt place root = some node) :
    BracesInRuns node :=
  nodeAtInherits BracesInRuns
    (fun _ _ bare _ isChild text isInside => bare text (strayTextsOfChild isChild _ isInside)) bare found

theorem paragraphsAt {property : List Run → Prop} (each : ∀ runs ∈ paragraphs root, property runs)
    (found : nodeAt place root = some node) : ∀ runs ∈ paragraphs node, property runs := by
  refine nodeAtInherits (fun node => ∀ runs ∈ paragraphs node, property runs)
    (fun heading children each child isChild runs isInside => each runs ?_) each found
  have inChildren : runs ∈ paragraphsAll children := by
    rw [paragraphsAllFlatMap]
    exact List.mem_flatMap.2 ⟨child, isChild, isInside⟩
  rw [paragraphs]
  split
  · exact List.mem_cons_of_mem _ inChildren
  · exact inChildren

/-- This tells whether there is a paragraph further inside. -/
def holdsParagraph : Node → Bool
  | .element _ children => holdsKindAll .paragraph children
  | _ => false

theorem holdsKindAllAny (kind : Kind) (nodes : List Node) :
    holdsKindAll kind nodes = nodes.any (holdsKind kind) := by
  induction nodes with
  | nil => rfl
  | cons node rest inductionHypothesis => rw [holdsKindAll, List.any_cons, inductionHypothesis]

/-- Without paragraphs inside all runs are own ones. -/
theorem runTextsOwn (noParagraph : holdsKind .paragraph node = false) :
    runTexts node = (ownRuns node).map Run.text := by
  induction node using nodeInduction with
  | element heading children inductionHypothesis =>
      rw [holdsKind, holdsKindAllAny, Bool.or_eq_false_iff, decide_eq_false_iff_not, List.any_eq_false] at noParagraph
      obtain ⟨notParagraph, noneInside⟩ := noParagraph
      have inChildren : runTextsAll children = (ownRunsAll children).map Run.text := by
        rw [runTextsAllFlatMap, ownRunsAllFlatMap, List.map_flatMap]
        refine List.flatMap_congr fun child isChild => inductionHypothesis child isChild ?_
        simpa using noneInside child isChild
      by_cases isRun : Kind.ofHeading heading = .run
      · rw [runTexts, if_pos isRun, ownRunsOfRun isRun, inChildren]
        rfl
      · rw [runTexts, if_neg isRun, ownRunsOfOther notParagraph isRun, inChildren, List.nil_append]
  | text | comment | instruction => rfl

/-- When commands are gathered, a paragraph that collapses and holds no other one has its command in
one run. -/
theorem gatheredIsWhole (isParagraph : isOfKind .paragraph element = true)
    (noParagraph : holdsParagraph element = false)
    (gathered : ∀ runs ∈ paragraphs element, CommandsGathered runs)
    (structural : isStructural (runText element) = true) : IsWhole element := by
  obtain ⟨heading, children, rfl⟩ := elementOfKind isParagraph
  rw [isOfKind, decide_eq_true_eq] at isParagraph
  rw [holdsParagraph, holdsKindAllAny, List.any_eq_false] at noParagraph
  have ownTexts : runTexts (.element heading children) = (ownRunsAll children).map Run.text := by
    rw [runTexts, isParagraph, if_neg (by decide), List.nil_append, runTextsAllFlatMap,
      ownRunsAllFlatMap, List.map_flatMap]
    exact List.flatMap_congr fun child isChild => runTextsOwn (by simpa using noParagraph child isChild)
  have isOwn : ownRunsAll children ∈ paragraphs (.element heading children) := by
    rw [paragraphs, if_pos isParagraph]
    exact List.mem_cons_self ..
  obtain ⟨front, inside, back, isText, -, -, bare, -⟩ := structuralIff.1 structural
  rw [runTextFlatten, ownTexts, ← List.flatMap_def] at isText
  obtain ⟨earlier, run, later, left, right, split, -, hasCommand, -, -⟩ :=
    gathered _ isOwn front inside back isText bare
  refine ⟨run.text, ?_, ?_, ?_⟩
  · rw [ownTexts, split]
    simp
  · simp [hasCommand]
  · simp [hasCommand]

end

/-! ### Commands that are kept -/

/-- No row collapses inside of a paragraph that collapses after it. -/
def RowsStand (root after : Node) : Prop :=
  ∀ place element, IsReplaced (collapseRowsInside root) after place element →
    nodeAt place root = some element

/-- What collapses has its command in one run. For a paragraph this is demanded only if it holds another
one, or a row that has collapsed before. -/
structure CommandsAreWhole (root after : Node) : Prop where
  rows : ∀ place element, IsReplaced root (collapseRowsInside root) place element → IsWhole element
  paragraphs : ∀ place element, IsReplaced (collapseRowsInside root) after place element →
    (holdsParagraph element = true ∨ nodeAt place root ≠ some element) → IsWhole element

section

variable {root after : Node}

theorem commandsNotLost (bare : BracesInRuns root) (finished : collapseCommands root = .ok after)
    (stand : RowsStand root after) : (commandsOf root).Sublist (commandsOf after) := by
  have isAfter := collapsedAfter finished
  have ofRows := rowPass.compared sublistComparison root fun place element replaced _ =>
    runCommands (bracesInRunsAt bare replaced.2.1)
  have ofParagraphs := paragraphPass.compared sublistComparison (collapseRowsInside root)
    fun place element replaced _ =>
      runCommands (bracesInRunsAt bare (stand place element (isAfter ▸ replaced)))
  rw [isAfter]
  exact ofRows.trans ofParagraphs

theorem commandsNotInvented (gathered : ∀ runs ∈ paragraphs root, CommandsGathered runs)
    (finished : collapseCommands root = .ok after) (whole : CommandsAreWhole root after) :
    (commandsOf after).Sublist (commandsOf root) := by
  have isAfter := collapsedAfter finished
  have ofRows := rowPass.compared supersetComparison root fun place element replaced structural =>
    wholeCommand (Bool.and_eq_true_iff.1 structural).2 (whole.rows place element replaced)
  have ofParagraphs := paragraphPass.compared supersetComparison (collapseRowsInside root)
    fun place element replaced structural => by
      obtain ⟨isParagraph, isStructural⟩ := Bool.and_eq_true_iff.1 structural
      refine wholeCommand isStructural ?_
      by_cases isDemanded : holdsParagraph element = true ∨ nodeAt place root ≠ some element
      · exact whole.paragraphs place element (isAfter ▸ replaced) isDemanded
      · rw [not_or, Bool.not_eq_true, not_not] at isDemanded
        exact gatheredIsWhole isParagraph isDemanded.1 (paragraphsAt gathered isDemanded.2) isStructural
  rw [isAfter]
  exact ofParagraphs.trans ofRows

/-- Let the braces of a gathered document stand in the texts of its runs. When it collapses, no command
is lost unless a paragraph is replaced that held a row which was replaced before, and no command is
invented unless one is replaced that lies in several runs. -/
theorem collapsingKeepsCommands (source after : Node) (bare : BracesInRuns (gatherCommands source))
    (finished : collapseCommands (gatherCommands source) = .ok after) :
    (RowsStand (gatherCommands source) after →
        (commandsOf (gatherCommands source)).Sublist (commandsOf after)) ∧
      (CommandsAreWhole (gatherCommands source) after →
        (commandsOf after).Sublist (commandsOf (gatherCommands source))) ∧
      (RowsStand (gatherCommands source) after → CommandsAreWhole (gatherCommands source) after →
        commandsOf after = commandsOf (gatherCommands source)) := by
  have gathered : ∀ runs ∈ paragraphs (gatherCommands source), CommandsGathered runs := by
    intro runs isInside
    rw [gatherCommands, gatherParagraphs] at isInside
    obtain ⟨before, -, rfl⟩ := List.mem_map.1 isInside
    exact (sharesGather before).closed
  refine ⟨commandsNotLost bare finished, commandsNotInvented gathered finished, fun stand whole => ?_⟩
  exact (commandsNotInvented gathered finished whole).antisymm (commandsNotLost bare finished stand)

end

/-! ### Places that are replaced -/

mutual

def replacedPlaces : Node → Node → List (List Nat)
  | .element _ _, .text _ => [[]]
  | .element _ children, .element _ images => replacedPlacesAll 0 children images
  | _, _ => []

/-- The children are numbered from the given number on. -/
def replacedPlacesAll (index : Nat) : List Node → List Node → List (List Nat)
  | child :: children, image :: images =>
      (replacedPlaces child image).map (index :: ·) ++ replacedPlacesAll (index + 1) children images
  | _, _ => []

end

theorem replacedPlaceOfChild {children images : List Node} {index : Nat} {child image : Node}
    {place : List Nat} (isChild : children[index]? = some child) (isImage : images[index]? = some image)
    (isReplaced : place ∈ replacedPlaces child image) (first : Nat) :
    (first + index) :: place ∈ replacedPlacesAll first children images := by
  induction index generalizing children images first with
  | zero =>
      cases children with
      | nil => exact nomatch isChild
      | cons node rest =>
          cases images with
          | nil => exact nomatch isImage
          | cons other others =>
              obtain rfl := Option.some.inj isChild
              obtain rfl := Option.some.inj isImage
              exact List.mem_append_left _ (List.mem_map_of_mem isReplaced)
  | succ index inductionHypothesis =>
      cases children with
      | nil => exact nomatch isChild
      | cons node rest =>
          cases images with
          | nil => exact nomatch isImage
          | cons other others =>
              have isLater := inductionHypothesis (by simpa using isChild) (by simpa using isImage) (first + 1)
              rw [replacedPlacesAll]
              rw [Nat.add_right_comm] at isLater
              exact List.mem_append_right _ isLater

theorem IsReplaced.place {before after element : Node} {place : List Nat}
    (replaced : IsReplaced before after place element) : place ∈ replacedPlaces before after := by
  obtain ⟨⟨heading, children, rfl⟩, found, content, foundText⟩ := replaced
  induction place generalizing before after with
  | nil =>
      obtain rfl := Option.some.inj found
      obtain rfl := Option.some.inj foundText
      exact List.mem_singleton_self _
  | cons index place inductionHypothesis =>
      cases before with
      | element outer nodes =>
          cases after with
          | element other images =>
              rw [nodeAt, Option.bind_eq_some_iff] at found foundText
              obtain ⟨child, isChild, found⟩ := found
              obtain ⟨image, isImage, foundText⟩ := foundText
              have isLater := replacedPlaceOfChild isChild isImage (inductionHypothesis found foundText) 0
              rw [Nat.zero_add] at isLater
              exact isLater
          | text | comment | instruction => cases foundText
      | text | comment | instruction => cases found

/-- This table has a row with a command, and a paragraph with another one follows it. -/
def commandTable : Node :=
  wordElement "body" [wordElement "tbl" [wordElement "tr" [wordElement "tc"
    [paragraphOf "\x7bFOR item IN items\x7d"]]], paragraphOf "\x7bEND-FOR\x7d"]

/-- The row and the paragraph collapse, and both commands are kept. -/
theorem tableKeepsCommands :
    BracesInRuns (gatherCommands commandTable) ∧
      ∃ after, collapseCommands (gatherCommands commandTable) = .ok after ∧
        commandsOf after = ["FOR item IN items".toList, "END-FOR".toList] ∧
        RowsStand (gatherCommands commandTable) after ∧
        CommandsAreWhole (gatherCommands commandTable) after ∧
        commandsOf after = commandsOf (gatherCommands commandTable) := by
  have bare : BracesInRuns (gatherCommands commandTable) := by decide +kernel
  have finished : collapseCommands (gatherCommands commandTable) =
      .ok (collapseParagraphsInside (collapseRowsInside (gatherCommands commandTable))) := by rfl
  have rowPlaces : replacedPlaces (gatherCommands commandTable)
      (collapseRowsInside (gatherCommands commandTable)) = [[0, 0]] := by rfl
  have paragraphPlaces : replacedPlaces (collapseRowsInside (gatherCommands commandTable))
      (collapseParagraphsInside (collapseRowsInside (gatherCommands commandTable))) = [[1]] := by rfl
  have stand : RowsStand (gatherCommands commandTable)
      (collapseParagraphsInside (collapseRowsInside (gatherCommands commandTable))) := by
    intro place element replaced
    obtain rfl := List.mem_singleton.1 (paragraphPlaces ▸ replaced.place)
    exact replaced.2.1
  have whole : CommandsAreWhole (gatherCommands commandTable)
      (collapseParagraphsInside (collapseRowsInside (gatherCommands commandTable))) := by
    constructor
    case rows =>
      intro place element replaced
      obtain rfl := List.mem_singleton.1 (rowPlaces ▸ replaced.place)
      obtain rfl := Option.some.inj replaced.2.1
      exact ⟨"\x7bFOR item IN items\x7d".toList, by decide +kernel, by decide, by decide⟩
    case paragraphs =>
      intro place element replaced isDemanded
      obtain rfl := List.mem_singleton.1 (paragraphPlaces ▸ replaced.place)
      obtain rfl := Option.some.inj replaced.2.1
      exact ⟨"\x7bEND-FOR\x7d".toList, by decide +kernel, by decide, by decide⟩
  exact ⟨bare, _, finished, by decide +kernel, stand, whole,
    (collapsingKeepsCommands _ _ bare finished).2.2 stand whole⟩

/-- This paragraph holds a command and a table whose only row has another one. -/
def tableInParagraph : Node :=
  wordElement "body" [wordElement "p" [wordElement "r" [wordElement "t" [.text "\x7bFOR a IN b\x7d".toList]],
    wordElement "tbl" [wordElement "tr" [wordElement "tc" [paragraphOf "\x7bIF c\x7d"]]]]]

/-- This row has a command that is split over two cells. -/
def commandOverCells : Node :=
  wordElement "body" [wordElement "tbl" [wordElement "tr"
    [wordElement "tc" [paragraphOf "\x7bIF c"], wordElement "tc" [paragraphOf "\x7d"]]]]

/-- The command of a row is lost with the paragraph around it, and a row that has no command becomes
one. -/
theorem rowsLoseAndInventCommands :
    BracesInRuns (gatherCommands tableInParagraph) ∧
      commandsOf (gatherCommands tableInParagraph) = ["FOR a IN b".toList, "IF c".toList] ∧
      (collapseCommands (gatherCommands tableInParagraph)).toOption.map commandsOf =
        some ["FOR a IN b".toList] ∧
    BracesInRuns (gatherCommands commandOverCells) ∧
      commandsOf (gatherCommands commandOverCells) = [] ∧
      (collapseCommands (gatherCommands commandOverCells)).toOption.map commandsOf =
        some ["IF c".toList] := by
  decide +kernel

end Letterpress.Part
