import Letterpress.Proofs.Part.Gathering
import Letterpress.Proofs.Part.Structural
import Mathlib.Data.List.Forall2

/-!
This file follows the elements of a document by their places. What collapses becomes a text at its
place, and everything else stays where it is, so that a cell keeps one of its paragraphs.
-/

namespace Letterpress.Part

open Markup

/-- A place is the row of child numbers that leads to a node. -/
def nodeAt : List Nat → Node → Option Node
  | [], node => some node
  | index :: place, .element _ children => (children[index]?).bind (nodeAt place)
  | _ :: _, _ => none

/-! ### Passes -/

/-- A node with a structural text collapses into that text, stripped, or a pass goes on inside. -/
def IsImage (kind : Kind) (inside : Node → Node) (node image : Node) : Prop :=
  ((isOfKind kind node && isStructural (runText node)) = true ∧
      image = .text (Text.stripList (runText node))) ∨
    image = inside node

/-- A pass goes over the children of every element and puts an image at each place. What collapses is
of one kind. -/
structure IsPass (kind : Kind) (inside : Node → Node) (images : Heading → List Node → List Node) :
    Prop where
  element : ∀ heading children,
    inside (.element heading children) = .element heading (images heading children)
  other : ∀ node, (∀ heading children, node ≠ .element heading children) → inside node = node
  children : ∀ heading children, List.Forall₂ (IsImage kind inside) children (images heading children)

/-- This is the pass over the paragraphs among the children of an element. -/
def paragraphImages (heading : Heading) (children : List Node) : List Node :=
  collapseParagraphs (Kind.ofHeading heading = .cell) (children.countP (isOfKind .paragraph)) children

theorem rowPass : IsPass .row collapseRowsInside fun _ => collapseRows := by
  refine ⟨fun _ _ => rfl, fun node notElement => ?_, fun _ children => ?_⟩
  · cases node with
    | element heading children => exact absurd rfl (notElement heading children)
    | text | comment | instruction => rfl
  · induction children with
    | nil => exact .nil
    | cons node rest inductionHypothesis =>
        refine .cons ?_ inductionHypothesis
        split
        case isTrue structural => exact .inl ⟨structural, rfl⟩
        case isFalse => exact .inr rfl

theorem paragraphPass : IsPass .paragraph collapseParagraphsInside paragraphImages := by
  refine ⟨fun _ _ => rfl, fun node notElement => ?_, fun heading children => ?_⟩
  · cases node with
    | element heading children => exact absurd rfl (notElement heading children)
    | text | comment | instruction => rfl
  · unfold paragraphImages
    generalize children.countP (isOfKind .paragraph) = left
    induction children generalizing left with
    | nil => exact .nil
    | cons node rest inductionHypothesis =>
        rw [collapseParagraphs]
        split
        case isTrue collapses =>
          simp only [Part.collapses, Bool.and_eq_true] at collapses
          have structural := Bool.and_eq_true_iff.2 ⟨collapses.1.1.1, collapses.2⟩
          exact .cons (.inl ⟨structural, rfl⟩) (inductionHypothesis _)
        case isFalse => exact .cons (.inr rfl) (inductionHypothesis _)

section

variable {collapsing : Kind} {inside : Node → Node} {images : Heading → List Node → List Node}

/-- An element that is still there was at its place before, and its children are the images. -/
theorem IsPass.origin (pass : IsPass collapsing inside images) {place : List Nat} {node : Node} {heading : Heading}
    {left : List Node} (found : nodeAt place (inside node) = some (.element heading left)) :
    ∃ children, nodeAt place node = some (.element heading children) ∧ left = images heading children := by
  induction place generalizing node with
  | nil =>
      cases node with
      | element outer children =>
          rw [pass.element] at found
          obtain ⟨rfl, rfl⟩ := Node.element.inj (Option.some.inj found)
          exact ⟨children, rfl, rfl⟩
      | text | comment | instruction =>
          rw [pass.other _ (by simp)] at found
          exact nomatch found
  | cons index place inductionHypothesis =>
      cases node with
      | element outer children =>
          rw [pass.element, nodeAt, Option.bind_eq_some_iff] at found
          obtain ⟨image, isImage, found⟩ := found
          obtain ⟨bound, rfl⟩ := List.getElem?_eq_some_iff.1 isImage
          have related := List.forall₂_iff_get.1 (pass.children outer children)
          have boundBefore : index < children.length := related.1.symm ▸ bound
          have isImage := related.2 index boundBefore bound
          simp only [List.get_eq_getElem] at isImage
          rcases isImage with ⟨-, isText⟩ | isInside
          · rw [isText] at found
            cases place <;> exact nomatch found
          · rw [isInside] at found
            obtain ⟨inner, foundBefore, same⟩ := inductionHypothesis found
            refine ⟨inner, ?_, same⟩
            rw [nodeAt, List.getElem?_eq_getElem boundBefore, Option.bind_some, foundBefore]
      | text | comment | instruction =>
          rw [pass.other _ (by simp)] at found
          exact nomatch found

theorem IsPass.kind (pass : IsPass collapsing inside images) (kind : Kind) (node : Node) :
    isOfKind kind (inside node) = isOfKind kind node := by
  cases node with
  | element heading children => rw [pass.element, isOfKind, isOfKind]
  | text | comment | instruction => rw [pass.other _ (by simp)]

end

/-! ### Cells -/

/-- The first pass keeps all the paragraphs among the children of an element. -/
theorem rowsKeepParagraphs (children : List Node) :
    (collapseRows children).countP (isOfKind .paragraph) = children.countP (isOfKind .paragraph) := by
  induction children with
  | nil => rfl
  | cons node rest inductionHypothesis =>
      rw [collapseRows, List.countP_cons, List.countP_cons, inductionHypothesis]
      congr 2
      split
      case isTrue structural =>
        have isRow := (Bool.and_eq_true_iff.1 structural).1
        cases node with
        | element heading children =>
            simp only [isOfKind, decide_eq_true_eq] at isRow
            simp [isOfKind, isRow]
        | text | comment | instruction => cases isRow
      case isFalse => rw [rowPass.kind]

/-- In a cell the number of paragraphs that are left does not fall below one. The kept paragraphs are
those that the pass has gone over. -/
theorem paragraphIsLeft {kept left : Nat} {children : List Node}
    (count : left = kept + children.countP (isOfKind .paragraph)) (positive : 0 < left) :
    0 < kept + (collapseParagraphs true left children).countP (isOfKind .paragraph) := by
  induction children generalizing kept left with
  | nil =>
      rw [collapseParagraphs, ← count]
      exact positive
  | cons node rest inductionHypothesis =>
      rw [collapseParagraphs]
      rw [List.countP_cons] at count
      split
      case isTrue collapses =>
        simp only [Part.collapses, Bool.and_eq_true, Bool.not_eq_true', Bool.and_eq_false_iff,
          Bool.true_eq_false, false_or, decide_eq_false_iff_not] at collapses
        obtain ⟨⟨⟨isParagraph, notLast⟩, -⟩, -⟩ := collapses
        rw [if_pos isParagraph] at count
        have isLeft : 0 < kept +
            (collapseParagraphs true (left - 1) rest).countP (isOfKind .paragraph) :=
          inductionHypothesis (by omega) (by omega)
        rw [List.countP_cons]
        omega
      case isFalse =>
        rw [List.countP_cons, paragraphPass.kind]
        by_cases isParagraph : isOfKind .paragraph node = true
        · rw [if_pos isParagraph]
          omega
        · rw [if_neg isParagraph] at count ⊢
          exact inductionHypothesis count positive

theorem collapsedAfter {root after : Node} (finished : collapseCommands root = .ok after) :
    after = collapseParagraphsInside (collapseRowsInside root) := by
  unfold collapseCommands at finished
  split at finished
  case isTrue => exact nomatch finished
  case isFalse => exact (Except.ok.inj finished).symm

/-- A cell that is still in a document after collapsing was in it before, and it keeps a paragraph
among its children if it had one. -/
theorem cellKeepsParagraph (root after : Node) (finished : collapseCommands root = .ok after)
    (place : List Nat) (heading : Heading) (left : List Node)
    (found : nodeAt place after = some (.element heading left)) (isCell : Kind.ofHeading heading = .cell) :
    ∃ children, nodeAt place root = some (.element heading children) ∧
      ((∃ child ∈ children, isOfKind .paragraph child = true) →
        ∃ child ∈ left, isOfKind .paragraph child = true) := by
  rw [collapsedAfter finished] at found
  obtain ⟨between, foundBetween, sameLeft⟩ := paragraphPass.origin found
  obtain ⟨children, foundBefore, sameBetween⟩ := rowPass.origin foundBetween
  refine ⟨children, foundBefore, fun hasParagraph => ?_⟩
  have positive : 0 < between.countP (isOfKind .paragraph) := by
    rw [sameBetween, rowsKeepParagraphs]
    exact List.countP_pos_iff.2 hasParagraph
  have isLeft := paragraphIsLeft (Nat.zero_add _).symm positive
  rw [Nat.zero_add] at isLeft
  rw [sameLeft, paragraphImages, isCell]
  exact List.countP_pos_iff.1 isLeft

/-- These elements have no attributes. -/
def wordElement (name : String) (children : List Node) : Node :=
  .element ⟨⟨"w".toList, name.toList⟩, wordAddress, [], []⟩ children

/-- This paragraph has one run. -/
def paragraphOf (text : String) : Node :=
  wordElement "p" [wordElement "r" [wordElement "t" [.text text.toList]]]

/-- This row has one cell with two commands. -/
def commandRow : Node :=
  wordElement "tbl" [wordElement "tr" [wordElement "tc"
    [paragraphOf "\x7bIF paid\x7d", paragraphOf "\x7bEND-IF\x7d"]]]

/-- Of two paragraphs that could collapse the last one is kept. -/
theorem lastCommandIsKept :
    ∃ after left, collapseCommands commandRow = .ok after ∧
      nodeAt [0, 0] after = some (wordElement "tc" left) ∧
      left = [.text "\x7bIF paid\x7d".toList, paragraphOf "\x7bEND-IF\x7d"] ∧
      ∃ children, nodeAt [0, 0] commandRow = some (wordElement "tc" children) ∧
        ((∃ child ∈ children, isOfKind .paragraph child = true) →
          ∃ child ∈ left, isOfKind .paragraph child = true) :=
  have finished : collapseCommands commandRow = .ok (wordElement "tbl" [wordElement "tr"
      [wordElement "tc" [.text "\x7bIF paid\x7d".toList, paragraphOf "\x7bEND-IF\x7d"]]]) := by rfl
  ⟨_, _, finished, rfl, rfl, cellKeepsParagraph _ _ finished [0, 0] _ _ rfl (by decide)⟩

end Letterpress.Part
