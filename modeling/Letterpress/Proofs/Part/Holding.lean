import Letterpress.Proofs.Part.Soundness

/-!
This file follows the commands that stand in one text of a document. They still stand in one text
after commands have been gathered and collapsed.
-/

namespace Letterpress.Part

open Markup

def NoBrace (text : List Char) : Prop := ∀ character ∈ text, isBrace character = false

instance (text : List Char) : Decidable (NoBrace text) := List.decidableBAll _ text

/-- A bare node has no brace outside of its tags. -/
inductive IsBare : Node → Prop
  | element {heading : Heading} {children : List Node}
      (areBare : ∀ child ∈ children, IsBare child) : IsBare (.element heading children)
  | text {content : List Char} (noBrace : NoBrace content) : IsBare (.text content)
  | comment {content : List Char} (noBrace : NoBrace content) : IsBare (.comment content)
  | instruction {target content : List Char} (noBraceTarget : NoBrace target)
      (noBrace : NoBrace content) : IsBare (.instruction target content)

/-- One text of a node has a property, and everything else is bare. -/
inductive Holds (property : List Char → Prop) : Node → Prop
  | text {content : List Char} (has : property content) : Holds property (.text content)
  | element {heading : Heading} {front back : List Node} {child : Node}
      (bareFront : ∀ node ∈ front, IsBare node) (holds : Holds property child)
      (bareBack : ∀ node ∈ back, IsBare node) :
      Holds property (.element heading (front ++ child :: back))

/-- Such a text leaves no command open. It keeps the property with bare text around it, and also when
it collapses. -/
structure Lasts (property : List Char → Prop) : Prop where
  settled : ∀ {text : List Char}, property text → leavesOpen text = false
  after : ∀ {bare text : List Char}, NoBrace bare → property text → property (bare ++ text)
  before : ∀ {text bare : List Char}, property text → NoBrace bare → property (text ++ bare)
  strip : ∀ {text : List Char}, property text → isStructural text = true →
    property (Text.stripList text)

/-- A text has one command. -/
def HasCommand (code text : List Char) : Prop :=
  ∃ left right, NoBrace left ∧ NoBrace right ∧ text = left ++ '\x7b' :: (code ++ '\x7d' :: right)

/-- No text of a settled node leaves a command open. -/
inductive IsSettled : Node → Prop
  | element {heading : Heading} {children : List Node}
      (areSettled : ∀ child ∈ children, IsSettled child) : IsSettled (.element heading children)
  | text {content : List Char} (settled : leavesOpen content = false) : IsSettled (.text content)
  | comment (content : List Char) : IsSettled (.comment content)
  | instruction (target content : List Char) : IsSettled (.instruction target content)

/-! ### Texts -/

section

variable {text more code : List Char}

theorem noBraceNil : NoBrace [] := nofun

theorem noBraceAppend : NoBrace (text ++ more) ↔ NoBrace text ∧ NoBrace more :=
  List.forall_mem_append

theorem noOpening (bare : NoBrace text) : '\x7b' ∉ text := fun isInside => nomatch bare _ isInside

theorem noClosing (bare : NoBrace text) : '\x7d' ∉ text := fun isInside => nomatch bare _ isInside

theorem bracesOfBare (noBrace : NoBrace text) : text.filter isBrace = [] :=
  List.filter_eq_nil_iff.2 fun character isInside => by simp [noBrace character isInside]

theorem leavesOpenAppend (settled : leavesOpen text = false) (settledMore : leavesOpen more = false) :
    leavesOpen (text ++ more) = false := by
  simp only [leavesOpen, decide_eq_false_iff_not, List.filter_append, List.getLast?_append] at *
  cases last : (more.filter isBrace).getLast? with
  | none => simpa using settled
  | some brace => simpa [last] using settledMore

theorem leavesOpenPlain (noOpening : '\x7b' ∉ text) : leavesOpen text = false := by
  rw [leavesOpen, decide_eq_false_iff_not]
  exact fun last => noOpening (List.mem_of_mem_filter (List.mem_of_getLast? last))

theorem leavesOpenBare (noBrace : NoBrace text) : leavesOpen text = false :=
  leavesOpenPlain (noOpening noBrace)

/-- A text with a command ends it. -/
theorem leavesOpenCommand {left right : List Char} (bareLeft : NoBrace left) (bareRight : NoBrace right) :
    leavesOpen (left ++ '\x7b' :: (code ++ '\x7d' :: right)) = false := by
  have ends : leavesOpen ('\x7b' :: (code ++ ['\x7d'])) = false := by
    simp [leavesOpen, List.filter_append, isBrace, List.getLast?_append, List.getLast?_cons]
  have whole : left ++ '\x7b' :: (code ++ '\x7d' :: right) =
      left ++ ('\x7b' :: (code ++ ['\x7d']) ++ right) := by simp
  rw [whole]
  exact leavesOpenAppend (leavesOpenBare bareLeft) (leavesOpenAppend ends (leavesOpenBare bareRight))

/-- A text without a brace is not structural. -/
theorem structuralBraces (structural : isStructural text = true) : ¬ NoBrace text := by
  intro bare
  unfold isStructural at structural
  split at structural
  case h_1 rest same =>
    have isInside : '\x7b' ∈ Text.stripList text := same ▸ List.mem_cons_self ..
    exact absurd (bare _ (Text.stripListSubset _ isInside)) (by decide)
  case h_2 => exact nomatch structural

end

/-! ### Texts of runs -/

section

variable {property : List Char → Prop} {children front back : List Node} {node : Node}

theorem Holds.imp {other : List Char → Prop} (holds : Holds property node)
    (implies : ∀ text, property text → other text) : Holds other node := by
  induction holds with
  | text has => exact .text (implies _ has)
  | element bareFront _ bareBack inductionHypothesis =>
      exact .element bareFront inductionHypothesis bareBack

theorem IsBare.settled (bare : IsBare node) : IsSettled node := by
  induction bare with
  | element _ inductionHypothesis => exact .element inductionHypothesis
  | text noBrace => exact .text (leavesOpenBare noBrace)
  | comment => exact .comment _
  | instruction => exact .instruction _ _

theorem Holds.settled (lasts : Lasts property) (holds : Holds property node) : IsSettled node := by
  induction holds with
  | text has => exact .text (lasts.settled has)
  | element bareFront _ bareBack inductionHypothesis =>
      apply IsSettled.element
      intro child isChild
      rcases List.mem_append.1 isChild with inFront | inRest
      · exact (bareFront child inFront).settled
      · rcases List.mem_cons.1 inRest with rfl | inBack
        · exact inductionHypothesis
        · exact (bareBack child inBack).settled

theorem leadingTextSettled (settled : ∀ child ∈ children, IsSettled child) :
    leavesOpen (leadingText children) = false := by
  induction children with
  | nil => rfl
  | cons child rest inductionHypothesis =>
      obtain ⟨childSettled, restSettled⟩ := List.forall_mem_cons.1 settled
      cases childSettled with
      | text settledText => exact leavesOpenAppend settledText (inductionHypothesis restSettled)
      | element => rfl
      | comment => rfl
      | instruction => rfl

theorem ownTextsSettled (settled : IsSettled node) : ∀ text ∈ ownTexts node, leavesOpen text = false := by
  induction settled with
  | @element heading children areSettled inductionHypothesis =>
      have inChildren : ∀ text ∈ ownTextsAll children, leavesOpen text = false := by
        rw [ownTextsAllFlatMap]
        intro text isInside
        obtain ⟨child, isChild, isInChild⟩ := List.mem_flatMap.1 isInside
        exact inductionHypothesis child isChild text isInChild
      rw [ownTexts]
      split
      · simp
      · exact List.forall_mem_cons.2 ⟨leadingTextSettled areSettled, inChildren⟩
      · exact inChildren
  | text => simp [ownTexts]
  | comment => simp [ownTexts]
  | instruction => simp [ownTexts]

theorem leadingTextBare (bare : ∀ child ∈ children, IsBare child) : NoBrace (leadingText children) := by
  induction children with
  | nil => exact noBraceNil
  | cons child rest inductionHypothesis =>
      obtain ⟨childBare, restBare⟩ := List.forall_mem_cons.1 bare
      cases childBare with
      | text noBrace => exact noBraceAppend.2 ⟨noBrace, inductionHypothesis restBare⟩
      | element => exact noBraceNil
      | comment => exact noBraceNil
      | instruction => exact noBraceNil

/-- Among bare siblings the leading text has the property or is bare. Beside an element it is bare. -/
theorem leadingTextHolds (lasts : Lasts property) (bareFront : ∀ child ∈ front, IsBare child)
    (holds : Holds property node) (bareBack : ∀ child ∈ back, IsBare child) :
    (NoBrace (leadingText (front ++ node :: back)) ∨ property (leadingText (front ++ node :: back))) ∧
      (∀ heading others, node = .element heading others → NoBrace (leadingText (front ++ node :: back))) := by
  induction front with
  | nil =>
      cases holds with
      | text has => exact ⟨.inr (lasts.before has (leadingTextBare bareBack)), fun _ _ same => nomatch same⟩
      | element => exact ⟨.inl noBraceNil, fun _ _ _ => noBraceNil⟩
  | cons child rest inductionHypothesis =>
      obtain ⟨childBare, restBare⟩ := List.forall_mem_cons.1 bareFront
      obtain ⟨has, ofElement⟩ := inductionHypothesis restBare
      cases childBare with
      | text noBrace =>
          refine ⟨has.imp (noBraceAppend.2 ⟨noBrace, ·⟩) (lasts.after noBrace), fun heading others same => ?_⟩
          exact noBraceAppend.2 ⟨noBrace, ofElement heading others same⟩
      | element => exact ⟨.inl noBraceNil, fun _ _ _ => noBraceNil⟩
      | comment => exact ⟨.inl noBraceNil, fun _ _ _ => noBraceNil⟩
      | instruction => exact ⟨.inl noBraceNil, fun _ _ _ => noBraceNil⟩

theorem runTextBare (bare : IsBare node) : NoBrace (runText node) := by
  induction bare with
  | element areBare inductionHypothesis =>
      rw [runText, runTextAllFlatMap]
      apply noBraceAppend.2
      constructor
      · split
        · exact leadingTextBare areBare
        · exact noBraceNil
      · intro character isInside
        obtain ⟨child, isChild, isInChild⟩ := List.mem_flatMap.1 isInside
        exact inductionHypothesis child isChild character isInChild
  | text => exact noBraceNil
  | comment => exact noBraceNil
  | instruction => exact noBraceNil

theorem runTextsBare (bare : ∀ child ∈ children, IsBare child) : NoBrace (children.flatMap runText) := by
  intro character isInside
  obtain ⟨child, isChild, isInChild⟩ := List.mem_flatMap.1 isInside
  exact runTextBare (bare child isChild) character isInChild

/-- The text of all runs has the property or is bare. -/
theorem runTextHolds (lasts : Lasts property) (holds : Holds property node) :
    NoBrace (runText node) ∨ property (runText node) := by
  induction holds with
  | text => exact .inl noBraceNil
  | @element heading front back child bareFront holds bareBack inductionHypothesis =>
      have frontTexts := runTextsBare bareFront
      have backTexts := runTextsBare bareBack
      obtain ⟨has, ofElement⟩ := leadingTextHolds lasts bareFront holds bareBack
      rw [runText, runTextAllFlatMap, List.flatMap_append, List.flatMap_cons]
      -- The text of an element is no leading text, and a text of its own is in no run inside.
      cases holds with
      | text =>
          have around := noBraceAppend.2 ⟨frontTexts, noBraceAppend.2 ⟨noBraceNil, backTexts⟩⟩
          split
          · exact has.imp (noBraceAppend.2 ⟨·, around⟩) (lasts.before · around)
          · exact .inl around
      | @element innerHeading innerFront innerBack innerChild =>
          have leading : NoBrace (if Kind.ofHeading heading = .run then leadingText
              (front ++ .element innerHeading (innerFront ++ innerChild :: innerBack) :: back) else []) := by
            split
            · exact ofElement _ _ rfl
            · exact noBraceNil
          refine inductionHypothesis.imp (fun inside => ?_) fun inside => ?_
          · exact noBraceAppend.2
              ⟨leading, noBraceAppend.2 ⟨frontTexts, noBraceAppend.2 ⟨inside, backTexts⟩⟩⟩
          · exact lasts.after leading (lasts.after frontTexts (lasts.before inside backTexts))

end

/-! ### Gathering -/

/-- The runs keep their texts. -/
def KeepTexts (shares : List Share) : Prop := ∀ share ∈ shares, share.text = none

section

variable {property : List Char → Prop} {children : List Node} {node : Node} {shares : List Share}

theorem shareSettled {texts : List (List Char)} (settled : ∀ text ∈ texts, leavesOpen text = false) :
    KeepTexts (share texts).closed := by
  induction texts with
  | nil => exact nofun
  | cons text rest inductionHypothesis =>
      obtain ⟨settledText, settledRest⟩ := List.forall_mem_cons.1 settled
      have keeps : KeepTexts (settle text false (share rest)) := by
        rw [settle, settledText]
        exact List.forall_mem_cons.2 ⟨rfl, inductionHypothesis settledRest⟩
      rw [share]
      split <;> exact keeps

theorem preservedKind (heading : Heading) :
    Kind.ofHeading (preserveSpace heading) = Kind.ofHeading heading := by
  unfold preserveSpace
  split <;> rfl

/-- Shares that keep texts change the attributes of an element at most. -/
theorem gatherElement (heading : Heading) (settled : ∀ child ∈ children, IsSettled child)
    (keep : KeepTexts shares) :
    ∃ after given left, Kind.ofHeading after = Kind.ofHeading heading ∧ KeepTexts given ∧
      gather shares (.element heading children) = (.element after (gatherAll given children).1, left) ∧
        (left = shares ∨ left = (gatherAll given children).2) := by
  have own : ∀ text ∈ ownTextsAll children, leavesOpen text = false := by
    rw [ownTextsAllFlatMap]
    intro text isInside
    obtain ⟨child, isChild, isInChild⟩ := List.mem_flatMap.1 isInside
    exact ownTextsSettled (settled child isChild) text isInChild
  rw [gather.eq_def]
  dsimp only
  split
  · exact ⟨_, _, _, rfl, shareSettled own, rfl, .inl rfl⟩
  · cases shares with
    | nil => exact ⟨_, [], _, rfl, nofun, rfl, .inr rfl⟩
    | cons first others =>
        obtain ⟨keepsText, keepOthers⟩ := List.forall_mem_cons.1 keep
        refine ⟨if first.isPreserved then preserveSpace heading else heading, others, _, ?_, keepOthers,
          ?_, .inr rfl⟩
        · split
          · exact preservedKind heading
          · rfl
        · dsimp only
          rw [Share.apply, keepsText]
  · exact ⟨_, _, _, rfl, keep, rfl, .inr rfl⟩

theorem gatheredKind (kind : Kind) (settled : IsSettled node) (keep : KeepTexts shares) :
    isOfKind kind (gather shares node).1 = isOfKind kind node := by
  cases settled with
  | @element heading children areSettled =>
      obtain ⟨after, given, left, sameKind, -, same, -⟩ := gatherElement heading areSettled keep
      rw [same, isOfKind, isOfKind, sameKind]
  | text => rfl
  | comment => rfl
  | instruction => rfl

/-- A bare list stays bare, and the shares that are left keep texts too. -/
theorem gatherAllBare
    (each : ∀ child ∈ children, ∀ shares, KeepTexts shares →
      IsBare (gather shares child).1 ∧ KeepTexts (gather shares child).2)
    (keep : KeepTexts shares) :
    (∀ child ∈ (gatherAll shares children).1, IsBare child) ∧ KeepTexts (gatherAll shares children).2 := by
  induction children generalizing shares with
  | nil =>
      rw [gatherAll]
      exact ⟨List.forall_mem_nil _, keep⟩
  | cons child rest inductionHypothesis =>
      obtain ⟨ofChild, ofRest⟩ := List.forall_mem_cons.1 each
      obtain ⟨bare, keepLeft⟩ := ofChild shares keep
      obtain ⟨bareRest, keepRest⟩ := inductionHypothesis ofRest keepLeft
      rw [gatherAll]
      exact ⟨List.forall_mem_cons.2 ⟨bare, bareRest⟩, keepRest⟩

theorem gatherBare (bare : IsBare node) : ∀ shares, KeepTexts shares →
    IsBare (gather shares node).1 ∧ KeepTexts (gather shares node).2 := by
  induction bare with
  | @element heading children areBare inductionHypothesis =>
      intro shares keep
      obtain ⟨after, given, left, -, keepGiven, same, isLeft⟩ :=
        gatherElement heading (fun child isChild => (areBare child isChild).settled) keep
      obtain ⟨bareChildren, keepLeft⟩ := gatherAllBare inductionHypothesis keepGiven
      rw [same]
      refine ⟨.element bareChildren, ?_⟩
      rcases isLeft with rfl | rfl
      · exact keep
      · exact keepLeft
  | text noBrace => exact fun shares keep => ⟨.text noBrace, keep⟩
  | comment noBrace => exact fun shares keep => ⟨.comment noBrace, keep⟩
  | instruction noBraceTarget noBrace =>
      exact fun shares keep => ⟨.instruction noBraceTarget noBrace, keep⟩

theorem gatherAllAppend (shares : List Share) (nodes more : List Node) :
    gatherAll shares (nodes ++ more) =
      let first := gatherAll shares nodes
      let second := gatherAll first.2 more
      (first.1 ++ second.1, second.2) := by
  induction nodes generalizing shares with
  | nil => simp [gatherAll]
  | cons node rest inductionHypothesis => simp [gatherAll, inductionHypothesis]

/-- The text is not moved when commands are gathered. -/
theorem gatherHolds (lasts : Lasts property) (holds : Holds property node) :
    ∀ shares, KeepTexts shares →
      Holds property (gather shares node).1 ∧ KeepTexts (gather shares node).2 := by
  induction holds with
  | text has => exact fun shares keep => ⟨.text has, keep⟩
  | @element heading front back child bareFront holds bareBack inductionHypothesis =>
      intro shares keep
      have settled : IsSettled (.element heading (front ++ child :: back)) :=
        (Holds.element bareFront holds bareBack).settled lasts
      cases settled with
      | element areSettled =>
          obtain ⟨after, given, left, -, keepGiven, same, isLeft⟩ := gatherElement heading areSettled keep
          obtain ⟨bareFirst, keepFirst⟩ := gatherAllBare
            (fun node isInside => gatherBare (bareFront node isInside)) keepGiven
          obtain ⟨holdsChild, keepChild⟩ := inductionHypothesis _ keepFirst
          obtain ⟨bareLast, keepLast⟩ := gatherAllBare
            (fun node isInside => gatherBare (bareBack node isInside)) keepChild
          simp only [gatherAllAppend, gatherAll] at same isLeft
          rw [same]
          refine ⟨.element bareFirst holdsChild bareLast, ?_⟩
          rcases isLeft with rfl | rfl
          · exact keep
          · exact keepLast

end

/-! ### Collapsing -/

section

variable {property : List Char → Prop} {children : List Node} {node : Node}

theorem structuralBare (bare : IsBare node) : isStructural (runText node) = false :=
  Bool.eq_false_iff.2 fun structural => structuralBraces structural (runTextBare bare)

/-- What collapses for the text that it holds becomes such a text. -/
theorem collapsedHolds (lasts : Lasts property) (holds : Holds property node)
    (structural : isStructural (runText node) = true) :
    Holds property (.text (Text.stripList (runText node))) := by
  rcases runTextHolds lasts holds with bare | has
  · exact absurd bare (structuralBraces structural)
  · exact .text (lasts.strip has structural)

theorem collapsesBare (isCell : Bool) (left : Nat) (bare : IsBare node) :
    collapses isCell left node = false := by
  rw [collapses, structuralBare bare, Bool.and_false]

theorem collapseRowsAll (bare : ∀ child ∈ children, IsBare child) (rest : List Node) :
    collapseRows (children ++ rest) = children.map collapseRowsInside ++ collapseRows rest := by
  induction children with
  | nil => rfl
  | cons child others inductionHypothesis =>
      obtain ⟨childBare, othersBare⟩ := List.forall_mem_cons.1 bare
      rw [List.cons_append, collapseRows, structuralBare childBare, Bool.and_false, if_neg Bool.false_ne_true,
        inductionHypothesis othersBare]
      rfl

theorem collapseRowsBare (bare : IsBare node) : IsBare (collapseRowsInside node) := by
  induction bare with
  | element areBare inductionHypothesis =>
      have mapped := collapseRowsAll areBare []
      rw [List.append_nil, collapseRows, List.append_nil] at mapped
      rw [collapseRowsInside, mapped]
      exact .element (List.forall_mem_map.2 inductionHypothesis)
  | text noBrace => exact .text noBrace
  | comment noBrace => exact .comment noBrace
  | instruction noBraceTarget noBrace => exact .instruction noBraceTarget noBrace

theorem collapseRowsHolds (lasts : Lasts property) (holds : Holds property node) :
    Holds property (collapseRowsInside node) := by
  induction holds with
  | text has => exact .text has
  | @element heading front back child bareFront holds bareBack inductionHypothesis =>
      have mapped := collapseRowsAll bareBack []
      rw [List.append_nil, collapseRows, List.append_nil] at mapped
      have bareMapped {nodes : List Node} (bare : ∀ node ∈ nodes, IsBare node) :
          ∀ node ∈ nodes.map collapseRowsInside, IsBare node :=
        List.forall_mem_map.2 fun node isInside => collapseRowsBare (bare node isInside)
      rw [collapseRowsInside, collapseRowsAll bareFront, collapseRows, mapped]
      apply Holds.element (bareMapped bareFront) _ (bareMapped bareBack)
      split
      case isTrue structural =>
        exact collapsedHolds lasts holds (Bool.and_eq_true_iff.1 structural).2
      case isFalse => exact inductionHypothesis

theorem collapseParagraphsAll (isCell : Bool) (left : Nat) (bare : ∀ child ∈ children, IsBare child)
    (rest : List Node) : collapseParagraphs isCell left (children ++ rest) =
      children.map collapseParagraphsInside ++ collapseParagraphs isCell left rest := by
  induction children with
  | nil => rfl
  | cons child others inductionHypothesis =>
      obtain ⟨childBare, othersBare⟩ := List.forall_mem_cons.1 bare
      rw [List.cons_append, collapseParagraphs, collapsesBare isCell left childBare, if_neg Bool.false_ne_true,
        inductionHypothesis othersBare]
      rfl

theorem collapseParagraphsBare (bare : IsBare node) : IsBare (collapseParagraphsInside node) := by
  induction bare with
  | element areBare inductionHypothesis =>
      have mapped (isCell : Bool) (left : Nat) := collapseParagraphsAll isCell left areBare []
      simp only [List.append_nil, collapseParagraphs] at mapped
      rw [collapseParagraphsInside, mapped]
      exact .element (List.forall_mem_map.2 inductionHypothesis)
  | text noBrace => exact .text noBrace
  | comment noBrace => exact .comment noBrace
  | instruction noBraceTarget noBrace => exact .instruction noBraceTarget noBrace

theorem collapseParagraphsHolds (lasts : Lasts property) (holds : Holds property node) :
    Holds property (collapseParagraphsInside node) := by
  induction holds with
  | text has => exact .text has
  | @element heading front back child bareFront holds bareBack inductionHypothesis =>
      have mapped (isCell : Bool) (left : Nat) := collapseParagraphsAll isCell left bareBack []
      simp only [List.append_nil, collapseParagraphs] at mapped
      have bareMapped {nodes : List Node} (bare : ∀ node ∈ nodes, IsBare node) :
          ∀ node ∈ nodes.map collapseParagraphsInside, IsBare node :=
        List.forall_mem_map.2 fun node isInside => collapseParagraphsBare (bare node isInside)
      rw [collapseParagraphsInside, collapseParagraphsAll _ _ bareFront, collapseParagraphs]
      split
      case isTrue collapses =>
        rw [mapped]
        apply Holds.element (bareMapped bareFront) _ (bareMapped bareBack)
        simp only [Part.collapses, Bool.and_eq_true] at collapses
        exact collapsedHolds lasts holds collapses.2
      case isFalse =>
        rw [mapped]
        exact .element (bareMapped bareFront) inductionHypothesis (bareMapped bareBack)

/-- A document whose commands are in one text is prepared, unless it is a row and nothing else. The
commands are still in one text. -/
theorem preparedHolds (lasts : Lasts property) (holds : Holds property node)
    (notRow : isOfKind .row node = false) :
    ∃ prepared, collapseCommands (gatherCommands node) = .ok prepared ∧ Holds property prepared := by
  have holdsGathered : Holds property (gatherCommands node) := (gatherHolds lasts holds [] nofun).1
  have notRowGathered : isOfKind .row (gatherCommands node) = false := by
    have keep : KeepTexts [] := nofun
    rw [gatherCommands, gatheredKind .row (holds.settled lasts) keep, notRow]
  refine ⟨_, ?_, collapseParagraphsHolds lasts (collapseRowsHolds lasts holdsGathered)⟩
  rw [collapseCommands, notRowGathered]
  rfl

end

end Letterpress.Part
