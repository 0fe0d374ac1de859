import Letterpress.Part.Collapsing
import Letterpress.Part.Gathering
import Letterpress.Proofs.Markup.Soundness
import Letterpress.Proofs.Text.Letter

/-!
This file shows that a document stays sound when its commands are gathered and collapsed.
-/

namespace Letterpress.Part

open Markup

/-! ### Texts -/

section

variable {outer : Declarations} {node : Node} {children : List Node}

theorem legalSubset {text part : List Char} (legal : AllLegal text) (subset : part ⊆ text) :
    AllLegal part := fun character isInside => legal character (subset isInside)

theorem leadingTextLegal (sound : ∀ child ∈ children, child.IsSound outer) :
    AllLegal (leadingText children) := by
  induction children with
  | nil => exact nofun
  | cons child rest inductionHypothesis =>
      obtain ⟨childSound, restSound⟩ := List.forall_mem_cons.1 sound
      cases childSound with
      | text legal => exact List.forall_mem_append.2 ⟨legal, inductionHypothesis restSound⟩
      | element => exact nofun
      | comment => exact nofun
      | instruction => exact nofun

theorem dropLeadingTextSubset (children : List Node) : dropLeadingText children ⊆ children := by
  induction children with
  | nil => exact List.Subset.refl _
  | cons child rest inductionHypothesis =>
      cases child with
      | text content => exact List.Subset.trans inductionHypothesis (List.subset_cons_self ..)
      | element => exact List.Subset.refl _
      | comment => exact List.Subset.refl _
      | instruction => exact List.Subset.refl _

theorem runTextAllFlatMap (nodes : List Node) : runTextAll nodes = nodes.flatMap runText := by
  induction nodes with
  | nil => rw [runTextAll, List.flatMap_nil]
  | cons node rest inductionHypothesis =>
      rw [runTextAll, List.flatMap_cons, inductionHypothesis]

theorem ownTextsAllFlatMap (nodes : List Node) : ownTextsAll nodes = nodes.flatMap ownTexts := by
  induction nodes with
  | nil => rw [ownTextsAll, List.flatMap_nil]
  | cons node rest inductionHypothesis =>
      rw [ownTextsAll, List.flatMap_cons, inductionHypothesis]

/-- The texts of the runs of a sound node are legal. -/
theorem runTextLegal (sound : node.IsSound outer) : AllLegal (runText node) := by
  induction sound with
  | element _ areChildren inductionHypothesis =>
      rw [runText, runTextAllFlatMap]
      refine List.forall_mem_append.2 ⟨?_, ?_⟩
      · split
        · exact leadingTextLegal areChildren
        · exact nofun
      · intro character isInside
        obtain ⟨child, isChild, isInChild⟩ := List.mem_flatMap.1 isInside
        exact inductionHypothesis child isChild character isInChild
  | text => exact nofun
  | comment => exact nofun
  | instruction => exact nofun

theorem ownTextsAllLegal (legal : ∀ child ∈ children, ∀ text ∈ ownTexts child, AllLegal text) :
    ∀ text ∈ ownTextsAll children, AllLegal text := by
  rw [ownTextsAllFlatMap]
  intro text isInside
  obtain ⟨child, isChild, isInChild⟩ := List.mem_flatMap.1 isInside
  exact legal child isChild text isInChild

theorem ownTextsLegal (sound : node.IsSound outer) : ∀ text ∈ ownTexts node, AllLegal text := by
  induction sound with
  | @element _ heading children _ areChildren inductionHypothesis =>
      have inChildren := ownTextsAllLegal inductionHypothesis
      rw [ownTexts]
      split
      · simp
      · exact List.forall_mem_cons.2 ⟨leadingTextLegal areChildren, inChildren⟩
      · exact inChildren
  | text => simp [ownTexts]
  | comment => simp [ownTexts]
  | instruction => simp [ownTexts]

end

/-! ### Shares -/

/-- The texts that are handed out are legal. -/
def SharesLegal (shares : List Share) : Prop :=
  ∀ share ∈ shares, ∀ text, share.text = some text → AllLegal text

structure Sharing.IsLegal (sharing : Sharing) : Prop where
  closed : SharesLegal sharing.closed
  taken : AllLegal sharing.taken
  opened : SharesLegal sharing.opened

theorem splitClosingParts {text taken left : List Char}
    (split : splitClosing? text = some (taken, left)) :
    text = taken ++ left ∧ taken.getLast? = some '\x7d' := by
  obtain ⟨before, atClosing, rfl, isTaken, dropped, -, stops⟩ :=
    Text.spanAdmitted (· ≠ '\x7d') text
  simp only [splitClosing?, isTaken, dropped] at split
  cases atClosing with
  | nil => exact nomatch split
  | cons closing rest =>
      obtain ⟨rfl, rfl⟩ := Prod.mk.inj (Option.some.inj split)
      have isClosing : closing = '\x7d' := by simpa using stops closing rfl
      refine ⟨?_, isClosing ▸ List.getLast?_concat⟩
      rw [List.append_assoc, List.singleton_append]

theorem settleLegal {text : List Char} {isChanged : Bool} {after : Sharing} (legal : AllLegal text)
    (afterLegal : after.IsLegal) : SharesLegal (settle text isChanged after) := by
  unfold settle
  split
  · refine List.forall_mem_cons.2 ⟨fun shared same => ?_, afterLegal.opened⟩
    exact Option.some.inj same ▸ List.forall_mem_append.2 ⟨legal, afterLegal.taken⟩
  · refine List.forall_mem_cons.2 ⟨fun shared same => ?_, afterLegal.closed⟩
    obtain ⟨-, same⟩ := Option.ite_none_right_eq_some.1 same
    exact Option.some.inj same ▸ legal

theorem shareLegal {texts : List (List Char)} (legal : ∀ text ∈ texts, AllLegal text) :
    (share texts).IsLegal := by
  induction texts with
  | nil => exact ⟨nofun, nofun, nofun⟩
  | cons text rest inductionHypothesis =>
      obtain ⟨textLegal, restLegal⟩ := List.forall_mem_cons.1 legal
      have afterLegal := inductionHypothesis restLegal
      rw [share]
      split
      case h_1 taken left split =>
        obtain ⟨takenLegal, leftLegal⟩ :=
          List.forall_mem_append.1 ((splitClosingParts split).1 ▸ textLegal)
        exact ⟨settleLegal textLegal afterLegal, takenLegal, settleLegal leftLegal afterLegal⟩
      case h_2 =>
        refine ⟨settleLegal textLegal afterLegal,
          List.forall_mem_append.2 ⟨textLegal, afterLegal.taken⟩,
          List.forall_mem_cons.2 ⟨fun shared same => ?_, afterLegal.opened⟩⟩
        exact Option.some.inj same ▸ nofun

/-! ### Gathering -/

section

variable {outer : Declarations} {node : Node} {heading : Heading}

theorem spaceKey {inner : Declarations} (sound : inner.IsSound) {name : QualifiedName}
    (isKey : attributeKey? inner name = some (markupAddress, spaceName.base)) :
    name = spaceName := by
  obtain ⟨qualifier, base⟩ := name
  unfold attributeKey? at isKey
  split at isKey
  case isTrue => exact absurd (Prod.mk.inj (Option.some.inj isKey)).1 (by decide)
  case isFalse isQualified =>
    obtain ⟨address, resolved, same⟩ := Option.map_eq_some_iff.1 isKey
    obtain ⟨rfl, rfl⟩ := Prod.mk.inj same
    unfold Declarations.resolve? at resolved
    split at resolved
    case h_1 found isFound =>
      obtain rfl := Option.some.inj resolved
      rw [(sound qualifier).1 isFound]
      rfl
    case h_2 => exact absurd (Option.ite_none_right_eq_some.1 resolved).1 isQualified

theorem keysOfNames (inner : Declarations) (attributes : List Attribute) :
    (attributes.map Attribute.name).mapM (attributeKey? inner) =
      attributes.mapM fun found => attributeKey? inner found.name := List.mapM_map

theorem keyInside {inner : Declarations} {attributes : List Attribute}
    {keys : List (List Char × List Char)} {key : List Char × List Char}
    (areKeys : attributes.mapM (fun found => attributeKey? inner found.name) = some keys)
    (isKey : key ∈ keys) : ∃ found ∈ attributes, attributeKey? inner found.name = some key := by
  induction attributes generalizing keys with
  | nil =>
      obtain rfl := Option.some.inj areKeys
      exact nomatch isKey
  | cons found rest inductionHypothesis =>
      simp only [List.mapM_cons, Option.bind_eq_bind, Option.bind_eq_some_iff] at areKeys
      obtain ⟨first, isFirst, others, areOthers, same⟩ := areKeys
      obtain rfl := Option.some.inj same
      rcases List.mem_cons.1 isKey with rfl | isOther
      · exact ⟨found, List.mem_cons_self, isFirst⟩
      · obtain ⟨other, isInside, hasKey⟩ := inductionHypothesis areOthers isOther
        exact ⟨other, List.mem_cons_of_mem _ isInside, hasKey⟩

/-- The attribute that tells to preserve blanks. -/
def preserving : Attribute := ⟨spaceName, "preserve".toList⟩

theorem preservingWritable : preserving.IsWritable := by
  refine ⟨⟨?_, .inr ?_⟩, List.all_eq_true.1 rfl⟩
  · exact ⟨'s', "pace".toList, rfl, rfl, List.all_eq_true.1 rfl⟩
  · exact ⟨'x', "ml".toList, rfl, rfl, List.all_eq_true.1 rfl⟩

theorem spaceUndeclared (qualifier : List Char) : Declarations.nameOf qualifier ≠ spaceName := by
  intro same
  have declared := Declarations.declaredNameOf qualifier
  rw [same] at declared
  exact nomatch declared

/-- Attributes may be replaced by others of the same names. -/
theorem replacedSound {attributes : List Attribute} (sound : heading.IsSound outer)
    (writable : ∀ found ∈ attributes, found.IsWritable)
    (sameNames : attributes.map Attribute.name = heading.attributes.map Attribute.name) :
    Heading.IsSound outer { heading with attributes := attributes } := by
  obtain ⟨keys, areKeys, distinct⟩ := sound.keys
  obtain ⟨declarationsWritable, -⟩ := List.forall_mem_append.1 sound.attributes
  refine ⟨sound.name, List.forall_mem_append.2 ⟨declarationsWritable, writable⟩, ?_,
    sound.resolved, sound.allowed, ⟨keys, ?_, distinct⟩, ?_⟩
  · intro found isInside
    have isName : found.name ∈ heading.attributes.map Attribute.name :=
      sameNames ▸ List.mem_map_of_mem isInside
    obtain ⟨other, isOther, sameName⟩ := List.mem_map.1 isName
    exact sameName ▸ sound.plain other isOther
  · rw [← keysOfNames] at areKeys ⊢
    exact sameNames ▸ areKeys
  · have names := sound.names
    rw [Heading.tag, List.map_append] at names ⊢
    exact sameNames ▸ names

/-- The attribute for blanks may be added to others, for no declaration has its name, and no other
qualifier its address. -/
theorem addedSound (sound : heading.IsSound outer) (outerSound : outer.IsSound)
    (isNew : ∀ found ∈ heading.attributes, found.name ≠ spaceName) :
    Heading.IsSound outer { heading with attributes := heading.attributes ++ [preserving] } := by
  obtain ⟨keys, areKeys, distinct⟩ := sound.keys
  have innerSound := sound.innerSound outerSound
  have key : attributeKey? (heading.inner outer) spaceName =
      some (markupAddress, spaceName.base) := by
    rw [attributeKey?, if_neg (by decide), Declarations.resolve?,
      (innerSound spaceName.qualifier).2 rfl]
    rfl
  obtain ⟨declarationsWritable, plainWritable⟩ := List.forall_mem_append.1 sound.attributes
  have writable := List.forall_mem_append.2
    ⟨plainWritable, List.forall_mem_singleton.2 preservingWritable⟩
  refine ⟨sound.name, List.forall_mem_append.2 ⟨declarationsWritable, writable⟩,
    List.forall_mem_append.2 ⟨sound.plain, List.forall_mem_singleton.2 rfl⟩, sound.resolved,
    sound.allowed, ⟨keys ++ [(markupAddress, spaceName.base)], ?_, ?_⟩, ?_⟩
  · have allKeys : (heading.attributes ++ [preserving]).mapM
        (fun found => attributeKey? (heading.inner outer) found.name) =
          some (keys ++ [(markupAddress, spaceName.base)]) := by
      rw [List.mapM_append, areKeys, List.mapM_cons, preserving, key]
      rfl
    exact allKeys
  · refine List.nodup_append.2 ⟨distinct, List.nodup_singleton _, ?_⟩
    intro key isKey other isOther same
    obtain rfl := List.mem_singleton.1 isOther
    obtain ⟨found, isInside, hasKey⟩ := keyInside areKeys (same ▸ isKey)
    exact isNew found isInside (spaceKey innerSound hasKey)
  · have names := sound.names
    rw [Heading.tag, List.map_append] at names ⊢
    rw [List.map_append, ← List.append_assoc]
    refine List.nodup_append.2 ⟨names, List.nodup_singleton _, fun name isInside other isOther => ?_⟩
    obtain rfl := List.mem_singleton.1 isOther
    obtain isDeclared | isPlain := List.mem_append.1 isInside
    · obtain ⟨found, isFound, rfl⟩ := List.mem_map.1 isDeclared
      obtain ⟨entry, -, rfl⟩ := List.mem_map.1 isFound
      exact spaceUndeclared entry.1
    · obtain ⟨found, isFound, rfl⟩ := List.mem_map.1 isPlain
      exact isNew found isFound

/-- A run may be told to preserve blanks. -/
theorem preserveSound (sound : heading.IsSound outer) (outerSound : outer.IsSound) :
    (preserveSpace heading).IsSound outer := by
  unfold preserveSpace
  split
  case isTrue =>
    refine replacedSound sound (List.forall_mem_map.2 fun found isInside => ?_) ?_
    · split
      · exact preservingWritable
      · exact sound.attributes found (List.mem_append_right _ isInside)
    · rw [List.map_map]
      refine List.map_congr_left fun found _ => ?_
      rw [Function.comp_apply]
      split
      case isTrue isSpace => exact isSpace.symm
      case isFalse => rfl
  case isFalse noSpace => exact addedSound sound outerSound (by simpa using noSpace)

theorem applySound {share : Share} {children : List Node} (sound : heading.IsSound outer)
    (outerSound : outer.IsSound) (legal : ∀ text, share.text = some text → AllLegal text)
    (childrenSound : ∀ child ∈ children, child.IsSound (heading.inner outer)) :
    (share.apply heading children).IsSound outer := by
  have sameInner : (preserveSpace heading).inner outer = heading.inner outer := by
    unfold preserveSpace
    split <;> rfl
  have ofChildren {children : List Node}
      (sounds : ∀ child ∈ children, child.IsSound (heading.inner outer)) :
      (Node.element (if share.isPreserved then preserveSpace heading else heading) children).IsSound
        outer := by
    split
    · exact .element (preserveSound sound outerSound) (sameInner ▸ sounds)
    · exact .element sound sounds
  cases isText : share.text with
  | none =>
      simp only [Share.apply, isText]
      exact ofChildren childrenSound
  | some text =>
      have newChildren : ∀ child ∈ setLeadingText text children,
          child.IsSound (heading.inner outer) := by
        refine List.forall_mem_cons.2 ⟨.text (legal text isText), fun child isChild => ?_⟩
        exact childrenSound child (dropLeadingTextSubset children isChild)
      simp only [Share.apply, isText]
      exact ofChildren newChildren

/-- A node and the shares that are left stay legal. -/
structure IsGathered (outer : Declarations) (gathered : Node × List Share) : Prop where
  sound : gathered.1.IsSound outer
  left : SharesLegal gathered.2

theorem gatherAllSound {nodes : List Node} {shares : List Share}
    (each : ∀ node ∈ nodes, ∀ shares, SharesLegal shares → IsGathered outer (gather shares node))
    (legal : SharesLegal shares) :
    (∀ node ∈ (gatherAll shares nodes).1, node.IsSound outer) ∧
      SharesLegal (gatherAll shares nodes).2 := by
  induction nodes generalizing shares with
  | nil =>
      rw [gatherAll]
      exact ⟨nofun, legal⟩
  | cons node rest inductionHypothesis =>
      obtain ⟨first, eachRest⟩ := List.forall_mem_cons.1 each
      obtain ⟨sound, left⟩ := first shares legal
      obtain ⟨restSound, restLeft⟩ := inductionHypothesis eachRest left
      rw [gatherAll]
      exact ⟨List.forall_mem_cons.2 ⟨sound, restSound⟩, restLeft⟩

theorem gatherSound (sound : node.IsSound outer) (outerSound : outer.IsSound) :
    ∀ shares, SharesLegal shares → IsGathered outer (gather shares node) := by
  induction sound with
  | @element outer heading children isHeading areChildren inductionHypothesis =>
      intro shares legal
      have gathers {shares : List Share} (legal : SharesLegal shares) :=
        gatherAllSound (fun child isChild =>
          inductionHypothesis child isChild (isHeading.innerSound outerSound)) legal
      have ownLegal := ownTextsAllLegal fun child isChild => ownTextsLegal (areChildren child isChild)
      -- A paragraph hands out its own shares, a run takes one, and others pass theirs on.
      rw [gather.eq_def]
      dsimp only
      split
      · exact ⟨.element isHeading (gathers (shareLegal ownLegal).closed).1, legal⟩
      · cases shares with
        | nil => exact ⟨.element isHeading (gathers legal).1, (gathers legal).2⟩
        | cons share others =>
            obtain ⟨shareLegal, othersLegal⟩ := List.forall_mem_cons.1 legal
            exact ⟨applySound isHeading outerSound shareLegal (gathers othersLegal).1,
              (gathers othersLegal).2⟩
      · exact ⟨.element isHeading (gathers legal).1, (gathers legal).2⟩
  | text legal => exact fun shares sharesLegal => ⟨.text legal, sharesLegal⟩
  | comment ends legal noReturn =>
      exact fun shares sharesLegal => ⟨.comment ends legal noReturn, sharesLegal⟩
  | instruction isPart notReserved stops ends legal noReturn =>
      exact fun shares sharesLegal =>
        ⟨.instruction isPart notReserved stops ends legal noReturn, sharesLegal⟩

end

/-! ### Collapsing -/

section

variable {outer : Declarations} {node : Node}

theorem strippedSound (sound : node.IsSound outer) :
    (Node.text (Text.stripList (runText node))).IsSound outer :=
  .text (legalSubset (runTextLegal sound) (Text.stripListSubset _))

theorem collapseRowsSound {nodes : List Node} (sound : ∀ node ∈ nodes, node.IsSound outer)
    (inside : ∀ node ∈ nodes, (collapseRowsInside node).IsSound outer) :
    ∀ node ∈ collapseRows nodes, node.IsSound outer := by
  induction nodes with
  | nil =>
      rw [collapseRows]
      exact nofun
  | cons node rest inductionHypothesis =>
      obtain ⟨nodeSound, restSound⟩ := List.forall_mem_cons.1 sound
      obtain ⟨nodeInside, restInside⟩ := List.forall_mem_cons.1 inside
      rw [collapseRows]
      refine List.forall_mem_cons.2 ⟨?_, inductionHypothesis restSound restInside⟩
      split
      · exact strippedSound nodeSound
      · exact nodeInside

theorem collapseRowsInsideSound (sound : node.IsSound outer) :
    (collapseRowsInside node).IsSound outer := by
  induction sound with
  | element isHeading areChildren inductionHypothesis =>
      rw [collapseRowsInside]
      exact .element isHeading (collapseRowsSound areChildren inductionHypothesis)
  | text legal => exact .text legal
  | comment ends legal noReturn => exact .comment ends legal noReturn
  | instruction isPart notReserved stops ends legal noReturn =>
      exact .instruction isPart notReserved stops ends legal noReturn

theorem collapseParagraphsSound {nodes : List Node} (isCell : Bool) (left : Nat)
    (sound : ∀ node ∈ nodes, node.IsSound outer)
    (inside : ∀ node ∈ nodes, (collapseParagraphsInside node).IsSound outer) :
    ∀ node ∈ collapseParagraphs isCell left nodes, node.IsSound outer := by
  induction nodes generalizing left with
  | nil =>
      rw [collapseParagraphs]
      exact nofun
  | cons node rest inductionHypothesis =>
      obtain ⟨nodeSound, restSound⟩ := List.forall_mem_cons.1 sound
      obtain ⟨nodeInside, restInside⟩ := List.forall_mem_cons.1 inside
      have others (left : Nat) := inductionHypothesis left restSound restInside
      rw [collapseParagraphs]
      split
      · exact List.forall_mem_cons.2 ⟨strippedSound nodeSound, others _⟩
      · exact List.forall_mem_cons.2 ⟨nodeInside, others _⟩

theorem collapseParagraphsInsideSound (sound : node.IsSound outer) :
    (collapseParagraphsInside node).IsSound outer := by
  induction sound with
  | element isHeading areChildren inductionHypothesis =>
      rw [collapseParagraphsInside]
      exact .element isHeading (collapseParagraphsSound _ _ areChildren inductionHypothesis)
  | text legal => exact .text legal
  | comment ends legal noReturn => exact .comment ends legal noReturn
  | instruction isPart notReserved stops ends legal noReturn =>
      exact .instruction isPart notReserved stops ends legal noReturn

end

/-! ### Roots -/

section

variable {root collapsed : Node}

theorem collapsedSound (collapses : collapseCommands root = .ok collapsed)
    (isElement : root.IsElement) (sound : root.IsSound .standard) :
    collapsed.IsElement ∧ collapsed.IsSound .standard := by
  unfold collapseCommands at collapses
  split at collapses
  case isTrue => exact nomatch collapses
  case isFalse =>
    obtain rfl := Except.ok.inj collapses
    refine ⟨?_, collapseParagraphsInsideSound (collapseRowsInsideSound sound)⟩
    obtain ⟨heading, children, rfl⟩ := isElement
    rw [collapseRowsInside, collapseParagraphsInside]
    exact ⟨_, _, rfl⟩

/-- The root of a document stays a sound element when its commands are gathered. -/
theorem gatheredSound (isElement : root.IsElement) (sound : root.IsSound .standard) :
    (gatherCommands root).IsElement ∧ (gatherCommands root).IsSound .standard := by
  refine ⟨?_, (gatherSound sound Declarations.standardSound [] nofun).sound⟩
  obtain ⟨heading, children, rfl⟩ := isElement
  rw [gatherCommands, gather.eq_def]
  dsimp only
  split <;> exact ⟨_, _, rfl⟩

end

end Letterpress.Part
