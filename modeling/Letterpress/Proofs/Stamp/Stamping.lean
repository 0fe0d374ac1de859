import Letterpress.Proofs.Stamp.Resolution
import Letterpress.Stamp.SealedFile
import Mathlib.Data.List.Perm.Basic
import Mathlib.Tactic.SplitIfs

/-!
This file shows that a stamping draws all placements or none. Every placement is drawn once, on its
own page.
-/

namespace Letterpress

/-! ### The pages of placements -/

namespace PageStamps

/-- A placement goes to its own page, behind the others there. -/
theorem lookupAdd (placement : Placement Binary64) (stamps : PageStamps) (page : Nat) :
    (add placement stamps).lookup page =
      if page = placement.page then some ((stamps.lookup page).getD [] ++ [placement])
      else stamps.lookup page := by
  induction stamps with
  | nil =>
      rw [add, Table.lookupCons]
      rfl
  | cons first rest inductionHypothesis =>
      unfold add
      split_ifs with isFirst isPage isPage
      · simp [Table.lookupCons, isFirst, isPage]
      · simp [Table.lookupCons, isFirst, isPage]
      · rw [Table.lookupCons, Table.lookupCons, inductionHypothesis]
        simp [isPage, Ne.symm isFirst]
      · simp [Table.lookupCons, inductionHypothesis, isPage]

theorem lookupFoldl (placements : List (Placement Binary64)) (stamps : PageStamps) (page : Nat) :
    ((placements.foldl (fun stamps placement => add placement stamps) stamps).lookup page).getD [] =
      (stamps.lookup page).getD [] ++ placements.filter fun placement => placement.page = page := by
  induction placements generalizing stamps with
  | nil => simp
  | cons placement rest inductionHypothesis =>
      rw [List.foldl_cons, inductionHypothesis, lookupAdd]
      by_cases same : page = placement.page
      · simp [same]
      · simp [same, Ne.symm same]

/-- A page gets the placements that name it, in the order of the request. -/
theorem lookupOfPlacements (placements : List (Placement Binary64)) (page : Nat) :
    ((ofPlacements placements).lookup page).getD [] =
      placements.filter fun placement => placement.page = page :=
  lookupFoldl placements [] page

end PageStamps

/-- The placements on the first pages are those of one page after the other. -/
theorem gatheredByPage (placements : List (Placement Binary64)) (count : Nat) :
    ((List.range count).flatMap fun page =>
        placements.filter fun placement => placement.page = page).Perm
      (placements.filter fun placement => placement.page < count) := by
  induction count with
  | zero => simp
  | succ count inductionHypothesis =>
      rw [List.range_succ, List.flatMap_append, List.flatMap_singleton]
      have parted := List.filter_append_perm (fun placement => decide (placement.page < count))
        (placements.filter fun placement => placement.page < count + 1)
      have before : ((placements.filter fun placement => placement.page < count + 1).filter
          fun placement => decide (placement.page < count)) =
          placements.filter fun placement => placement.page < count := by
        rw [List.filter_filter]
        refine List.filter_congr fun placement _ => ?_
        rw [Bool.eq_iff_iff]
        simp only [Bool.and_eq_true, decide_eq_true_eq]
        omega
      have last : ((placements.filter fun placement => placement.page < count + 1).filter
          fun placement => !decide (placement.page < count)) =
          placements.filter fun placement => placement.page = count := by
        rw [List.filter_filter]
        refine List.filter_congr fun placement _ => ?_
        rw [Bool.eq_iff_iff]
        simp only [Bool.and_eq_true, Bool.not_eq_true', decide_eq_true_eq, decide_eq_false_iff_not]
        omega
      rw [before, last] at parted
      exact (inductionHypothesis.append_right _).trans parted

namespace StampedPage

variable {pages : List Page} {placements : List (Placement Binary64)}

theorem pagesOfPlacements (pages : List Page) (placements : List (Placement Binary64)) :
    (ofPlacements pages placements).map page = pages := by
  apply List.ext_getElem
  · simp [ofPlacements, ofStamps]
  · intro index inStamped inPages
    simp [ofPlacements, ofStamps]

/-- Each page carries the placements that name it. -/
theorem stampsOfPlacements (pages : List Page) (placements : List (Placement Binary64)) :
    (ofPlacements pages placements).map stamps =
      (List.range pages.length).map fun page =>
        placements.filter fun placement => placement.page = page := by
  apply List.ext_getElem
  · simp [ofPlacements, ofStamps]
  · intro index inPages inRange
    simp [ofPlacements, ofStamps, PageStamps.lookupOfPlacements]

/-- The pages stay as they are and in order. Each of them carries the placements that name it, in
their order, and every placement is drawn once. -/
structure Draws (pages : List Page) (placements : List (Placement Binary64))
    (stamped : List StampedPage) : Prop where
  samePages : stamped.map page = pages
  ownStamps : ∀ (index : Nat) (drawn : StampedPage), stamped[index]? = some drawn →
    drawn.stamps = placements.filter fun placement => placement.page = index
  unnamed : ∀ (index : Nat) (drawn : StampedPage), stamped[index]? = some drawn →
    (drawn.isStamped = false ↔ ∀ placement ∈ placements, placement.page ≠ index)
  drawnOnce : (stamped.flatMap stamps).Perm placements

theorem drawsPlacements (inRange : ∀ placement ∈ placements, placement.page < pages.length) :
    Draws pages placements (ofPlacements pages placements) := by
  have own (index : Nat) (drawn : StampedPage)
      (isDrawn : (ofPlacements pages placements)[index]? = some drawn) :
      drawn.stamps = placements.filter fun placement => placement.page = index := by
    have atIndex := congrArg (·[index]?) (stampsOfPlacements pages placements)
    simp only [List.getElem?_map, isDrawn, Option.map_some] at atIndex
    obtain ⟨number, isNumber, same⟩ := Option.map_eq_some_iff.1 atIndex.symm
    obtain ⟨inPages, rfl⟩ := List.getElem?_eq_some_iff.1 isNumber
    simpa using same.symm
  refine ⟨pagesOfPlacements pages placements, own, fun index drawn isDrawn => ?_, ?_⟩
  · simp [isStamped, own index drawn isDrawn]
  · have all : (placements.filter fun placement => placement.page < pages.length) = placements :=
      List.filter_eq_self.2 fun placement isInside => decide_eq_true (inRange placement isInside)
    rw [List.flatMap_def, stampsOfPlacements, ← List.flatMap_def]
    simpa only [all] using gatheredByPage placements pages.length

end StampedPage

/-! ### Stampings -/

section

variable {pages : List Page} {content : Content} {image : Image}
  {descriptors : List (Descriptor Binary64)} {stamped : List StampedPage}

/-- The descriptors name the placements in order, each on its own. -/
def ResolveTo (pages : List Page) (image : Image) (descriptors : List (Descriptor Binary64))
    (placements : List (Placement Binary64)) : Prop :=
  List.Forall₂ (fun descriptor placement =>
    descriptor.resolve (pages.map Page.height) image.natural = .ok placement) descriptors placements

theorem ResolveTo.inRange {placements : List (Placement Binary64)}
    (resolve : ResolveTo pages image descriptors placements) :
    ∀ placement ∈ placements, placement.page < pages.length :=
  Descriptor.resolvedAll resolve fun descriptor placement resolved => by
    simpa using Descriptor.resolvedPage resolved

/-- The descriptors name placements if each of them can be resolved. -/
theorem resolveToIff : (∃ placements, ResolveTo pages image descriptors placements) ↔
    ∀ descriptor ∈ descriptors, ∃ placement,
      descriptor.resolve (pages.map Page.height) image.natural = .ok placement :=
  Descriptor.resolvableIff

theorem stampPagesIff :
    stampPages pages image descriptors = .ok stamped ↔
      ∃ placements, ResolveTo pages image descriptors placements ∧
        stamped = StampedPage.ofPlacements pages placements := by
  unfold stampPages ResolveTo
  simp only [← Descriptor.resolveFromIff 1]
  rw [Descriptor.resolveAll]
  cases Descriptor.resolveFrom (pages.map Page.height) image.natural 1 descriptors with
  | error problem => simp
  | ok placements => simp [eq_comm]

theorem contentOfFormat (accepted : (ImageFormat.ofBytes? image.content).isSome = true) :
    image.content.isEmpty = false := by
  rw [Bool.eq_false_iff]
  intro isEmpty
  have noBytes : image.content.toList = [] := by
    have noSize : image.content.size = 0 := by simpa [ByteArray.isEmpty] using isEmpty
    rw [ByteArray.toList, ByteArray.toList.loop, if_neg (by omega), List.reverse_nil]
  rw [ImageFormat.ofBytes?, noBytes] at accepted
  exact absurd accepted (by decide)

theorem contentOfPages (found : content.pages? = some pages) : content.isEmpty = false := by
  cases content with
  | pages _ => rfl
  | bytes _ => exact nomatch found

/-- What is asked for before anything is placed decides together with the placements. -/
theorem stampIff :
    stamp content image descriptors = .ok stamped ↔
      descriptors ≠ [] ∧ (ImageFormat.ofBytes? image.content).isSome = true ∧
        ∃ pages, content.pages? = some pages ∧ stampPages pages image descriptors = .ok stamped := by
  constructor
  · intro drawn
    unfold stamp at drawn
    split_ifs at drawn with noDescriptors
    split at drawn
    case h_1 => exact nomatch drawn
    case h_2 => exact nomatch drawn
    case h_3 format pages accepted found =>
      refine ⟨fun empty => noDescriptors (List.isEmpty_iff.2 empty), ?_, pages, found, drawn⟩
      rw [accepted, Option.isSome_some]
  · rintro ⟨notEmpty, accepted, pages, found, drawn⟩
    obtain ⟨format, isFormat⟩ := Option.isSome_iff_exists.1 accepted
    rw [stamp, if_neg (by simpa using notEmpty), contentOfFormat accepted, contentOfPages found,
      isFormat, found]
    exact drawn

/-- A stamping fails, and then no file is written, or it draws all placements that its descriptors
name. It fails only where something is missing or a descriptor cannot be resolved. -/
theorem drawsAllOrNothing (content : Content) (image : Image)
    (descriptors : List (Descriptor Binary64)) (known : List String) (path output : String) :
    ((∃ failure, stamp content image descriptors = .error failure ∧
          SealedFile.write known path output (stamp content image descriptors) = .error failure ∧
          SealedFile.filesAfter known
            (SealedFile.write known path output (stamp content image descriptors)) = known) ∨
        ∃ pages placements stamped, content.pages? = some pages ∧
          stamp content image descriptors = .ok stamped ∧
          ResolveTo pages image descriptors placements ∧
          StampedPage.Draws pages placements stamped) ∧
      ((∃ stamped, stamp content image descriptors = .ok stamped) ↔
        descriptors ≠ [] ∧ (ImageFormat.ofBytes? image.content).isSome = true ∧
          ∃ pages, content.pages? = some pages ∧ ∀ descriptor ∈ descriptors, ∃ placement,
            descriptor.resolve (pages.map Page.height) image.natural = .ok placement) := by
  refine ⟨?_, ?_⟩
  · cases drawn : stamp content image descriptors with
    | error failure => exact .inl ⟨failure, rfl, rfl, rfl⟩
    | ok stamped =>
        obtain ⟨-, -, pages, found, drawnPages⟩ := stampIff.1 drawn
        obtain ⟨placements, resolve, rfl⟩ := stampPagesIff.1 drawnPages
        exact .inr ⟨pages, placements, _, found, rfl, resolve,
          StampedPage.drawsPlacements resolve.inRange⟩
  · constructor
    · rintro ⟨stamped, drawn⟩
      obtain ⟨notEmpty, accepted, pages, found, drawnPages⟩ := stampIff.1 drawn
      obtain ⟨placements, resolve, -⟩ := stampPagesIff.1 drawnPages
      exact ⟨notEmpty, accepted, pages, found, resolveToIff.1 ⟨placements, resolve⟩⟩
    · rintro ⟨notEmpty, accepted, pages, found, resolvable⟩
      obtain ⟨placements, resolve⟩ := resolveToIff.2 resolvable
      exact ⟨_, stampIff.2 ⟨notEmpty, accepted, pages, found,
        stampPagesIff.2 ⟨placements, resolve, rfl⟩⟩⟩

end

end Letterpress
