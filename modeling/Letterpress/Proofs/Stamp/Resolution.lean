import Letterpress.Proofs.Number.ExactValue
import Letterpress.Proofs.Result
import Letterpress.Stamp.Placement
import Mathlib.Data.List.Forall2

/-!
This file tells what becomes of a batch of descriptors. Either each of them is resolved on its own, to
a rectangle on a page of the document, or the batch fails at the first one that is not.
-/

namespace Letterpress

/-- A descriptor alone has these problems. The others are those of a request. -/
def PlacementProblem.IsOwn {Length : Type} : PlacementProblem Length → Prop
  | pageOutOfRange .. => True
  | invalidSize .. => True
  | missingX => True
  | missingY => True
  | _ => False

/-- The details of a descriptor do not name a position yet. -/
theorem PlacementProblem.ownDetails {Length : Type} {problem : PlacementProblem Length}
    (isOwn : problem.IsOwn) (wording : Wording) (write : Length → Value) :
    ∀ detail ∈ problem.details wording write, detail.1 ≠ "placement" := by
  cases problem with
  | malformed => exact isOwn.elim
  | missing => exact isOwn.elim
  | atPosition _ _ => exact isOwn.elim
  | pageOutOfRange index count => simp [details]
  | invalidSize width height => simp [details]
  | missingX => simp [details]
  | missingY => simp [details]

namespace Descriptor

section

variable {Length : Type} [Measure Length] {descriptor : Descriptor Length}
  {descriptors : List (Descriptor Length)} {pageHeights : List Length} {natural size : Length × Length}
  {placement : Placement Length} {problem : PlacementProblem Length} {count index : Nat}

/-! ### One descriptor -/

theorem pageIff : descriptor.page count = .ok index ↔
    descriptor.requestedPage = index ∧ index < count := by
  simp only [page]
  split
  case isTrue isPage =>
    rw [Except.ok.injEq]
    omega
  case isFalse notPage =>
    refine iff_of_false nofun ?_
    omega

theorem sizeIff : descriptor.size natural = .ok size ↔
    descriptor.scaledSize (descriptor.unscaledSize natural) = size ∧
      isSide size.1 = true ∧ isSide size.2 = true := by
  simp only [Descriptor.size]
  split
  case isTrue isFound =>
    rw [Except.ok.injEq]
    constructor
    · rintro rfl
      exact ⟨rfl, by simpa using isFound⟩
    · exact And.left
  case isFalse notFound =>
    refine iff_of_false nofun ?_
    rintro ⟨rfl, isFound⟩
    exact notFound (by simpa using isFound)

/-- A descriptor is resolved if its page, its size and its position are found. -/
theorem resolveIff : descriptor.resolve pageHeights natural = .ok placement ↔
    descriptor.page pageHeights.length = .ok placement.page ∧
      descriptor.size natural = .ok (placement.width, placement.height) ∧
      descriptor.position (pageHeights.getD placement.page Measure.missing)
        (placement.width, placement.height) = .ok (placement.x, placement.y) := by
  constructor
  · intro resolved
    obtain ⟨page, foundPage, resolved⟩ := bindOkIff.1 resolved
    obtain ⟨size, foundSize, resolved⟩ := bindOkIff.1 resolved
    obtain ⟨corner, foundCorner, same⟩ := bindOkIff.1 resolved
    obtain rfl := Except.ok.inj same
    exact ⟨foundPage, foundSize, foundCorner⟩
  · rintro ⟨foundPage, foundSize, foundCorner⟩
    rw [resolve, foundPage]
    change (descriptor.size natural).bind _ = _
    rw [foundSize]
    change (descriptor.position _ _).bind _ = _
    rw [foundCorner]
    rfl

/-- A resolved placement lies on a page of the document. -/
theorem resolvedPage (resolved : descriptor.resolve pageHeights natural = .ok placement) :
    placement.page < pageHeights.length :=
  (pageIff.1 (resolveIff.1 resolved).1).2

/-- A resolved placement has two sides. -/
theorem resolvedSides (resolved : descriptor.resolve pageHeights natural = .ok placement) :
    isSide placement.width = true ∧ isSide placement.height = true :=
  (sizeIff.1 (resolveIff.1 resolved).2.1).2

theorem resolveProblem (fails : descriptor.resolve pageHeights natural = .error problem) :
    problem.IsOwn := by
  obtain noPage | ⟨page, -, fails⟩ := bindErrorIff.1 fails
  · simp only [Descriptor.page] at noPage
    split at noPage
    case isTrue => exact nomatch noPage
    case isFalse =>
      obtain rfl := Except.error.inj noPage
      trivial
  obtain noSize | ⟨size, -, fails⟩ := bindErrorIff.1 fails
  · simp only [Descriptor.size] at noSize
    split at noSize
    case isTrue => exact nomatch noSize
    case isFalse =>
      obtain rfl := Except.error.inj noSize
      trivial
  obtain noCorner | ⟨corner, -, fails⟩ := bindErrorIff.1 fails
  · unfold position at noCorner
    split at noCorner
    case h_1 =>
      obtain rfl := Except.error.inj noCorner
      trivial
    case h_2 =>
      obtain rfl := Except.error.inj noCorner
      trivial
    case h_3 => exact nomatch noCorner
  · exact nomatch fails

/-! ### Batches -/

/-- A batch is resolved exactly if every descriptor is, in order and each on its own. -/
theorem resolveFromIff {placements : List (Placement Length)} (position : Nat) :
    resolveFrom pageHeights natural position descriptors = .ok placements ↔
      List.Forall₂ (fun descriptor placement =>
        descriptor.resolve pageHeights natural = .ok placement) descriptors placements := by
  induction descriptors generalizing position placements with
  | nil => simp [resolveFrom, eq_comm]
  | cons descriptor rest inductionHypothesis =>
      rw [resolveFrom, List.forall₂_cons_left_iff]
      cases resolved : descriptor.resolve pageHeights natural with
      | error problem => simp
      | ok placement =>
          simp only [← inductionHypothesis (position + 1), Except.ok.injEq]
          cases resolveFrom pageHeights natural (position + 1) rest with
          | error problem => simp [Except.map]
          | ok placementsRest => simp [Except.map, eq_comm]

/-- A batch that is not resolved fails at the first descriptor that is not. -/
theorem firstFailure {position : Nat}
    (fails : resolveFrom pageHeights natural position descriptors = .error problem) :
    ∃ before descriptor after own, descriptors = before ++ descriptor :: after ∧
      (∀ earlier ∈ before, ∃ placement, earlier.resolve pageHeights natural = .ok placement) ∧
      descriptor.resolve pageHeights natural = .error own ∧
      problem = .atPosition (before.length + position) own := by
  induction descriptors generalizing position with
  | nil => exact nomatch fails
  | cons descriptor rest inductionHypothesis =>
      rw [resolveFrom] at fails
      cases resolved : descriptor.resolve pageHeights natural with
      | error own =>
          rw [resolved] at fails
          refine ⟨[], descriptor, rest, own, rfl, ?_, resolved, ?_⟩
          · exact List.forall_mem_nil _
          · rw [← Except.error.inj fails, List.length_nil, Nat.zero_add]
      | ok placement =>
          have failsRest :
              resolveFrom pageHeights natural (position + 1) rest = .error problem := by
            rw [resolved] at fails
            cases found : resolveFrom pageHeights natural (position + 1) rest with
            | error own =>
                rw [found] at fails
                exact congrArg Except.error (Except.error.inj fails)
            | ok placements =>
                rw [found] at fails
                exact nomatch fails
          obtain ⟨before, failing, after, own, rfl, earlier, failsOwn, rfl⟩ :=
            inductionHypothesis failsRest
          refine ⟨descriptor :: before, failing, after, own, rfl, ?_, failsOwn, ?_⟩
          · exact List.forall_mem_cons.2 ⟨⟨placement, resolved⟩, earlier⟩
          · rw [List.length_cons]
            congr 1
            omega

/-- Descriptors that can be resolved have placements, one for each and in order. -/
theorem resolvableIff :
    (∃ placements, List.Forall₂ (fun descriptor placement =>
        descriptor.resolve pageHeights natural = .ok placement) descriptors placements) ↔
      ∀ descriptor ∈ descriptors, ∃ placement,
        descriptor.resolve pageHeights natural = .ok placement := by
  induction descriptors with
  | nil => exact ⟨fun _ => List.forall_mem_nil _, fun _ => ⟨[], .nil⟩⟩
  | cons descriptor rest inductionHypothesis =>
      rw [List.forall_mem_cons, ← inductionHypothesis]
      constructor
      · rintro ⟨all, resolvedAll⟩
        obtain ⟨placement, placements, resolved, resolvedRest, -⟩ :=
          List.forall₂_cons_left_iff.1 resolvedAll
        exact ⟨⟨placement, resolved⟩, placements, resolvedRest⟩
      · rintro ⟨⟨placement, resolved⟩, placements, resolvedRest⟩
        exact ⟨placement :: placements, .cons resolved resolvedRest⟩

/-- What holds of every result holds of all results in a batch. -/
theorem resolvedAll {First Second Failure : Type} {resolve : First → Except Failure Second}
    {property : Second → Prop} {firsts : List First} {seconds : List Second}
    (resolved : List.Forall₂ (fun first second => resolve first = .ok second) firsts seconds)
    (holds : ∀ first second, resolve first = .ok second → property second) :
    ∀ second ∈ seconds, property second := by
  induction resolved with
  | nil => exact List.forall_mem_nil _
  | cons resolvedFirst _ inductionHypothesis =>
      exact List.forall_mem_cons.2 ⟨holds _ _ resolvedFirst, inductionHypothesis⟩

end

/-! ### Rounded lengths -/

/-- A side is a finite length above zero. -/
theorem isSideIff (length : Binary64) :
    isSide length = true ↔ length.isFinite = true ∧ 0 < length.toRat := by
  rw [isSide, Bool.and_eq_true]
  refine and_congr_right fun isFinite => ?_
  have isZero : (Binary64.zero false).extended = Extended.ofRat 0 :=
    congrArg Extended.ofRat (Binary64.valueOfZero false)
  have isExact : length.extended = Extended.ofRat length.toRat := by
    cases length with
    | finite _ _ _ => rfl
    | _ => exact nomatch isFinite
  change decide (length.compare? (.zero false) = some .gt) = true ↔ _
  rw [decide_eq_true_iff, Binary64.compareIsExact (Binary64.notMissing isFinite) rfl, isZero,
    isExact, compareExtended, Option.some_inj, cmp_eq_gt_iff]

/-- A batch is resolved, each descriptor on its own and in order, or it fails at the first descriptor
that cannot be resolved. The problem of that one is told with its position. -/
theorem batchResolvesOrNamesFailure (descriptors : List (Descriptor Binary64))
    (pageHeights : List Binary64) (natural : Binary64 × Binary64) :
    ((∃ placements, resolveAll descriptors pageHeights natural = .ok placements) ↔
        ∀ descriptor ∈ descriptors, ∃ placement,
          descriptor.resolve pageHeights natural = .ok placement) ∧
      ((∃ placements, resolveAll descriptors pageHeights natural = .ok placements ∧
          List.Forall₂ (fun descriptor placement =>
            descriptor.resolve pageHeights natural = .ok placement) descriptors placements ∧
          ∀ placement ∈ placements, placement.page < pageHeights.length ∧
            (placement.width.isFinite = true ∧ 0 < placement.width.toRat) ∧
            placement.height.isFinite = true ∧ 0 < placement.height.toRat) ∨
        ∃ before descriptor after own problem, descriptors = before ++ descriptor :: after ∧
          (∀ earlier ∈ before, ∃ placement,
            earlier.resolve pageHeights natural = .ok placement) ∧
          descriptor.resolve pageHeights natural = .error own ∧
          resolveAll descriptors pageHeights natural = .error problem ∧
          problem.message =
            "Placement #" ++ decimalText (before.length + 1) ++ ": " ++ own.message ∧
          ∀ wording write, problem.details wording write =
              own.details wording write ++ [("placement", .int (before.length + 1))] ∧
            ∀ detail ∈ own.details wording write, detail.1 ≠ "placement") := by
  constructor
  · rw [← resolvableIff]
    exact exists_congr fun placements => resolveFromIff 1
  cases found : resolveAll descriptors pageHeights natural with
  | ok placements =>
      have resolved := (resolveFromIff 1).1 found
      refine .inl ⟨placements, rfl, resolved, resolvedAll resolved fun descriptor placement own => ?_⟩
      rw [← isSideIff, ← isSideIff]
      exact ⟨resolvedPage own, resolvedSides own⟩
  | error problem =>
      obtain ⟨before, descriptor, after, own, parted, earlier, failsOwn, isProblem⟩ :=
        firstFailure found
      refine .inr ⟨before, descriptor, after, own, problem, parted, earlier, failsOwn, rfl, ?_, ?_⟩
      · rw [isProblem]
        rfl
      · intro wording write
        refine ⟨?_, PlacementProblem.ownDetails (resolveProblem failsOwn) wording write⟩
        rw [isProblem, PlacementProblem.details, Nat.cast_add, Nat.cast_one]

end Descriptor

end Letterpress
