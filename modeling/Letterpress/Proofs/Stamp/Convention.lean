import Letterpress.Proofs.Stamp.Resolution
import Mathlib.Tactic.FieldSimp

/-!
This file shows that a rectangle may be described in several ways. With exact lengths all of them
are resolved to the same rectangle.
-/

namespace Letterpress.Descriptor

/-- The lower edge is given, or the distance of the upper edge from the top of the page, or the
center. With the origin at the upper left, the bottom is measured from the top as well. -/
inductive CornerForm
  | bottom
  | top
  | bottomFromTop
  | topFromTop
  | center
  deriving DecidableEq, Repr

/-- One side is given, or both are, or a scale for the natural size or for one side. -/
inductive SideForm
  | width
  | height
  | both
  | scale
  | scaledWidth
  | scaledHeight
  deriving DecidableEq, Repr

/-- This leaves out the fields that say where the rectangle is. -/
def unplaced {Length : Type} (descriptor : Descriptor Length) : Descriptor Length :=
  { descriptor with
    x := none, centerX := none, bottom := none, top := none, centerY := none, origin := "" }

/-- This leaves out the fields that say how large the rectangle is. -/
def unsized {Length : Type} (descriptor : Descriptor Length) : Descriptor Length :=
  { descriptor with width := none, height := none, scale := none }

/-- This describes the lower left corner of a rectangle of the given size. -/
def CornerForm.describe (form : CornerForm) (descriptor : Descriptor Rat) (pageHeight : Rat)
    (corner size : Rat × Rat) : Descriptor Rat :=
  let bare := descriptor.unplaced
  let distance := pageHeight - corner.2 - size.2
  match form with
  | bottom => { bare with x := some corner.1, bottom := some corner.2 }
  | top => { bare with x := some corner.1, top := some distance }
  | bottomFromTop => { bare with x := some corner.1, bottom := some distance, origin := "top-left" }
  | topFromTop => { bare with x := some corner.1, top := some distance, origin := "top-left" }
  | center =>
      { bare with
        centerX := some (corner.1 + size.1 / 2), centerY := some (corner.2 + size.2 / 2) }

/-- This describes the size that has the given width and the natural proportions. The scale is
used by the last two forms only. -/
def SideForm.describe (form : SideForm) (descriptor : Descriptor Rat) (natural : Rat × Rat)
    (givenWidth factor : Rat) : Descriptor Rat :=
  let bare := descriptor.unsized
  let givenHeight := natural.2 * givenWidth / natural.1
  match form with
  | width => { bare with width := some givenWidth }
  | height => { bare with height := some givenHeight }
  | both => { bare with width := some givenWidth, height := some givenHeight }
  | scale => { bare with scale := some (givenWidth / natural.1) }
  | scaledWidth => { bare with width := some (givenWidth / factor), scale := some factor }
  | scaledHeight =>
      { bare with
        height := some (natural.2 * givenWidth / (natural.1 * factor)), scale := some factor }

/-! ### Places -/

section

variable {Length : Type} [Measure Length] {descriptor : Descriptor Length} {pageHeight : Length}
  {corner size : Length × Length}

/-- A position is found if both edges are. -/
theorem positionIff : descriptor.position pageHeight size = .ok corner ↔
    descriptor.left? size.1 = some corner.1 ∧
      descriptor.lower? pageHeight size.2 = some corner.2 := by
  unfold position
  split
  case h_1 noLeft => simp [noLeft]
  case h_2 left noLower => simp [noLower]
  case h_3 left lower isLeft isLower => simp [isLeft, isLower, Prod.ext_iff]

end

theorem belowTopOfDistance (pageHeight lower height : Rat) :
    belowTop pageHeight (pageHeight - lower - height) height = lower := by
  change pageHeight - (pageHeight - lower - height) - height = lower
  ring

theorem edgeOfCenter (edge side : Rat) : edge + side / 2 - side / (Measure.two : Rat) = edge := by
  change edge + side / 2 - side / 2 = edge
  ring

/-- All forms describe the same corner. -/
theorem cornerFormsAgree (form : CornerForm) (descriptor : Descriptor Rat) (pageHeight : Rat)
    (corner size : Rat × Rat) :
    (form.describe descriptor pageHeight corner size).position pageHeight size = .ok corner := by
  have downwards := belowTopOfDistance pageHeight corner.2 size.2
  rw [positionIff]
  cases form with
  | bottom => exact ⟨rfl, rfl⟩
  | top => exact ⟨rfl, congrArg some downwards⟩
  | bottomFromTop => exact ⟨rfl, congrArg some downwards⟩
  | topFromTop => exact ⟨rfl, congrArg some downwards⟩
  | center =>
      exact ⟨congrArg some (edgeOfCenter corner.1 size.1),
        congrArg some (edgeOfCenter corner.2 size.2)⟩

/-! ### Sizes -/

theorem exactSideIff (length : Rat) : isSide length = true ↔ 0 < length := by
  change decide (0 < length) = true ↔ _
  rw [decide_eq_true_iff]

theorem exactRatio {denominator : Rat} (nonzero : denominator ≠ 0) (numerator : Rat) :
    ratio numerator denominator = numerator / denominator := by
  rw [ratio, if_neg]
  exact fun isZero => nonzero (of_decide_eq_true isZero)

theorem exactScaled {descriptor : Descriptor Rat} {factor : Rat} (positive : 0 < factor)
    (isScale : descriptor.scale = some factor) (size : Rat × Rat) :
    descriptor.scaledSize size = (size.1 * factor, size.2 * factor) := by
  rw [scaledSize, isScale]
  exact if_pos (decide_eq_true positive)

/-- All forms describe the same size. -/
theorem sideFormsAgree (form : SideForm) (descriptor : Descriptor Rat) {natural : Rat × Rat}
    {givenWidth factor : Rat} (naturalWidth : 0 < natural.1) (naturalHeight : 0 < natural.2)
    (positiveWidth : 0 < givenWidth) (positiveFactor : 0 < factor) :
    (form.describe descriptor natural givenWidth factor).size natural =
      .ok (givenWidth, natural.2 * givenWidth / natural.1) := by
  have positiveHeight : 0 < natural.2 * givenWidth / natural.1 :=
    div_pos (mul_pos naturalHeight positiveWidth) naturalWidth
  have widthNotZero := naturalWidth.ne'
  have heightNotZero := naturalHeight.ne'
  have factorNotZero := positiveFactor.ne'
  rw [sizeIff, exactSideIff, exactSideIff]
  refine ⟨?_, positiveWidth, positiveHeight⟩
  cases form with
  | width =>
      change (givenWidth, natural.2 * ratio givenWidth natural.1) = _
      rw [exactRatio widthNotZero, mul_div_assoc]
  | height =>
      change (natural.1 * ratio (natural.2 * givenWidth / natural.1) natural.2, _) = _
      rw [exactRatio heightNotZero]
      congr 1
      field_simp
  | both => rfl
  | scale =>
      rw [exactScaled (div_pos positiveWidth naturalWidth) rfl]
      change (natural.1 * (givenWidth / natural.1), natural.2 * (givenWidth / natural.1)) = _
      rw [mul_div_cancel₀ _ widthNotZero, mul_div_assoc]
  | scaledWidth =>
      rw [exactScaled positiveFactor rfl]
      change (givenWidth / factor * factor,
        natural.2 * ratio (givenWidth / factor) natural.1 * factor) = _
      rw [exactRatio widthNotZero]
      congr 1
      · field_simp
      · field_simp
  | scaledHeight =>
      rw [exactScaled positiveFactor rfl]
      change (natural.1 * ratio (natural.2 * givenWidth / (natural.1 * factor)) natural.2 * factor,
        natural.2 * givenWidth / (natural.1 * factor) * factor) = _
      rw [exactRatio heightNotZero]
      congr 1
      · field_simp
      · field_simp

/-! ### Rectangles -/

section

variable (cornerForm : CornerForm) (sideForm : SideForm) (descriptor : Descriptor Rat)

/-- The fields of the corner do not matter for the size. -/
theorem cornerFormKeepsSize (pageHeight : Rat) (corner size natural : Rat × Rat) :
    (cornerForm.describe descriptor pageHeight corner size).size natural =
      descriptor.size natural := by
  cases cornerForm <;> rfl

theorem cornerFormKeepsPage (pageHeight : Rat) (corner size : Rat × Rat) (count : Nat) :
    (cornerForm.describe descriptor pageHeight corner size).page count = descriptor.page count := by
  cases cornerForm <;> rfl

theorem sideFormKeepsPage (natural : Rat × Rat) (width factor : Rat) (count : Nat) :
    (sideForm.describe descriptor natural width factor).page count = descriptor.page count := by
  cases sideForm <;> rfl

end

/-- With exact lengths, all forms of the corner are resolved to the same corner, and all forms of the
size to the same size. Any two of them can be combined. -/
theorem rectangleFormsAgree {natural : Rat × Rat} (naturalWidth : 0 < natural.1)
    (naturalHeight : 0 < natural.2) (descriptor : Descriptor Rat) (corner : Rat × Rat) :
    (∀ (pageHeight : Rat) (size : Rat × Rat), descriptor.size natural = .ok size →
        ∀ form : CornerForm,
          (form.describe descriptor pageHeight corner size).size natural = .ok size ∧
            (form.describe descriptor pageHeight corner size).position pageHeight size =
              .ok corner) ∧
      ∀ width factor : Rat, 0 < width → 0 < factor → ∀ sideForm : SideForm,
        (sideForm.describe descriptor natural width factor).size natural =
            .ok (width, natural.2 * width / natural.1) ∧
          ∀ (cornerForm : CornerForm) (pageHeights : List Rat) (page : Nat) (pageHeight : Rat),
            descriptor.page pageHeights.length = .ok page → pageHeights[page]? = some pageHeight →
            (cornerForm.describe (sideForm.describe descriptor natural width factor) pageHeight
                corner (width, natural.2 * width / natural.1)).resolve pageHeights natural =
              .ok ⟨page, corner.1, corner.2, width, natural.2 * width / natural.1⟩ := by
  constructor
  · intro pageHeight size sized form
    exact ⟨(cornerFormKeepsSize ..).trans sized,
      cornerFormsAgree form descriptor pageHeight corner size⟩
  · intro width factor positiveWidth positiveFactor sideForm
    have sized := sideFormsAgree sideForm descriptor naturalWidth naturalHeight positiveWidth
      positiveFactor
    refine ⟨sized, ?_⟩
    intro cornerForm pageHeights page pageHeight onPage isHeight
    rw [resolveIff, cornerFormKeepsPage, sideFormKeepsPage, cornerFormKeepsSize,
      List.getD_eq_getElem?_getD, isHeight]
    exact ⟨onPage, sized, cornerFormsAgree ..⟩

/-- On the second page, a center with a height and a scale gives the same rectangle as the plain
lower edge with a width. -/
theorem centeredStampAgrees :
    (0 : Rat) < 200 ∧ (0 : Rat) < 100 ∧
      (CornerForm.center.describe (SideForm.scaledHeight.describe
          ⟨none, some 2, none, none, none, none, none, none, none, none, ""⟩ (200, 100) 100 (1 / 2))
          600 (250, 375) (100, 100 * 100 / 200)).resolve [800, 600] (200, 100) =
        .ok ⟨1, 250, 375, 100, 100 * 100 / 200⟩ ∧
      (CornerForm.bottom.describe (SideForm.width.describe
          ⟨none, some 2, none, none, none, none, none, none, none, none, ""⟩ (200, 100) 100 (1 / 2))
          600 (250, 375) (100, 100 * 100 / 200)).resolve [800, 600] (200, 100) =
        .ok ⟨1, 250, 375, 100, 100 * 100 / 200⟩ := by
  have naturalWidth : (0 : Rat) < 200 := by norm_num
  have naturalHeight : (0 : Rat) < 100 := by norm_num
  have agree := (@rectangleFormsAgree (200, 100) naturalWidth naturalHeight
    ⟨none, some 2, none, none, none, none, none, none, none, none, ""⟩ (250, 375)).2
      100 (1 / 2) naturalHeight (by norm_num)
  have onPage : Descriptor.page
      (⟨none, some 2, none, none, none, none, none, none, none, none, ""⟩ : Descriptor Rat) 2 =
        .ok 1 := by
    decide +kernel
  exact ⟨naturalWidth, naturalHeight, (agree .scaledHeight).2 .center [800, 600] 1 600 onPage rfl,
    (agree .width).2 .bottom [800, 600] 1 600 onPage rfl⟩

end Letterpress.Descriptor
