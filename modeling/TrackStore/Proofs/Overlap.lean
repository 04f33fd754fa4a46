import Mathlib.Algebra.Order.Field.Basic
import Mathlib.Algebra.Order.Field.Rat
import Mathlib.Tactic.Linarith
import TrackStore.Geometry

/-! # The overlap of boxes

Intersection over union on exact numbers. The greatest box within two others decides everything: if
it is proper, it is no larger than either, so the union is positive; if it is not, nothing is common
to the two and the answer is zero, whatever sign their areas have.
-/
namespace TrackStore.Box

/-- The box has a positive width and a positive height. -/
structure Proper (a : Box Rat) : Prop where
  width : 0 < a.width
  height : 0 < a.height

/-- No side of the first box is beyond the same side of the second. -/
structure Within (c a : Box Rat) : Prop where
  minX : a.minX ≤ c.minX
  minY : a.minY ≤ c.minY
  maxX : c.maxX ≤ a.maxX
  maxY : c.maxY ≤ a.maxY

/-- A region of positive width and height lies within both boxes. -/
def Overlaps (a b : Box Rat) : Prop := ∃ c : Box Rat, c.Proper ∧ c.Within a ∧ c.Within b

/-- The greatest box within two others. It is inverted on an axis where they lie apart. -/
def common (a b : Box Rat) : Box Rat :=
  ⟨max a.minX b.minX, max a.minY b.minY, min a.maxX b.maxX, min a.maxY b.maxY⟩

/-- What `iou` answers with another division in place of the exact one. -/
def iouBy (divide : Rat → Rat → Rat) (a b : Box Rat) : Rat :=
  @iou Rat _ _ _ ⟨divide⟩ _ _ _ _ _ _ _ a b

variable {a b c : Box Rat}

namespace Within

theorem width_le (h : c.Within a) : c.width ≤ a.width := sub_le_sub h.maxX h.minX

theorem height_le (h : c.Within a) : c.height ≤ a.height := sub_le_sub h.maxY h.minY

theorem proper (h : c.Within a) (hc : c.Proper) : a.Proper :=
  ⟨hc.width.trans_le h.width_le, hc.height.trans_le h.height_le⟩

theorem area_le (h : c.Within a) (hc : c.Proper) : c.area ≤ a.area :=
  mul_le_mul h.width_le h.height_le hc.height.le (h.proper hc).width.le

/-- A proper box fills another only if it is that box. -/
theorem eq_of_area_le (h : c.Within a) (hc : c.Proper) (harea : a.area ≤ c.area) : c = a := by
  have hwidth : a.width ≤ c.width := by
    refine le_of_mul_le_mul_right ?_ hc.height
    calc a.width * c.height
      _ ≤ a.area := mul_le_mul_of_nonneg_left h.height_le (h.proper hc).width.le
      _ ≤ c.area := harea
  have hheight : a.height ≤ c.height := by
    refine le_of_mul_le_mul_left ?_ hc.width
    calc c.width * a.height
      _ ≤ a.area := mul_le_mul_of_nonneg_right h.width_le (h.proper hc).height.le
      _ ≤ c.area := harea
  obtain ⟨hminX, hminY, hmaxX, hmaxY⟩ := h
  unfold width at hwidth
  unfold height at hheight
  cases a
  cases c
  congr 1 <;> linarith

end Within

theorem Proper.area_pos (h : a.Proper) : 0 < a.area := mul_pos h.width h.height

theorem common_self (a : Box Rat) : a.common a = a := by
  simp only [common, max_self, min_self]

theorem within_common : c.Within (a.common b) ↔ c.Within a ∧ c.Within b := by
  constructor
  · rintro ⟨hminX, hminY, hmaxX, hmaxY⟩
    simp only [common, max_le_iff, le_min_iff] at hminX hminY hmaxX hmaxY
    exact ⟨⟨hminX.1, hminY.1, hmaxX.1, hmaxY.1⟩, ⟨hminX.2, hminY.2, hmaxX.2, hmaxY.2⟩⟩
  · rintro ⟨ha, hb⟩
    exact ⟨max_le ha.minX hb.minX, max_le ha.minY hb.minY, le_min ha.maxX hb.maxX,
      le_min ha.maxY hb.maxY⟩

theorem Within.refl (c : Box Rat) : c.Within c := ⟨le_rfl, le_rfl, le_rfl, le_rfl⟩

theorem common_within_left (a b : Box Rat) : (a.common b).Within a :=
  (within_common.mp (.refl _)).1

theorem common_within_right (a b : Box Rat) : (a.common b).Within b :=
  (within_common.mp (.refl _)).2

theorem overlaps_iff : a.Overlaps b ↔ (a.common b).Proper := by
  constructor
  · rintro ⟨c, hc, hwithin⟩
    exact (within_common.mpr hwithin).proper hc
  · intro h
    exact ⟨a.common b, h, common_within_left a b, common_within_right a b⟩

theorem Overlaps.proper (h : a.Overlaps b) : a.Proper ∧ b.Proper := by
  obtain ⟨c, hc, ha, hb⟩ := h
  exact ⟨ha.proper hc, hb.proper hc⟩

theorem intersection_comm (a b : Box Rat) : a.intersection b = b.intersection a := by
  simp only [intersection, max_comm, min_comm]

theorem intersection_of_overlaps (h : a.Overlaps b) :
    a.intersection b = (a.common b).area := by
  obtain ⟨hwidth, hheight⟩ := overlaps_iff.mp h
  exact congrArg₂ (· * ·) (if_pos hwidth) (if_pos hheight)

theorem intersection_of_not_overlaps (h : ¬ a.Overlaps b) : a.intersection b = 0 := by
  have h : ¬ (0 < (a.common b).width ∧ 0 < (a.common b).height) :=
    fun ⟨hwidth, hheight⟩ => h (overlaps_iff.mpr ⟨hwidth, hheight⟩)
  rcases not_and_or.mp h with hwidth | hheight
  · exact mul_eq_zero_of_left (if_neg hwidth) _
  · exact mul_eq_zero_of_right _ (if_neg hheight)

/-- What is common to boxes that overlap is no larger than either of them. -/
theorem intersection_bounds (h : a.Overlaps b) :
    0 < a.intersection b ∧ a.intersection b ≤ a.area ∧ a.intersection b ≤ b.area := by
  have hcommon := overlaps_iff.mp h
  rw [intersection_of_overlaps h]
  exact ⟨hcommon.area_pos, (common_within_left a b).area_le hcommon,
    (common_within_right a b).area_le hcommon⟩

theorem iouBy_eq (divide : Rat → Rat → Rat) (a b : Box Rat) :
    iouBy divide a b = if a.area + b.area - a.intersection b ≤ 0 then 0
      else divide (a.intersection b) (a.area + b.area - a.intersection b) := rfl

theorem iou_eq (a b : Box Rat) :
    a.iou b = if a.area + b.area - a.intersection b ≤ 0 then 0
      else a.intersection b / (a.area + b.area - a.intersection b) := rfl

theorem iou_of_not_overlaps (h : ¬ a.Overlaps b) : a.iou b = 0 := by
  rw [iou_eq, intersection_of_not_overlaps h, zero_div, ite_self]

theorem iou_of_overlaps (h : a.Overlaps b) :
    a.iou b = a.intersection b / (a.area + b.area - a.intersection b) ∧
      0 < a.area + b.area - a.intersection b := by
  obtain ⟨hpos, ha, hb⟩ := intersection_bounds h
  have hunion : 0 < a.area + b.area - a.intersection b := by linarith
  exact ⟨by rw [iou_eq, if_neg hunion.not_ge], hunion⟩

theorem iouBy_eq_iou {divide : Rat → Rat → Rat} (h : ∀ x y, y ≠ 0 → divide x y = x / y)
    (a b : Box Rat) : iouBy divide a b = a.iou b := by
  rw [iouBy_eq, iou_eq]
  split
  · rfl
  next hunion => exact h _ _ (lt_of_not_ge hunion).ne'

theorem iou_comm (a b : Box Rat) : a.iou b = b.iou a := by
  rw [iou_eq, iou_eq, intersection_comm, add_comm]

theorem iou_pos_iff : 0 < a.iou b ↔ a.Overlaps b := by
  constructor
  · intro h
    by_contra hnot
    exact h.ne' (iou_of_not_overlaps hnot)
  · intro h
    obtain ⟨hiou, hunion⟩ := iou_of_overlaps h
    rw [hiou]
    exact div_pos (intersection_bounds h).1 hunion

theorem iou_nonneg (a b : Box Rat) : 0 ≤ a.iou b := by
  by_cases h : a.Overlaps b
  · exact (iou_pos_iff.mpr h).le
  · exact (iou_of_not_overlaps h).ge

theorem iou_le_one (a b : Box Rat) : a.iou b ≤ 1 := by
  by_cases h : a.Overlaps b
  · obtain ⟨-, ha, hb⟩ := intersection_bounds h
    obtain ⟨hiou, hunion⟩ := iou_of_overlaps h
    rw [hiou, div_le_one hunion]
    linarith
  · rw [iou_of_not_overlaps h]
    exact zero_le_one

theorem iou_self (h : a.Proper) : a.iou a = 1 := by
  have hover : a.Overlaps a := ⟨a, h, .refl a, .refl a⟩
  have hcommon : a.intersection a = a.area := by
    rw [intersection_of_overlaps hover, common_self]
  rw [(iou_of_overlaps hover).1, hcommon, add_sub_cancel_right, div_self h.area_pos.ne']

/-- The common box fills both boxes if the answer is one. -/
theorem eq_of_iou_eq_one (h : a.iou b = 1) : a = b ∧ a.Proper := by
  have hover : a.Overlaps b := iou_pos_iff.mp (h ▸ zero_lt_one)
  have hcommon := overlaps_iff.mp hover
  obtain ⟨-, ha, hb⟩ := intersection_bounds hover
  obtain ⟨hiou, hunion⟩ := iou_of_overlaps hover
  have hfull : a.intersection b = a.area + b.area - a.intersection b := by
    rwa [hiou, div_eq_one_iff_eq hunion.ne'] at h
  rw [intersection_of_overlaps hover] at ha hb hfull
  have hleft := (common_within_left a b).eq_of_area_le hcommon (by linarith)
  have hright := (common_within_right a b).eq_of_area_le hcommon (by linarith)
  exact ⟨hleft.symm.trans hright, hleft ▸ hcommon⟩

theorem ofCorners_swap_x (x₀ y₀ x₁ y₁ : Rat) : ofCorners x₁ y₀ x₀ y₁ = ofCorners x₀ y₀ x₁ y₁ := by
  simp only [ofCorners, min_comm, max_comm]

theorem ofCorners_swap_y (x₀ y₀ x₁ y₁ : Rat) : ofCorners x₀ y₁ x₁ y₀ = ofCorners x₀ y₀ x₁ y₁ := by
  simp only [ofCorners, min_comm, max_comm]

/-- The least and the greatest of two numbers are the two numbers. -/
theorem ends_min_max (u v : Rat) :
    min u v = u ∧ max u v = v ∨ min u v = v ∧ max u v = u := by
  rcases le_total u v with h | h
  · exact .inl ⟨min_eq_left h, max_eq_right h⟩
  · exact .inr ⟨min_eq_right h, max_eq_left h⟩

/-- Whatever the two boxes are, inverted or empty ones included, nothing is divided by zero, and the
measure is symmetric and between zero and one. It is positive exactly if the boxes overlap, which
only proper boxes do, and one exactly if they are the same proper box. A box that is made from two
corners has their coordinates, in order on each axis. -/
theorem iou_laws (a b : Box Rat) :
    (∀ divide : Rat → Rat → Rat, (∀ x y, y ≠ 0 → divide x y = x / y) →
      iouBy divide a b = a.iou b) ∧
    a.iou b = b.iou a ∧
    (0 ≤ a.iou b ∧ a.iou b ≤ 1) ∧
    (0 < a.iou b ↔ a.Overlaps b) ∧
    (¬ a.Proper ∨ ¬ b.Proper → a.iou b = 0) ∧
    (a.iou b = 1 ↔ a = b ∧ a.Proper) ∧
    ∀ x₀ y₀ x₁ y₁ : Rat,
      let corners := ofCorners x₀ y₀ x₁ y₁
      ofCorners x₁ y₀ x₀ y₁ = corners ∧ ofCorners x₀ y₁ x₁ y₀ = corners ∧
        corners.minX ≤ corners.maxX ∧ corners.minY ≤ corners.maxY ∧
        (corners.minX = x₀ ∧ corners.maxX = x₁ ∨ corners.minX = x₁ ∧ corners.maxX = x₀) ∧
        (corners.minY = y₀ ∧ corners.maxY = y₁ ∨ corners.minY = y₁ ∧ corners.maxY = y₀) := by
  refine ⟨fun divide h => iouBy_eq_iou h a b, iou_comm a b, ⟨iou_nonneg a b, iou_le_one a b⟩,
    iou_pos_iff, ?_, ⟨eq_of_iou_eq_one, ?_⟩, fun x₀ y₀ x₁ y₁ => ?_⟩
  · intro himproper
    refine iou_of_not_overlaps fun hover => ?_
    obtain ⟨ha, hb⟩ := hover.proper
    exact himproper.elim (· ha) (· hb)
  · rintro ⟨rfl, h⟩
    exact iou_self h
  · exact ⟨ofCorners_swap_x x₀ y₀ x₁ y₁, ofCorners_swap_y x₀ y₀ x₁ y₁, min_le_max, min_le_max,
      ends_min_max x₀ x₁, ends_min_max y₀ y₁⟩

/-- A division that is wrong at zero is not asked there, even for two boxes without extent; a box
that is inverted on both axes has a positive area, but nothing in common with itself; and two boxes
share a third of their union. -/
theorem iou_laws_degenerate :
    let divide : Rat → Rat → Rat := fun x y => if y = 0 then -1 else x / y
    let point : Box Rat := ⟨3, 3, 3, 3⟩
    let inverted : Box Rat := ⟨10, 10, 0, 0⟩
    let left : Box Rat := ⟨0, 0, 10, 10⟩
    let right : Box Rat := ⟨5, 0, 15, 10⟩
    iouBy divide point point = 0 ∧ inverted.area = 100 ∧ inverted.iou inverted = 0 ∧
      left.iou right = 1 / 3 ∧ left.Overlaps right := by
  intro divide point inverted left right
  have himproper : ¬ point.Proper := fun h => absurd h.width (by decide +kernel)
  have hinverted : ¬ inverted.Proper := fun h => absurd h.width (by decide +kernel)
  obtain ⟨hdivide, -, -, -, hpoint, -⟩ := iou_laws point point
  obtain ⟨-, -, -, -, hnone, -⟩ := iou_laws inverted inverted
  obtain ⟨-, -, -, hoverlaps, -⟩ := iou_laws left right
  exact ⟨(hdivide divide fun _ _ hy => if_neg hy).trans (hpoint (.inl himproper)),
    by decide +kernel, hnone (.inl hinverted), by decide +kernel, hoverlaps.mp (by decide +kernel)⟩

end TrackStore.Box
