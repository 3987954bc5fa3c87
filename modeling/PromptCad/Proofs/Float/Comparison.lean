import Mathlib.Order.Compare
import PromptCad.Bounds
import PromptCad.Proofs.Float.Estimates

/-! Comparisons of finite floats are comparisons of their values. The greater of two floats is finite only if both are,
unless one of them is infinite downwards or not a number. -/

namespace PromptCad.Decimal

open Float.Model Float.Model.UnpackedFloat

theorem exists_compare {u v : UnpackedFloat} (hu : IsStored u) (hv : IsStored v) :
    ∃ o, u.compare v = some o ∧ v.compare u = some o.swap := by
  cases u with
  | notANumber => exact hu.elim
  | infinity s => exact hu.elim
  | zero s => cases v with
    | notANumber => exact hv.elim
    | infinity t => exact hv.elim
    | zero t => exact ⟨.eq, rfl, rfl⟩
    | finite t n f hn => cases t with
      | negative => exact ⟨.gt, rfl, rfl⟩
      | positive => exact ⟨.lt, rfl, rfl⟩
  | finite s m e hm => cases v with
    | notANumber => exact hv.elim
    | infinity t => exact hv.elim
    | zero t => cases s with
      | negative => exact ⟨.lt, rfl, rfl⟩
      | positive => exact ⟨.gt, rfl, rfl⟩
    | finite t n f hn =>
      have hswap : (compare f e).then (compare n m) = ((compare e f).then (compare m n)).swap := by
        rw [Ordering.swap_then, Int.compare_swap, Nat.compare_swap]
      cases s with
      | negative => cases t with
        | negative => exact ⟨_, rfl, congrArg (fun o => some (Ordering.swap o)) hswap⟩
        | positive => exact ⟨.lt, rfl, rfl⟩
      | positive => cases t with
        | negative => exact ⟨.gt, rfl, rfl⟩
        | positive => exact ⟨_, rfl, congrArg some hswap⟩

theorem compare_eq {u v : UnpackedFloat} (hu : IsStored u) (hv : IsStored v) :
    u.compare v = some (cmp (storedValue u) (storedValue v)) := by
  have hlt := compare_eq_lt hu hv
  have hgt := compare_eq_lt hv hu
  obtain ⟨o, ho, hswap⟩ := exists_compare hu hv
  rw [ho, Option.some_inj] at hlt
  rw [hswap, Option.some_inj, Ordering.swap_eq_lt] at hgt
  rw [ho]
  congr 1
  cases o with
  | lt => exact ((cmp_eq_lt_iff _ _).mpr (hlt.mp rfl)).symm
  | eq => exact ((cmp_eq_eq_iff _ _).mpr (le_antisymm (not_lt.mp (mt hgt.mpr nofun)) (not_lt.mp (mt hlt.mpr nofun)))).symm
  | gt => exact ((cmp_eq_gt_iff _ _).mpr (hgt.mp rfl)).symm

variable {x y : Float}

theorem le_iff_exactValue (hx : x.isFinite = true) (hy : y.isFinite = true) :
    x ≤ y ↔ exactValue x ≤ exactValue y := by
  obtain ⟨hsx, hvx⟩ := stored_unpack hx
  obtain ⟨hsy, hvy⟩ := stored_unpack hy
  show decide ((x.toModel.unpack.compare y.toModel.unpack).any (·.isLE) = true) = true ↔ _
  rw [decide_eq_true_iff, compare_eq hsx hsy, hvx, hvy, Option.any_some, Ordering.isLE_iff_ne_gt,
    cmp_eq_gt_iff, not_lt]

theorem beq_iff_exactValue (hx : x.isFinite = true) (hy : y.isFinite = true) :
    (x == y) = true ↔ exactValue x = exactValue y := by
  obtain ⟨hsx, hvx⟩ := stored_unpack hx
  obtain ⟨hsy, hvy⟩ := stored_unpack hy
  show (x.toModel.unpack.compare y.toModel.unpack == some .eq) = true ↔ _
  rw [beq_iff_eq, compare_eq hsx hsy, hvx, hvy, Option.some_inj, cmp_eq_eq_iff]

theorem isNaN_infinity (negative : Bool) : (infinity negative).isNaN = false := by cases negative <;> decide

/-- Absolute values of what is a number: finite floats and the infinity above them. -/
def IsExtent (x : Float) : Prop := x.isFinite = true ∨ x = infinity false

theorem IsExtent.isNaN_eq_false (hx : IsExtent x) : x.isNaN = false := by
  rcases hx with hx | rfl
  · exact isNaN_eq_false_of_isFinite hx
  · exact isNaN_infinity false

theorem isExtent_abs (hx : x.isNaN = false) : IsExtent x.abs ∧ (x.abs.isFinite = true → x.isFinite = true) := by
  by_cases hfinite : x.isFinite = true
  · exact ⟨.inl (exactValue_abs hfinite).1, fun _ => hfinite⟩
  · have habs : x.abs = infinity false := by
      change x.toModel.unpack.isNaN = false at hx
      change ¬ x.toModel.unpack.isFinite = true at hfinite
      show Float.ofModel (.pack x.toModel.unpack.abs) = infinity false
      cases hunpack : x.toModel.unpack with
      | notANumber => rw [hunpack] at hx; cases hx
      | infinity s => rfl
      | zero s => rw [hunpack] at hfinite; exact absurd rfl hfinite
      | finite s m e hm => rw [hunpack] at hfinite; exact absurd rfl hfinite
    rw [habs]
    exact ⟨.inr rfl, fun h => absurd h (by decide)⟩

theorem unpack_infinity : (infinity false).toModel.unpack = .infinity .positive := rfl

theorem lt_infinity (hx : x.isFinite = true) : x < infinity false := by
  obtain ⟨hstored, -⟩ := stored_unpack hx
  show decide ((x.toModel.unpack.compare (infinity false).toModel.unpack == some .lt) = true) = true
  rw [unpack_infinity]
  cases hunpack : x.toModel.unpack with
  | notANumber => exact (hunpack ▸ hstored : IsStored .notANumber).elim
  | infinity s => exact (hunpack ▸ hstored : IsStored (.infinity s)).elim
  | zero s => rfl
  | finite s m e hm => cases s <;> rfl

theorem infinity_not_lt (hx : IsExtent x) : ¬ infinity false < x := by
  rcases hx with hx | rfl
  · obtain ⟨hstored, -⟩ := stored_unpack hx
    show ¬ decide (((infinity false).toModel.unpack.compare x.toModel.unpack == some .lt) = true) = true
    rw [unpack_infinity]
    cases hunpack : x.toModel.unpack with
    | notANumber => exact (hunpack ▸ hstored : IsStored .notANumber).elim
    | infinity s => exact (hunpack ▸ hstored : IsStored (.infinity s)).elim
    | zero s => exact Bool.false_ne_true
    | finite s m e hm => exact Bool.false_ne_true
  · decide

theorem greater_extent (hx : IsExtent x) (hy : IsExtent y) :
    IsExtent (greater x y) ∧ ((greater x y).isFinite = true →
      x.isFinite = true ∧ y.isFinite = true ∧ exactValue (greater x y) = max (exactValue x) (exactValue y)) := by
  rw [greater, hx.isNaN_eq_false, hy.isNaN_eq_false, if_neg Bool.false_ne_true, if_neg Bool.false_ne_true]
  split
  · next hlt =>
    refine ⟨hy, fun hfinite => ?_⟩
    rcases hx with hx | rfl
    · exact ⟨hx, hfinite, (max_eq_right ((lt_iff_exactValue hx hfinite).mp hlt).le).symm⟩
    · exact absurd hlt (infinity_not_lt hy)
  · next hge =>
    refine ⟨hx, fun hfinite => ?_⟩
    rcases hy with hy | rfl
    · exact ⟨hfinite, hy, (max_eq_left (not_lt.mp (mt (lt_iff_exactValue hfinite hy).mpr hge))).symm⟩
    · exact absurd (lt_infinity hfinite) hge

end PromptCad.Decimal
