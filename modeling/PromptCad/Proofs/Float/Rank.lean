import Mathlib.Algebra.Order.SuccPred
import PromptCad.Proofs.Float.Comparison
import PromptCad.Proofs.Float.Neighbours

/-! The order of all floats that are numbers, the infinities included: they compare as their places in the row of all
patterns do. Of a list of numbers one is the least and one the greatest, whichever of two equal ones is kept. -/

namespace PromptCad.Decimal

open Float.Model Float.Model.UnpackedFloat

/-- The place of a float in the order of all floats. Both zeros are at the middle. -/
def rank (x : Float) : ℤ := if isNegative x then -(magnitude x : ℤ) else magnitude x

def valueAt : ℤ → ℚ
  | .ofNat n => binary64.value n
  | .negSucc n => -binary64.value (n + 1)

variable {x y z : Float}

theorem valueAt_lt {j k : ℤ} (h : j < k) : valueAt j < valueAt k := by
  refine strictMono_int_of_lt_succ (f := valueAt) (fun k => ?_) h
  cases k with
  | ofNat n => exact binary64.value_strictMono n.lt_succ_self
  | negSucc n =>
    cases n with
    | zero =>
      have hpos := binary64.value_strictMono Nat.zero_lt_one
      show -binary64.value 1 < binary64.value 0
      rw [binary64_value_zero] at hpos ⊢
      exact neg_neg_of_pos hpos
    | succ n => exact neg_lt_neg (binary64.value_strictMono (n + 1).lt_succ_self)

theorem exactValue_eq_valueAt (x : Float) : exactValue x = valueAt (rank x) := by
  unfold exactValue rank
  split
  · cases magnitude x with
    | zero => rw [binary64_value_zero, neg_zero]; exact binary64_value_zero.symm
    | succ n => rfl
  · rfl

theorem finite_or_infinite (hx : x.isNaN = false) : x.isFinite = true ∨ ∃ negative, x = infinity negative := by
  change x.toModel.unpack.isNaN = false at hx
  show x.toModel.unpack.isFinite = true ∨ _
  have hpack : Float.ofModel (.pack x.toModel.unpack) = x := ofBits_toBits x
  cases hunpack : x.toModel.unpack with
  | notANumber => rw [hunpack] at hx; cases hx
  | infinity s =>
    rw [hunpack] at hpack
    rw [← hpack]
    cases s with
    | positive => exact .inr ⟨false, rfl⟩
    | negative => exact .inr ⟨true, rfl⟩
  | zero s => exact .inl rfl
  | finite s m e hm => exact .inl rfl

theorem rank_infinity (negative : Bool) :
    rank (infinity negative) = if negative then -(binary64.infinity : ℤ) else binary64.infinity := by
  cases negative <;> decide

theorem rank_bounds (hx : x.isFinite = true) : -(binary64.infinity : ℤ) < rank x ∧ rank x < binary64.infinity := by
  have hlt : (magnitude x : ℤ) < binary64.infinity := by exact_mod_cast (isFinite_iff x).mp hx
  unfold rank
  split <;> omega

theorem compare_infinity {u : UnpackedFloat} (hu : IsStored u) (negative : Bool) :
    u.compare (infinity negative).toModel.unpack = some (if negative then .gt else .lt) ∧
      (infinity negative).toModel.unpack.compare u = some (if negative then .lt else .gt) := by
  cases u with
  | notANumber => exact hu.elim
  | infinity s => exact hu.elim
  | zero s => cases negative <;> exact ⟨rfl, rfl⟩
  | finite s m e hm => cases s <;> cases negative <;> exact ⟨rfl, rfl⟩

theorem compare_rank (hx : x.isNaN = false) (hy : y.isNaN = false) :
    x.toModel.unpack.compare y.toModel.unpack = some (cmp (rank x) (rank y)) := by
  rcases finite_or_infinite hx with hx | ⟨s, rfl⟩ <;> rcases finite_or_infinite hy with hy | ⟨t, rfl⟩
  · obtain ⟨hsx, hvx⟩ := stored_unpack hx
    obtain ⟨hsy, hvy⟩ := stored_unpack hy
    have hmono : StrictMono valueAt := fun _ _ => valueAt_lt
    rw [compare_eq hsx hsy, hvx, hvy, exactValue_eq_valueAt, exactValue_eq_valueAt, hmono.cmp_map_eq]
  · obtain ⟨hlow, hhigh⟩ := rank_bounds hx
    rw [(compare_infinity (stored_unpack hx).1 t).1, rank_infinity]
    cases t with
    | false => exact congrArg some ((cmp_eq_lt_iff _ _).mpr hhigh).symm
    | true => exact congrArg some ((cmp_eq_gt_iff _ _).mpr hlow).symm
  · obtain ⟨hlow, hhigh⟩ := rank_bounds hy
    rw [(compare_infinity (stored_unpack hy).1 s).2, rank_infinity]
    cases s with
    | false => exact congrArg some ((cmp_eq_gt_iff _ _).mpr hhigh).symm
    | true => exact congrArg some ((cmp_eq_lt_iff _ _).mpr hlow).symm
  · rw [rank_infinity, rank_infinity]
    cases s <;> cases t <;> decide

theorem lt_iff_rank (hx : x.isNaN = false) (hy : y.isNaN = false) : x < y ↔ rank x < rank y := by
  show decide ((x.toModel.unpack.compare y.toModel.unpack == some .lt) = true) = true ↔ _
  rw [decide_eq_true_iff, beq_iff_eq, compare_rank hx hy, Option.some_inj, cmp_eq_lt_iff]

theorem le_iff_rank (hx : x.isNaN = false) (hy : y.isNaN = false) : x ≤ y ↔ rank x ≤ rank y := by
  show decide ((x.toModel.unpack.compare y.toModel.unpack).any (·.isLE) = true) = true ↔ _
  rw [decide_eq_true_iff, compare_rank hx hy, Option.any_some, Ordering.isLE_iff_ne_gt,
    cmp_eq_gt_iff, not_lt]

theorem beq_iff_rank (hx : x.isNaN = false) (hy : y.isNaN = false) : (x == y) = true ↔ rank x = rank y := by
  show (x.toModel.unpack.compare y.toModel.unpack == some .eq) = true ↔ _
  rw [beq_iff_eq, compare_rank hx hy, Option.some_inj, cmp_eq_eq_iff]

theorem lesser_rank (hx : x.isNaN = false) (hy : y.isNaN = false) :
    (lesser x y).isNaN = false ∧ rank (lesser x y) = min (rank x) (rank y) := by
  rw [lesser, hx, hy, if_neg Bool.false_ne_true, if_neg Bool.false_ne_true]
  split
  · next hlt => exact ⟨hy, (min_eq_right ((lt_iff_rank hy hx).mp hlt).le).symm⟩
  · next hge => exact ⟨hx, (min_eq_left (not_lt.mp (mt (lt_iff_rank hy hx).mpr hge))).symm⟩

theorem greater_rank (hx : x.isNaN = false) (hy : y.isNaN = false) :
    (greater x y).isNaN = false ∧ rank (greater x y) = max (rank x) (rank y) := by
  rw [greater, hx, hy, if_neg Bool.false_ne_true, if_neg Bool.false_ne_true]
  split
  · next hlt => exact ⟨hy, (max_eq_right ((lt_iff_rank hx hy).mp hlt).le).symm⟩
  · next hge => exact ⟨hx, (max_eq_left (not_lt.mp (mt (lt_iff_rank hx hy).mpr hge))).symm⟩

/-- The one that is left of a list of numbers, if of any two the one is kept whose place is taken. -/
theorem foldl_rank {pick : Float → Float → Float} {place : ℤ → ℤ → ℤ}
    (hpick : ∀ {x y : Float}, x.isNaN = false → y.isNaN = false →
      (pick x y).isNaN = false ∧ rank (pick x y) = place (rank x) (rank y))
    (hx : x.isNaN = false) {l : List Float} (hl : ∀ y ∈ l, y.isNaN = false) :
    (l.foldl pick x).isNaN = false ∧ rank (l.foldl pick x) = (l.map rank).foldl place (rank x) := by
  induction l generalizing x with
  | nil => exact ⟨hx, rfl⟩
  | cons y l ih =>
    obtain ⟨hy, hl⟩ := List.forall_mem_cons.mp hl
    obtain ⟨hnumber, hrank⟩ := hpick hx hy
    rw [List.foldl_cons, List.map_cons, List.foldl_cons, ← hrank]
    exact ih hnumber hl

namespace Nearest

variable {v w : ℚ}

theorem rank_of_nonneg (h : Nearest z v) (hv : 0 ≤ v) : rank z = magnitude z := by
  rcases hv.lt_or_eq with hpos | rfl
  · rw [rank, h.positive hpos, if_neg Bool.false_ne_true]
  · have hrounds := h.rounds
    rw [abs_zero] at hrounds
    rw [rank, hrounds.unique BinaryFormat.rounds_zero, Nat.cast_zero, neg_zero, ite_self]

theorem rank_of_neg (h : Nearest z v) (hv : v < 0) : rank z = -magnitude z := if_pos (h.negative hv)

theorem rank_le (hy : Nearest y v) (hz : Nearest z w) (h : v ≤ w) : rank y ≤ rank z := by
  rcases lt_or_ge w 0 with hw | hw
  · have hv : v < 0 := h.trans_lt hw
    have hmono := hz.rounds.mono hy.rounds (by rw [abs_of_neg hw, abs_of_neg hv]; linarith)
    rw [hy.rank_of_neg hv, hz.rank_of_neg hw]
    omega
  · rw [hz.rank_of_nonneg hw]
    rcases lt_or_ge v 0 with hv | hv
    · rw [hy.rank_of_neg hv]
      omega
    · have hmono := hy.rounds.mono hz.rounds (by rwa [abs_of_nonneg hv, abs_of_nonneg hw])
      rw [hy.rank_of_nonneg hv]
      omega

theorem rank_eq (hy : Nearest y v) (hz : Nearest z v) : rank y = rank z :=
  le_antisymm (hy.rank_le hz le_rfl) (hz.rank_le hy le_rfl)

end Nearest

end PromptCad.Decimal
