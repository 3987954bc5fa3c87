import PromptCad.Proofs.Stl.Binary
import PromptCad.Proofs.Stl.Normal

/-! Which binary records hold finite numbers alone. It depends on the corners of a facet and never on its normal: a
corner has to be in the range of 32-bit floats, which end long before those of 64 bits. -/

namespace PromptCad.Stl.Binary

open Decimal

def IsFiniteWord (w : UInt32) : Prop := w.toNat % 2 ^ 31 < binary32.infinity

def Record.words (r : Record) : List UInt32 := r.normal.toList ++ r.a.toList ++ r.b.toList ++ r.c.toList

/-- A float that is rounded to a finite 32-bit float: from the middle between the greatest of those and the next power of
two on, infinity is no farther away. -/
def Narrowable (x : Float) : Prop := x.isFinite = true ∧ |exactValue x| < 2 ^ 128 - 2 ^ 103

variable {x : Float} {w : UInt32}

theorem exists_last : ∃ q, q + 1 = binary32.infinity ∧ q % 2 = 1 ∧
    binary32.value q + binary32.value (q + 1) = 2 * (2 ^ 128 - 2 ^ 103) := by
  have hvalue : ∀ m, m ≤ 2 ^ 24 → 2 ^ 23 ≤ m → binary32.value (253 * 2 ^ 23 + m) = m * 2 ^ (104 : ℤ) :=
    fun m hm hfull => binary32.value_pattern hm (.inr hfull)
  refine ⟨253 * 2 ^ 23 + (2 ^ 24 - 1), by decide, by decide, ?_⟩
  rw [Nat.add_assoc, Nat.sub_add_cancel (by norm_num), hvalue _ (by norm_num) (by norm_num),
    hvalue _ le_rfl (by norm_num)]
  norm_num

theorem isFiniteWord_iff (h : Narrows x w) : IsFiniteWord w ↔ Narrowable x := by
  by_cases hfinite : x.isFinite = true
  · have hrounds := h.finite hfinite
    rw [← abs_exactValue] at hrounds
    obtain ⟨q, hq, hodd, hmiddle⟩ := exists_last
    have hlast : q < binary32.infinity := by omega
    constructor
    · refine fun hword => ⟨hfinite, ?_⟩
      by_contra hc
      refine absurd hword (Nat.not_lt.mpr ?_)
      rw [← hq]
      rcases (not_lt.mp hc).lt_or_eq with hlt | heq
      · exact hrounds.lt_of_middle_lt hlast (by linarith)
      · exact hrounds.lt_of_middle_eq hlast hodd (by linarith)
    · exact fun ⟨_, hlt⟩ => Nat.lt_of_le_of_lt (hrounds.le_of_lt_middle hlast.le (by linarith)) hlast
  · have hnot : ¬ Narrowable x := fun h => hfinite h.1
    refine iff_of_false (Nat.not_lt.mpr ?_) hnot
    by_cases hnan : x.isNaN = true
    · exact (h.notANumber hnan).le
    · exact (h.infinite (Bool.eq_false_iff.mpr hnan) (Bool.eq_false_iff.mpr hfinite)).ge

theorem narrowable_of_small {k : ℤ} (hk : k ≤ 127) (h : Small k x) : Narrowable x := by
  refine ⟨h.finite, (h.le.trans (zpow_le_zpow_right₀ (by norm_num) hk)).trans_lt ?_⟩
  norm_num

theorem isFiniteWords_iff {v : Point} {w : Vec3 UInt32} (h : NarrowsEach v w) :
    (∀ n ∈ w.toList, IsFiniteWord n) ↔ ∀ x ∈ v.toList, Narrowable x := by
  rw [Vec3.forall_mem_toList, Vec3.forall_mem_toList, isFiniteWord_iff h.1, isFiniteWord_iff h.2.1,
    isFiniteWord_iff h.2.2]

/-- The normal of a facet is in range wherever the corners are. -/
theorem Record.Holds.isFinite_iff {r : Record} {f : Facet} (h : r.Holds f) :
    (∀ n ∈ r.words, IsFiniteWord n) ↔ ∀ p ∈ f.corners, ∀ x ∈ p.toList, Narrowable x := by
  have hcorners : (∀ p ∈ f.corners, ∀ x ∈ p.toList, Narrowable x) ↔
      (∀ x ∈ f.a.toList, Narrowable x) ∧ (∀ x ∈ f.b.toList, Narrowable x) ∧ ∀ x ∈ f.c.toList, Narrowable x := by
    simp [Facet.corners]
  have hnormal : (∀ p ∈ f.corners, ∀ x ∈ p.toList, Narrowable x) → ∀ x ∈ f.normal.toList, Narrowable x := fun hf x hx =>
    narrowable_of_small (by norm_num) (Facet.isSmall_normal (fun p hp x hx => (hf p hp x hx).1) x hx)
  simp only [words, List.mem_append, or_imp, forall_and, isFiniteWords_iff h.normal, isFiniteWords_iff h.a,
    isFiniteWords_iff h.b, isFiniteWords_iff h.c]
  rw [hcorners] at hnormal ⊢
  constructor
  · rintro ⟨⟨⟨-, ha⟩, hb⟩, hc⟩
    exact ⟨ha, hb, hc⟩
  · rintro ⟨ha, hb, hc⟩
    exact ⟨⟨⟨hnormal ⟨ha, hb, hc⟩, ha⟩, hb⟩, hc⟩

end PromptCad.Stl.Binary
