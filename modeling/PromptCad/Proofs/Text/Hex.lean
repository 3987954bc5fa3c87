import Mathlib.Algebra.Group.Nat.Defs
import PromptCad.Text.Hex

/-! Numbers in base sixteen are read back from their digits. -/

namespace PromptCad.Text

theorem readHex?_append (a b : List Char) :
    readHex? (a ++ b) = (readHex? a).bind fun n => b.foldlM (fun n c => (hexValue? c).map (16 * n + ·)) n := by
  rw [readHex?, List.foldlM_append]
  rfl

theorem readHex?_hexPadded {width n : Nat} (h : n < 16 ^ width) : readHex? (hexPadded width n) = some n := by
  induction width generalizing n with
  | zero =>
    obtain rfl : n = 0 := by omega
    rfl
  | succ width ih =>
    have hdiv : n / 16 < 16 ^ width := by
      rw [Nat.pow_succ] at h
      omega
    have hsum : 16 * (n / 16) + n % 16 = n := Nat.div_add_mod n 16
    rw [hexPadded, readHex?_append, ih hdiv]
    simp [hexValue?_hexDigit (Nat.mod_lt n (by decide)), hsum]

theorem readHex?_hexChars (n : Nat) : readHex? (hexChars n) = some n := by
  refine readHex?_hexPadded ?_
  calc n < 2 ^ (n.log2 + 1) := Nat.lt_log2_self
    _ ≤ 2 ^ (4 * (n.log2 / 4 + 1)) := Nat.pow_le_pow_right (by decide) (by omega)
    _ = 16 ^ (n.log2 / 4 + 1) := by rw [Nat.pow_mul]

theorem isSome_hexValue?_of_mem_hexPadded {width n : Nat} {c : Char} (h : c ∈ hexPadded width n) :
    (hexValue? c).isSome = true := by
  induction width generalizing n with
  | zero => cases h
  | succ width ih =>
    rw [hexPadded, List.mem_append, List.mem_singleton] at h
    obtain h | rfl := h
    · exact ih h
    · rw [hexValue?_hexDigit (Nat.mod_lt n (by decide))]
      rfl

end PromptCad.Text
