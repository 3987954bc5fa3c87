import Mathlib.Algebra.Group.Nat.Defs
import PromptCad.Decimal.Numeral

/-! Numerals of natural numbers: they hold digits alone, at least one, and read back as the number they were written
for. -/

namespace PromptCad.Decimal

theorem digitValue_digitChar (n : Nat) : digitValue (digitChar n) = n % 10 := by
  have hall : ∀ m ∈ List.range 10, digitValue (digitChar m) = m := by decide
  have h := hall (n % 10) (List.mem_range.mpr (Nat.mod_lt n (by decide)))
  rwa [digitChar, Nat.mod_mod] at h

theorem isDigit_digitChar (n : Nat) : isDigit (digitChar n) = true := by
  have hall : ∀ m ∈ List.range 10, isDigit (digitChar m) = true := by decide
  have h := hall (n % 10) (List.mem_range.mpr (Nat.mod_lt n (by decide)))
  rwa [digitChar, Nat.mod_mod] at h

theorem isDigit_iff {c : Char} : isDigit c = true ↔ '0' ≤ c ∧ c ≤ '9' := by
  simp [isDigit]

theorem digitValue_lt {c : Char} (h : isDigit c = true) : digitValue c < 10 := by
  have hle : c.toNat ≤ '9'.toNat := (isDigit_iff.mp h).2
  have hnine : '9'.toNat = 57 := rfl
  have hzero : '0'.toNat = 48 := rfl
  rw [digitValue]
  omega

theorem ne_of_isDigit {c d : Char} (h : isDigit c = true) (hd : isDigit d = false) : c ≠ d := by
  rintro rfl
  exact Bool.false_ne_true (hd.symm.trans h)

theorem pushDigits_ne_nil (fuel n : Nat) (rest : List Char) : pushDigits (fuel + 1) n rest ≠ [] := by
  induction fuel generalizing n rest with
  | zero => rw [pushDigits]; split <;> simp [pushDigits]
  | succ fuel ih =>
    rw [pushDigits]
    split
    · simp
    · exact ih _ _

theorem isDigit_of_mem_pushDigits {fuel n : Nat} {rest : List Char} (h : ∀ c ∈ rest, isDigit c = true) :
    ∀ c ∈ pushDigits fuel n rest, isDigit c = true := by
  induction fuel generalizing n rest with
  | zero => exact h
  | succ fuel ih =>
    have hcons : ∀ c ∈ digitChar n :: rest, isDigit c = true := by
      intro c hc
      rcases List.mem_cons.mp hc with rfl | hc
      · exact isDigit_digitChar n
      · exact h c hc
    rw [pushDigits]
    split
    · exact hcons
    · exact ih hcons

/-- Reading goes on after the digits with the number that they stand for. -/
theorem readDigits_pushDigits {fuel n : Nat} (h : n < 2 ^ fuel) (rest : List Char) :
    readDigits (pushDigits fuel n rest) = rest.foldl (fun n c => 10 * n + digitValue c) n := by
  induction fuel generalizing n rest with
  | zero =>
    obtain rfl : n = 0 := by omega
    rfl
  | succ fuel ih =>
    rw [pushDigits]
    split
    · next hlt =>
      have hv : digitValue (digitChar n) = n := by rw [digitValue_digitChar, Nat.mod_eq_of_lt hlt]
      simp [readDigits, hv]
    · have hdiv : n / 10 < 2 ^ fuel := by rw [Nat.pow_succ] at h; omega
      have hsum : 10 * (n / 10) + n % 10 = n := Nat.div_add_mod n 10
      rw [ih hdiv, List.foldl_cons, digitValue_digitChar, hsum]

theorem exists_pushDigits {fuel n : Nat} (hpos : 0 < n) (h : n < 2 ^ fuel) (rest : List Char) :
    ∃ c cs, pushDigits fuel n rest = c :: cs ∧ c ≠ '0' := by
  induction fuel generalizing n rest with
  | zero => omega
  | succ fuel ih =>
    rw [pushDigits]
    split
    · next hlt =>
      refine ⟨digitChar n, rest, rfl, ?_⟩
      intro hzero
      have hvalue := digitValue_digitChar n
      rw [hzero, Nat.mod_eq_of_lt hlt] at hvalue
      exact absurd hvalue (Nat.ne_of_lt hpos)
    · exact ih (by omega) (by rw [Nat.pow_succ] at h; omega) _

theorem exists_natChars {n : Nat} (hpos : 0 < n) : ∃ c cs, natChars n = c :: cs ∧ c ≠ '0' :=
  exists_pushDigits hpos Nat.lt_log2_self []

theorem natChars_ne_nil (n : Nat) : natChars n ≠ [] := pushDigits_ne_nil _ _ _

theorem isDigit_of_mem_natChars {n : Nat} : ∀ c ∈ natChars n, isDigit c = true :=
  isDigit_of_mem_pushDigits (by simp)

theorem readDigits_natChars (n : Nat) : readDigits (natChars n) = n :=
  readDigits_pushDigits Nat.lt_log2_self []

theorem readNat?_of_isDigit {bound : Nat} {ds : List Char} (hne : ds ≠ []) (hd : ∀ c ∈ ds, isDigit c = true)
    (hb : readDigits ds ≤ bound) : readNat? bound ds = some (readDigits ds) := by
  have hplus : ds.head? ≠ some '+' := by
    intro h
    have := hd '+' (List.mem_of_head? h)
    exact absurd this (by decide)
  have hany : ds.any (!isDigit ·) = false := by
    rw [List.any_eq_false]
    intro c hc
    simp [hd c hc]
  simp [readNat?, hplus, hne, hany, hb]

theorem readNat?_natChars {bound n : Nat} (h : n ≤ bound) : readNat? bound (natChars n) = some n := by
  have hr := readDigits_natChars n
  rw [readNat?_of_isDigit (natChars_ne_nil n) isDigit_of_mem_natChars (by omega), hr]

end PromptCad.Decimal
