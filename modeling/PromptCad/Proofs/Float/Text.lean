import Mathlib.Data.List.TakeWhile
import PromptCad.Decimal.Layout
import PromptCad.Decimal.Literal
import PromptCad.Proofs.Decimal.Numeral
import PromptCad.Proofs.Float.Bits
import PromptCad.Proofs.Float.Shortest

/-! A finite float is read back from its text bit for bit. The text spells the shortest decimal of the magnitude, that
decimal lies in the interval of the float, and a literal in the interval is rounded to the float. -/

namespace PromptCad.Decimal

theorem foldl_digits (ds : List Char) (n : Nat) :
    ds.foldl (fun n c => 10 * n + digitValue c) n = n * 10 ^ ds.length + readDigits ds := by
  induction ds generalizing n with
  | nil => simp [readDigits]
  | cons c ds ih =>
    have hcons : readDigits (c :: ds) = digitValue c * 10 ^ ds.length + readDigits ds := by
      rw [readDigits, List.foldl_cons, ih, Nat.mul_zero, Nat.zero_add]
    rw [List.foldl_cons, ih, hcons, List.length_cons, Nat.pow_succ]
    ring

theorem readDigits_append_eq (a b : List Char) : readDigits (a ++ b) = readDigits a * 10 ^ b.length + readDigits b := by
  rw [readDigits_append, foldl_digits]

theorem readDigits_zeros (n : Nat) : readDigits (zeros n) = 0 := by
  induction n with
  | zero => rfl
  | succ n ih =>
    have hcons : zeros (n + 1) = ['0'] ++ zeros n := rfl
    rw [hcons, readDigits_append_eq, ih]
    simp [readDigits, digitValue]

theorem readDigits_cons (c : Char) (ds : List Char) :
    readDigits (c :: ds) = digitValue c * 10 ^ ds.length + readDigits ds := by
  rw [← List.singleton_append, readDigits_append_eq, readDigits, List.foldl_cons, List.foldl_nil, Nat.mul_zero,
    Nat.zero_add]

theorem readDigits_lt {ds : List Char} (h : ∀ c ∈ ds, isDigit c = true) : readDigits ds < 10 ^ ds.length := by
  induction ds with
  | nil => decide
  | cons c ds ih =>
    obtain ⟨hc, hds⟩ := List.forall_mem_cons.mp h
    have hlt := ih hds
    have hle := Nat.mul_le_mul_right (10 ^ ds.length) (Nat.le_of_lt_succ (digitValue_lt hc))
    rw [readDigits_cons, List.length_cons, Nat.pow_succ]
    omega

theorem lt_ten_pow_length_natChars (n : Nat) : n < 10 ^ (natChars n).length := by
  have hlt : readDigits (natChars n) < 10 ^ (natChars n).length := readDigits_lt isDigit_of_mem_natChars
  rwa [readDigits_natChars] at hlt

theorem ten_pow_length_natChars_le {n : Nat} (hpos : 0 < n) : 10 ^ ((natChars n).length - 1) ≤ n := by
  obtain ⟨c, ds, hlist, hc⟩ := exists_natChars hpos
  have hdigit : isDigit c = true := isDigit_of_mem_natChars c (by rw [hlist]; exact List.mem_cons_self)
  have hvalue : 1 ≤ digitValue c := by
    have hle : '0'.toNat ≤ c.toNat := (isDigit_iff.mp hdigit).1
    have hne : c.toNat ≠ '0'.toNat := fun h => hc (Char.toNat_inj.mp h)
    rw [digitValue]
    omega
  have hread := readDigits_natChars n
  rw [hlist, readDigits_cons] at hread
  rw [hlist, List.length_cons, Nat.add_sub_cancel, ← hread]
  exact (Nat.le_mul_of_pos_left _ hvalue).trans (Nat.le_add_right _ _)

theorem isDigit_of_mem_zeros {n : Nat} {c : Char} (h : c ∈ zeros n) : isDigit c = true := by
  rw [List.eq_of_mem_replicate h]
  decide

def Literal.value (l : Literal) : ℚ := l.digits * 10 ^ l.exponent

/-- Digits with a point among them. There is one in front of it, and no zero there in front of another digit. -/
theorem withPoint_cases (n places : Nat) :
    ∃ whole fraction, withPoint (natChars n) places = whole ++ '.' :: fraction ∧ whole ≠ [] ∧
      (∀ c ∈ whole ++ fraction, isDigit c = true) ∧ readDigits (whole ++ fraction) = n ∧ fraction.length = places ∧
      (0 < n → whole.head? = some '0' → whole.length = 1) := by
  rw [withPoint]
  generalize hds : zeros (places + 1 - (natChars n).length) ++ natChars n = ds
  have hlen : ds.length = max (places + 1) (natChars n).length := by
    rw [← hds]
    simp only [zeros, List.length_append, List.length_replicate]
    omega
  refine ⟨ds.take (ds.length - places), ds.drop (ds.length - places), rfl, ?_, ?_, ?_, ?_, ?_⟩
  · rw [ne_eq, List.take_eq_nil_iff]
    rintro (hz | rfl)
    · omega
    · rw [List.length_nil] at hlen
      omega
  · rw [List.take_append_drop, ← hds]
    intro c hc
    rcases List.mem_append.mp hc with hc | hc
    · exact isDigit_of_mem_zeros hc
    · exact isDigit_of_mem_natChars c hc
  · rw [List.take_append_drop, ← hds, readDigits_append_eq, readDigits_zeros, readDigits_natChars, Nat.zero_mul,
      Nat.zero_add]
  · rw [List.length_drop]
    omega
  · intro hpos hhead
    rw [List.length_take]
    by_cases hshort : (natChars n).length ≤ places
    · omega
    · -- no zeros are filled in, so the first digit is that of the number
      have hnone : places + 1 - (natChars n).length = 0 := by omega
      rw [hnone] at hds
      change natChars n = ds at hds
      obtain ⟨c, cs, hlist, hc⟩ := exists_natChars hpos
      rw [hds] at hlist hlen
      obtain ⟨m, hm⟩ := Nat.exists_eq_add_of_lt (show 0 < ds.length - places by omega)
      rw [hm, hlist, Nat.zero_add, List.take_succ_cons, List.head?_cons] at hhead
      exact absurd (Option.some.inj hhead) hc

/-- The text of a magnitude: digits on both sides of a point that stand for the decimal. -/
def Scaled.pointed (d : Scaled) : List Char := if 0 ≤ d.exponent then d.positional ++ ['.', '0'] else d.positional

theorem Scaled.pointed_cases (d : Scaled) :
    ∃ whole places, d.pointed = whole ++ '.' :: places ∧ whole ≠ [] ∧ (∀ c ∈ whole ++ places, isDigit c = true) ∧
      (readDigits (whole ++ places) : ℚ) * 10 ^ (-(places.length : ℤ)) = d.value := by
  unfold pointed positional
  split
  · next h =>
    obtain ⟨e, he⟩ := Int.eq_ofNat_of_zero_le h
    refine ⟨natChars d.digits ++ zeros e, ['0'], by simp [he], ?_, ?_, ?_⟩
    · simp [natChars_ne_nil]
    · intro c hc
      simp only [List.mem_append, List.mem_singleton] at hc
      obtain (hc | hc) | rfl := hc
      · exact isDigit_of_mem_natChars c hc
      · exact isDigit_of_mem_zeros hc
      · decide
    · rw [readDigits_append_eq, readDigits_append_eq, readDigits_natChars, readDigits_zeros, value, he]
      simp [readDigits, digitValue, zeros]
  · next h =>
    obtain ⟨whole, places, htext, hne, hdigits, hread, hlength, -⟩ := withPoint_cases d.digits (-d.exponent).toNat
    refine ⟨whole, places, htext, hne, hdigits, ?_⟩
    rw [hread, hlength, Scaled.value, Int.toNat_of_nonneg (by omega), neg_neg]

theorem plainWithPoint_eq {x : Float} (h : x.isFinite = true) :
    plainWithPoint x = signed x (shortest .up x).pointed := by
  rw [plainWithPoint, if_pos h]
  rfl

/-- The text of a finite float: digits on both sides of a point, after a minus sign if there is one. -/
theorem plainWithPoint_cases {x : Float} (h : x.isFinite = true) :
    ∃ whole places, whole ≠ [] ∧ (∀ c ∈ whole ++ places, isDigit c = true) ∧
      plainWithPoint x = signed x (whole ++ '.' :: places) := by
  obtain ⟨whole, places, htext, hne, hdigits, -⟩ := (shortest .up x).pointed_cases
  exact ⟨whole, places, hne, hdigits, by rw [plainWithPoint_eq h, htext]⟩

/-- Digits with a point before, between or behind them are a literal, after a sign or without one. -/
theorem Literal.ofChars?_point {negative : Bool} {s whole places : List Char}
    (hsplit : splitSign s = (negative, whole ++ '.' :: places)) (hne : whole ++ places ≠ [])
    (hdigits : ∀ c ∈ whole ++ places, isDigit c = true) :
    ofChars? s = some ⟨negative, readDigits (whole ++ places), -(places.length : ℤ)⟩ := by
  have hwhole : ∀ c ∈ whole, isDigit c = true := fun c hc => hdigits c (List.mem_append_left _ hc)
  have hplaces : ∀ c ∈ places, isDigit c = true := fun c hc => hdigits c (List.mem_append_right _ hc)
  have htake : (whole ++ '.' :: places).takeWhile isDigit = whole := by
    rw [List.takeWhile_append_of_pos hwhole, List.takeWhile_cons_of_neg (by decide), List.append_nil]
  have hdrop : (whole ++ '.' :: places).dropWhile isDigit = '.' :: places := by
    rw [List.dropWhile_append_of_pos hwhole, List.dropWhile_cons_of_neg (by decide)]
  have htake' : places.takeWhile isDigit = places := List.takeWhile_eq_self_iff.mpr hplaces
  have hdrop' : places.dropWhile isDigit = [] := List.dropWhile_eq_nil_iff.mpr hplaces
  have hsome : ¬ (whole = [] ∧ places = []) := fun h => hne (by rw [h.1, h.2]; rfl)
  simp [ofChars?, hsplit, htake, hdrop, htake', hdrop', hsome, readExponent?]

theorem Literal.ofChars?_pointed (negative : Bool) {whole places : List Char} (hne : whole ≠ [])
    (hdigits : ∀ c ∈ whole ++ places, isDigit c = true) :
    ofChars? (if negative then '-' :: (whole ++ '.' :: places) else whole ++ '.' :: places) =
      some ⟨negative, readDigits (whole ++ places), -(places.length : ℤ)⟩ := by
  have hsign : splitSign (if negative then '-' :: (whole ++ '.' :: places) else whole ++ '.' :: places) =
      (negative, whole ++ '.' :: places) := by
    cases negative with
    | true => rfl
    | false =>
      obtain ⟨c, cs, rfl⟩ := List.exists_cons_of_ne_nil hne
      have hc := hdigits c (List.mem_append_left _ List.mem_cons_self)
      unfold splitSign
      split
      · next heq =>
        obtain rfl := (List.cons.inj heq).1
        exact absurd hc (by decide)
      · next heq =>
        obtain rfl := (List.cons.inj heq).1
        exact absurd hc (by decide)
      · rfl
  exact ofChars?_point hsign (List.append_ne_nil_of_left_ne_nil hne places) hdigits

namespace Dyadic

variable {x : Dyadic}

/-- The interval of a float is well inside the range in which a literal is rounded and not cut off. -/
theorem IsFloat.near_bounds (hx : x.IsFloat) {v : ℚ} (h : x.Near v) :
    (10 : ℚ) ^ (-330 : ℤ) < v ∧ v < 10 ^ (309 : ℤ) := by
  have hlt : (x.mantissa : ℚ) + 1 ≤ 2 ^ 53 := by exact_mod_cast hx.lt
  have hpos : (1 : ℚ) ≤ x.mantissa := by exact_mod_cast hx.pos
  have hr := x.reachBelow_le
  have hlow : (2 : ℚ) ^ (-1074 : ℤ) ≤ 2 ^ x.exponent := zpow_le_zpow_right₀ (by norm_num) hx.least
  have hhigh : (2 : ℚ) ^ x.exponent ≤ 2 ^ (971 : ℤ) := zpow_le_zpow_right₀ (by norm_num) hx.greatest
  have hp : (0 : ℚ) < 2 ^ x.exponent := by positivity
  have hleast : (10 : ℚ) ^ (-330 : ℤ) < 1 / 2 * 2 ^ (-1074 : ℤ) := by
    have hnat : (2 : ℚ) ^ 1075 < 10 ^ 330 := by exact_mod_cast (by decide +kernel : 2 ^ 1075 < 10 ^ 330)
    have hhalf : (1 / 2 : ℚ) * 2 ^ (-1074 : ℤ) = (2 ^ 1075)⁻¹ := by
      rw [zpow_neg, pow_succ, mul_inv, mul_comm, one_div]
      rfl
    rw [hhalf, zpow_neg]
    exact inv_strictAnti₀ (by positivity) hnat
  have hgreatest : (2 : ℚ) ^ 53 * 2 ^ (971 : ℤ) < 10 ^ (309 : ℤ) := by
    exact_mod_cast (by decide +kernel : 2 ^ 53 * 2 ^ 971 < 10 ^ 309)
  constructor
  · calc (10 : ℚ) ^ (-330 : ℤ) < 1 / 2 * 2 ^ (-1074 : ℤ) := hleast
      _ ≤ (x.mantissa - x.reachBelow) * 2 ^ x.exponent := by
          refine mul_le_mul (by linarith) hlow (by positivity) (by linarith)
      _ ≤ v := h.low
  · calc v ≤ (x.mantissa + 1 / 2) * 2 ^ x.exponent := h.high
      _ ≤ 2 ^ 53 * 2 ^ (971 : ℤ) := mul_le_mul (by linarith) hhigh hp.le (by positivity)
      _ < 10 ^ (309 : ℤ) := hgreatest

end Dyadic

namespace Literal

variable {l : Literal}

/-- Three binary digits make less than one decimal digit, so the count of binary digits bounds a literal from above. -/
theorem value_lt (l : Literal) : l.value < 10 ^ ((((l.digits.log2 + 3) / 3 : ℕ) : ℤ) + l.exponent) := by
  have hpow : 2 ^ (l.digits.log2 + 1) ≤ 10 ^ ((l.digits.log2 + 3) / 3) := by
    calc 2 ^ (l.digits.log2 + 1) ≤ 2 ^ (3 * ((l.digits.log2 + 3) / 3)) := Nat.pow_le_pow_right (by decide) (by omega)
      _ = 8 ^ ((l.digits.log2 + 3) / 3) := by rw [Nat.pow_mul]
      _ ≤ 10 ^ ((l.digits.log2 + 3) / 3) := Nat.pow_le_pow_left (by decide) _
  have hdigits : (l.digits : ℚ) < 10 ^ ((l.digits.log2 + 3) / 3) := by
    exact_mod_cast Nat.lt_of_lt_of_le Nat.lt_log2_self hpow
  rw [value, zpow_add₀ (by norm_num), zpow_natCast]
  exact mul_lt_mul_of_pos_right hdigits (by positivity)

/-- Ten binary digits make more than three decimal digits, so their count bounds a literal from below. -/
theorem le_value (hl : l.digits ≠ 0) : (10 : ℚ) ^ (((3 * l.digits.log2 / 10 : ℕ) : ℤ) + l.exponent) ≤ l.value := by
  have hpow : 10 ^ (3 * l.digits.log2 / 10) ≤ 2 ^ l.digits.log2 := by
    rw [← Nat.pow_le_pow_iff_left (show 10 ≠ 0 by decide), ← Nat.pow_mul, ← Nat.pow_mul]
    calc 10 ^ (3 * l.digits.log2 / 10 * 10) ≤ 10 ^ (3 * l.digits.log2) := Nat.pow_le_pow_right (by decide) (by omega)
      _ = 1000 ^ l.digits.log2 := by rw [Nat.pow_mul]
      _ ≤ 1024 ^ l.digits.log2 := Nat.pow_le_pow_left (by decide) _
      _ = 2 ^ (l.digits.log2 * 10) := by rw [Nat.mul_comm, Nat.pow_mul]
  have hdigits : (10 : ℚ) ^ (3 * l.digits.log2 / 10) ≤ l.digits := by
    exact_mod_cast Nat.le_trans hpow (Nat.log2_self_le hl)
  rw [value, zpow_add₀ (by norm_num), zpow_natCast]
  exact mul_le_mul_of_nonneg_right hdigits (by positivity)

/-- A literal in the interval of a float is rounded to that float. -/
theorem toFloat_of_near {x : Dyadic} (hx : x.IsFloat) (h : x.Near l.value) :
    l.toFloat = ofMagnitude l.negative ((x.exponent + 1074).toNat * 2 ^ 52 + x.mantissa) := by
  obtain ⟨hlow, hhigh⟩ := hx.near_bounds h
  have hpos : 0 < l.value := lt_trans (by positivity) hlow
  have hdigits : l.digits ≠ 0 := by
    intro hz
    rw [value, hz] at hpos
    simp at hpos
  have hsmall : ¬ ((l.digits.log2 + 3) / 3 : ℕ) + l.exponent ≤ -330 := by
    intro hc
    have := zpow_le_zpow_right₀ (show (1 : ℚ) ≤ 10 by norm_num) hc
    exact absurd (hlow.trans (l.value_lt.trans_le this)) (lt_irrefl _)
  have hgreat : ¬ (310 : ℤ) ≤ ((3 * l.digits.log2 / 10 : ℕ) : ℤ) + l.exponent := by
    intro hc
    have := zpow_le_zpow_right₀ (show (1 : ℚ) ≤ 10 by norm_num) (show 309 ≤ _ from le_trans (by norm_num) hc)
    exact absurd ((this.trans (le_value hdigits)).trans_lt hhigh) (lt_irrefl _)
  have hratio : ((l.digits * 10 ^ l.exponent.toNat : ℕ) : ℚ) / (10 ^ (-l.exponent).toNat : ℕ) = l.value := by
    rw [value, ← pow_toNat_div 10 l.exponent]
    push_cast
    ring
  have hnear : binary64.nearest (l.digits * 10 ^ l.exponent.toNat) (10 ^ (-l.exponent).toNat) =
      (x.exponent + 1074).toNat * 2 ^ 52 + x.mantissa :=
    Dyadic.nearest_of_near hx (by positivity) (by positivity) (hratio ▸ h)
  simp only [toFloat]
  push_cast at hsmall hgreat
  rw [if_neg (not_or.mpr ⟨hdigits, hsmall⟩), if_neg hgreat, ofFraction, hnear]

end Literal

theorem dyadic_binary64 (n : ℕ) :
    binary64.dyadic n = if n / 2 ^ 52 = 0 then ⟨n % 2 ^ 52, -1074⟩
      else ⟨n % 2 ^ 52 + 2 ^ 52, -1074 + (n / 2 ^ 52 : ℕ) - 1⟩ := rfl

theorem isFloat_dyadic {n : ℕ} (hpos : 0 < n) (hlt : n < binary64.infinity) : (binary64.dyadic n).IsFloat := by
  replace hlt : n < 0x7FF0000000000000 := hlt
  rw [dyadic_binary64]
  split
  · refine ⟨?_, ?_, ?_, ?_, .inl rfl⟩ <;> simp only <;> omega
  · refine ⟨?_, ?_, ?_, ?_, .inr ?_⟩ <;> simp only <;> omega

theorem dyadic_bits (n : ℕ) :
    ((binary64.dyadic n).exponent + 1074).toNat * 2 ^ 52 + (binary64.dyadic n).mantissa = n := by
  rw [dyadic_binary64]
  split
  · simp only
    omega
  · simp only
    omega

/-- Writing a finite float and reading it back gives the same bits. -/
theorem read?_plainWithPoint {x : Float} (h : x.isFinite = true) : read? (plainWithPoint x) = some x := by
  obtain ⟨whole, places, htext, hne, hdigits, hvalue⟩ := (shortest .up x).pointed_cases
  have hofChars := Literal.ofChars?_pointed (isNegative x) hne hdigits
  rw [← htext] at hofChars
  rw [plainWithPoint_eq h, read?, signed, hofChars, Option.map_some]
  congr 1
  have hvalue' : (⟨isNegative x, readDigits (whole ++ places), -(places.length : ℤ)⟩ : Literal).value =
      (shortest .up x).value := hvalue
  unfold shortest at hvalue'
  split at hvalue'
  · next hz =>
    -- a zero keeps its sign
    have hdigits' : readDigits (whole ++ places) = 0 := by
      simpa [Literal.value, Scaled.value, zpow_ne_zero] using hvalue'
    conv => rhs; rw [← ofMagnitude_magnitude x, hz]
    simp [Literal.toFloat, hdigits']
  · next hz =>
    have hfloat := isFloat_dyadic (by omega) ((isFinite_iff x).mp h)
    have hnear := Dyadic.near_shortest hfloat.pos .up
    rw [← hvalue'] at hnear
    rw [Literal.toFloat_of_near hfloat hnear, dyadic_bits, ofMagnitude_magnitude]

end PromptCad.Decimal
