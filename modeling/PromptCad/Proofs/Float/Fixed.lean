import PromptCad.Proofs.Float.Exact

/-! Decimals with a fixed number of places. Such a text has just so many digits after its point, and what it spells is
off by at most half of the last place. -/

namespace PromptCad.Decimal

/-- A text that spells a number with so many digits after a point, a minus sign in front of it or not. -/
inductive SpellsFixed (places : ℕ) : List Char → ℚ → Prop where
  | intro (negative : Bool) {whole fraction : List Char} : whole ≠ [] → (∀ c ∈ whole ++ fraction, isDigit c = true) →
      fraction.length = places →
      SpellsFixed places ((if negative then ['-'] else []) ++ whole ++ '.' :: fraction)
        ((if negative then -1 else 1) * (readDigits (whole ++ fraction) / 10 ^ places))

theorem pushDigits_eq_append (fuel n : ℕ) (rest : List Char) :
    pushDigits fuel n rest = pushDigits fuel n [] ++ rest := by
  induction fuel generalizing n rest with
  | zero => rfl
  | succ fuel ih =>
    rw [pushDigits, pushDigits]
    split
    · rfl
    · rw [ih, ih _ [_], List.append_assoc, List.singleton_append]

theorem pushPlaces_eq_append (places n : ℕ) (rest : List Char) :
    pushPlaces places n rest = pushPlaces places n [] ++ rest := by
  induction places generalizing n rest with
  | zero => rfl
  | succ places ih => rw [pushPlaces, pushPlaces, ih, ih _ [_], List.append_assoc, List.singleton_append]

theorem pushPlaces_succ (places n : ℕ) :
    pushPlaces (places + 1) n [] = pushPlaces places (n / 10) [] ++ [digitChar n] := by
  rw [pushPlaces, pushPlaces_eq_append]

theorem length_pushPlaces (places n : ℕ) : (pushPlaces places n []).length = places := by
  induction places generalizing n with
  | zero => rfl
  | succ places ih => rw [pushPlaces_succ, List.length_append, ih, List.length_singleton]

theorem isDigit_of_mem_pushPlaces {places n : ℕ} : ∀ c ∈ pushPlaces places n [], isDigit c = true := by
  induction places generalizing n with
  | zero => simp [pushPlaces]
  | succ places ih =>
    rw [pushPlaces_succ]
    intro c hc
    rcases List.mem_append.mp hc with hc | hc
    · exact ih c hc
    · rw [List.mem_singleton.mp hc]
      exact isDigit_digitChar n

theorem readDigits_pushPlaces (places n : ℕ) : readDigits (pushPlaces places n []) = n % 10 ^ places := by
  induction places generalizing n with
  | zero => rw [Nat.pow_zero, Nat.mod_one]; rfl
  | succ places ih =>
    have hlast : readDigits [digitChar n] = n % 10 := by
      rw [readDigits, List.foldl_cons, List.foldl_nil, Nat.mul_zero, Nat.zero_add, digitValue_digitChar]
    rw [pushPlaces_succ, readDigits_append_eq, ih, hlast, List.length_singleton, Nat.pow_one, Nat.pow_succ',
      Nat.mod_mul]
    ring

theorem spellsFixed_pointed (negative : Bool) (places n : ℕ) :
    SpellsFixed places ((if negative then ['-'] else []) ++ pointed places n)
      ((if negative then -1 else 1) * (n / 10 ^ places)) := by
  have hread : readDigits (natChars (n / 10 ^ places) ++ pushPlaces places n []) = n := by
    rw [readDigits_append_eq, readDigits_natChars, readDigits_pushPlaces, length_pushPlaces, Nat.div_add_mod']
  have htext : pointed places n = natChars (n / 10 ^ places) ++ '.' :: pushPlaces places n [] :=
    pushDigits_eq_append _ _ _
  have hdigits : ∀ c ∈ natChars (n / 10 ^ places) ++ pushPlaces places n [], isDigit c = true := by
    intro c hc
    rcases List.mem_append.mp hc with hc | hc
    · exact isDigit_of_mem_natChars c hc
    · exact isDigit_of_mem_pushPlaces c hc
  have hspells := SpellsFixed.intro negative (natChars_ne_nil _) hdigits (length_pushPlaces places n)
  rwa [hread, List.append_assoc, ← htext] at hspells

theorem fixed_eq {x : Float} (h : x.isFinite = true) (places : ℕ) :
    fixed places x =
      (if isNegative x then ['-'] else []) ++ pointed places ((binary64.dyadic (magnitude x)).scaled places) := by
  rw [fixed, if_pos h, signed]
  split <;> rfl

/-- The places of a finite float are as near to its value as they can be. -/
theorem exists_spellsFixed {x : Float} (h : x.isFinite = true) (places : ℕ) :
    ∃ d, SpellsFixed places (fixed places x) d ∧ |d - exactValue x| ≤ 1 / 2 / 10 ^ places := by
  have hfixed := fixed_eq h places
  generalize hn : (binary64.dyadic (magnitude x)).scaled places = n at hfixed
  have hpow : (0 : ℚ) < 10 ^ places := by positivity
  have hnear : |(n : ℚ) / 10 ^ places - binary64.value (magnitude x)| ≤ 1 / 2 / 10 ^ places := by
    have hround := @abs_roundDiv_sub_le ((binary64.dyadic (magnitude x)).num * 10 ^ places) _
      (binary64.dyadic (magnitude x)).den_pos
    rw [← Dyadic.scaled_eq, hn] at hround
    have hscale : (n : ℚ) / 10 ^ places - binary64.value (magnitude x) =
        (n - ((binary64.dyadic (magnitude x)).num * 10 ^ places : ℕ) / (binary64.dyadic (magnitude x)).den) /
          10 ^ places := by
      rw [BinaryFormat.value, Dyadic.value_eq_div]
      push_cast
      field_simp
    rw [hscale, abs_div, abs_of_pos hpow]
    exact div_le_div_of_nonneg_right hround hpow.le
  refine ⟨_, hfixed ▸ spellsFixed_pointed (isNegative x) places n, ?_⟩
  unfold exactValue
  split
  · rwa [neg_one_mul, neg_sub_neg, abs_sub_comm]
  · rwa [one_mul]

theorem roundDiv_eq_zero_iff {num den : ℕ} (h : 0 < den) : roundDiv num den = 0 ↔ 2 * num ≤ den := by
  have hsum := Nat.div_add_mod num den
  have hr := Nat.mod_lt num h
  have hquot : num / den = 0 ↔ num < den := Nat.div_eq_zero_iff_lt h
  rw [roundDiv, roundBy]
  rcases lt_trichotomy (2 * (num % den)) den with hlow | htie | hhigh
  · rw [if_pos hlow, hquot]
    constructor
    · intro hlt
      rw [Nat.mod_eq_of_lt hlt] at hlow
      exact hlow.le
    · omega
  · rw [if_neg htie.not_lt, if_neg htie.not_gt, Nat.add_eq_zero_iff]
    constructor
    · rintro ⟨hzero, -⟩
      rw [hzero, Nat.mul_zero, Nat.zero_add] at hsum
      omega
    · intro hle
      have hzero := hquot.mpr (by omega)
      exact ⟨hzero, by rw [hzero]⟩
  · rw [if_neg hhigh.not_gt, if_pos hhigh]
    constructor
    · intro hzero
      exact absurd hzero (Nat.succ_ne_zero _)
    · have hmod := Nat.mod_le num den
      omega

theorem Dyadic.scaled_eq_zero_iff (x : Dyadic) (places : ℕ) : x.scaled places = 0 ↔ x.value ≤ 1 / 2 / 10 ^ places := by
  have hden : (0 : ℚ) < x.den := Nat.cast_pos.mpr x.den_pos
  have hscale : x.value ≤ 1 / 2 / 10 ^ places ↔ (2 * (x.num * 10 ^ places) : ℚ) ≤ x.den := by
    rw [x.value_eq_div, div_le_iff₀ hden, div_div, div_mul_eq_mul_div, one_mul, le_div_iff₀ (by positivity)]
    ring_nf
  rw [x.scaled_eq, roundDiv_eq_zero_iff x.den_pos, hscale]
  exact_mod_cast Iff.rfl

theorem SpellsFixed.eq_zero {places : ℕ} {t : List Char} {d : ℚ} (h : SpellsFixed places t d)
    (hzero : ∀ c ∈ t, isDigit c = true → c = '0') : d = 0 := by
  obtain ⟨negative, -, hdigits, -⟩ := h
  rename_i whole fraction
  have hread : ∀ ds : List Char, (∀ c ∈ ds, c = '0') → readDigits ds = 0 := by
    intro ds hds
    rw [List.eq_replicate_of_mem hds]
    induction ds.length with
    | zero => rfl
    | succ n ih => exact ih
  have hall : ∀ c ∈ whole ++ fraction, c = '0' := by
    intro c hc
    refine hzero c ?_ (hdigits c hc)
    rw [List.append_assoc, List.mem_append, List.mem_append, List.mem_cons]
    exact .inr ((List.mem_append.mp hc).imp_right .inr)
  rw [hread _ hall]
  simp

end PromptCad.Decimal
