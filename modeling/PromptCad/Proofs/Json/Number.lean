import PromptCad.Proofs.Float.Digits
import PromptCad.Proofs.Json.Scale
import PromptCad.Proofs.Json.Spelling

/-! A float is written with its fewest digits and read back from them in double rounding, so that it may come back as a
neighbour. Short numbers come back as they are, and no finite float is lost. -/

namespace PromptCad.Json

open Decimal
open Reader

/-- The decimal exponent of the first digit. -/
def lead (d : Scaled) : ℤ := d.exponent + (natChars d.digits).length - 1

/-- The digits that a decimal is written with, as one number, and the power of ten that goes with them: a whole number
that is not too long has one place after its point. -/
def written (d : Scaled) : Scaled :=
  if 0 ≤ d.exponent ∧ lead d ≤ 15 then ⟨d.digits * 10 ^ (d.exponent.toNat + 1), -1⟩ else d

theorem value_written (d : Scaled) : (written d).value = d.value := by
  unfold written
  split
  · next h =>
    obtain ⟨k, hk⟩ := Int.eq_ofNat_of_zero_le h.1
    rw [Scaled.value, Scaled.value, hk, Int.toNat_natCast, zpow_natCast]
    push_cast
    rw [pow_succ, zpow_neg_one]
    field_simp
  · rfl

def magnitudeChars (d : Scaled) : List Char :=
  if -5 ≤ lead d ∧ lead d ≤ 15 then
    if 0 ≤ d.exponent then d.positional ++ ['.', '0'] else d.positional
  else
    (natChars d.digits).take 1 ++
      (if (natChars d.digits).length = 1 then [] else '.' :: (natChars d.digits).drop 1) ++
      'e' :: (if lead d < 0 then '-' else '+') :: natChars (lead d).natAbs

theorem realChars_eq {x : Float} (h : x.isFinite = true) :
    realChars x = signed x (magnitudeChars (shortest .toEven x)) := by
  rw [realChars, h, Bool.not_true, if_neg Bool.false_ne_true]
  rfl

/-- A spelling of a decimal: it is sound, and its digits and its power are those that the decimal is written with. -/
structure Spells (s : Spelling) (d : Scaled) : Prop where
  sound : s.Sound
  text : s.chars = (if s.minus then ['-'] else []) ++ magnitudeChars d
  mantissa : s.mantissa = (written d).digits
  power : s.power = (written d).exponent
  marked : s.places.isSome ∨ s.exponent.isSome
  exponent : ∀ e ∈ s.exponent, readDigits e.2 = (lead d).natAbs

section Spellings

variable {d : Scaled}

theorem length_natChars_pos (n : ℕ) : 0 < (natChars n).length := List.length_pos_iff.mpr (natChars_ne_nil n)

theorem spells_whole (minus : Bool) (hd : 0 < d.digits ∨ d = ⟨0, 0⟩) (he : 0 ≤ d.exponent) (hlead : lead d ≤ 15) :
    Spells ⟨minus, natChars d.digits ++ zeros d.exponent.toNat, some ['0'], none⟩ d := by
  have hlength := length_natChars_pos d.digits
  have hpositive : -5 ≤ lead d := by
    unfold lead
    omega
  have hmagnitude : magnitudeChars d = natChars d.digits ++ zeros d.exponent.toNat ++ ['.', '0'] := by
    rw [magnitudeChars, if_pos ⟨hpositive, hlead⟩, if_pos he, Scaled.positional, if_pos he]
  have hdigits : ∀ c ∈ natChars d.digits ++ zeros d.exponent.toNat, isDigit c = true := by
    intro c hc
    rcases List.mem_append.mp hc with hc | hc
    · exact isDigit_of_mem_natChars c hc
    · exact isDigit_of_mem_zeros hc
  refine ⟨⟨⟨by simp [natChars_ne_nil], hdigits⟩, ?_, ?_, nofun⟩, ?_, ?_, ?_, .inl rfl, nofun⟩
  · intro hhead
    rcases hd with hpos | rfl
    · obtain ⟨c, cs, hlist, hc⟩ := exists_natChars hpos
      rw [hlist] at hhead
      exact absurd (Option.some.inj hhead) hc
    · show (natChars 0 ++ zeros 0).length = 1
      decide
  · rintro ds ⟨⟩
    exact ⟨List.cons_ne_nil _ _, List.forall_mem_singleton.mpr rfl⟩
  · rw [hmagnitude]
    simp [Spelling.chars, exponentChars]
  · rw [written, if_pos ⟨he, hlead⟩, Spelling.mantissa, readDigits_append_eq, readDigits_append_eq, readDigits_natChars,
      readDigits_zeros]
    simp [readDigits, digitValue, zeros, Nat.pow_succ, Nat.mul_assoc]
  · rw [written, if_pos ⟨he, hlead⟩]
    rfl

theorem spells_point (minus : Bool) (hd : 0 < d.digits) (he : d.exponent < 0) (hlow : -5 ≤ lead d)
    (hhigh : lead d ≤ 15) : ∃ s : Spelling, s.minus = minus ∧ Spells s d := by
  obtain ⟨whole, places, htext, hne, hdigits, hread, hlength, hleading⟩ :=
    withPoint_cases d.digits (-d.exponent).toNat
  have hmagnitude : magnitudeChars d = whole ++ '.' :: places := by
    rw [magnitudeChars, if_pos ⟨hlow, hhigh⟩, if_neg (by omega), Scaled.positional, if_neg (by omega), htext]
  have hwritten : written d = d := if_neg fun h => absurd h.1 (by omega)
  refine ⟨⟨minus, whole, some places, none⟩, rfl, ⟨⟨hne, fun c hc => hdigits c (List.mem_append_left _ hc)⟩,
    hleading hd, ?_, nofun⟩, ?_, ?_, ?_, .inl rfl, nofun⟩
  · rintro ds ⟨⟩
    refine ⟨fun hnil => ?_, fun c hc => hdigits c (List.mem_append_right _ hc)⟩
    rw [hnil, List.length_nil] at hlength
    omega
  · rw [hmagnitude]
    simp [Spelling.chars, exponentChars]
  · rw [hwritten]
    exact hread
  · rw [hwritten]
    show -((places.length : ℕ) : ℤ) + (0 : ℕ) = d.exponent
    omega

def Spelling.scientific (minus : Bool) (c : Char) (cs : List Char) (e : ℤ) : Spelling :=
  ⟨minus, [c], if cs = [] then none else some cs, some (decide (e < 0), natChars e.natAbs)⟩

section Scientific

variable {minus : Bool} {c : Char} {cs : List Char} {e : ℤ}

theorem places_scientific : (Spelling.scientific minus c cs e).places.getD [] = cs := by
  rw [Spelling.scientific]
  split
  · next hnil => exact hnil.symm
  · rfl

theorem sound_scientific (h : ∀ c' ∈ c :: cs, isDigit c' = true) : (Spelling.scientific minus c cs e).Sound where
  whole := ⟨List.cons_ne_nil _ _, List.forall_mem_singleton.mpr (h c List.mem_cons_self)⟩
  leading := fun _ => rfl
  places := by
    intro ds hds
    rw [Spelling.scientific] at hds
    split at hds
    · cases hds
    · next hne =>
      cases hds
      exact ⟨hne, fun c' hc' => h c' (List.mem_cons_of_mem c hc')⟩
  exponent := by
    rintro _ ⟨⟩
    exact ⟨natChars_ne_nil _, isDigit_of_mem_natChars⟩

theorem chars_scientific : (Spelling.scientific minus c cs e).chars = (if minus then ['-'] else []) ++
    ([c] ++ (if cs = [] then [] else '.' :: cs) ++ 'e' :: (if e < 0 then '-' else '+') :: natChars e.natAbs) := by
  rw [Spelling.scientific, Spelling.chars]
  cases cs <;> simp [exponentChars]

theorem mantissa_scientific : (Spelling.scientific minus c cs e).mantissa = readDigits (c :: cs) := by
  rw [Spelling.mantissa, places_scientific]
  rfl

theorem power_scientific : (Spelling.scientific minus c cs e).power = e - cs.length := by
  rw [Spelling.power, places_scientific, Spelling.scientific, Option.getD_some]
  simp only [readDigits_natChars, decide_eq_true_eq]
  split <;> omega

end Scientific

theorem spells_exponent (minus : Bool) (h : ¬(-5 ≤ lead d ∧ lead d ≤ 15)) :
    ∃ s : Spelling, s.minus = minus ∧ Spells s d := by
  obtain ⟨c, cs, hlist⟩ := List.exists_cons_of_ne_nil (natChars_ne_nil d.digits)
  have hlead : lead d = d.exponent + cs.length := by
    rw [lead, hlist, List.length_cons]
    push_cast
    ring
  have hwritten : written d = d := if_neg fun h' => h ⟨by omega, h'.2⟩
  refine ⟨.scientific minus c cs (lead d), rfl, sound_scientific (hlist ▸ isDigit_of_mem_natChars), ?_, ?_, ?_,
    .inr rfl, ?_⟩
  · rw [chars_scientific, magnitudeChars, if_neg h, hlist]
    cases cs <;> rfl
  · rw [mantissa_scientific, hwritten, ← hlist, readDigits_natChars]
  · rw [power_scientific, hwritten]
    omega
  · rintro _ ⟨⟩
    exact readDigits_natChars _

theorem exists_spelling (minus : Bool) (hd : 0 < d.digits ∨ d = ⟨0, 0⟩) :
    ∃ s : Spelling, s.minus = minus ∧ Spells s d := by
  by_cases h : -5 ≤ lead d ∧ lead d ≤ 15
  · rcases le_or_gt 0 d.exponent with he | he
    · exact ⟨_, rfl, spells_whole minus hd he h.2⟩
    · refine spells_point minus (hd.resolve_right ?_) he h.1 h.2
      rintro rfl
      exact absurd he (by decide)
  · exact spells_exponent minus h

end Spellings

structure Moderate (d : Scaled) : Prop where
  pos : 0 < d.digits
  digits : d.digits ≤ 10 ^ 17
  low : (10 : ℚ) ^ (-330 : ℤ) < d.value
  high : d.value < 10 ^ (309 : ℤ)

namespace Moderate

variable {d : Scaled}

theorem exponent_le (h : Moderate d) : d.exponent ≤ 308 := by
  have hone : (1 : ℚ) ≤ d.digits := by exact_mod_cast h.pos
  have hlt : (10 : ℚ) ^ d.exponent < 10 ^ (309 : ℤ) :=
    (le_mul_of_one_le_left (by positivity) hone).trans_lt h.high
  exact Int.lt_add_one_iff.mp ((zpow_lt_zpow_iff_right₀ (by norm_num)).mp hlt)

theorem le_exponent (h : Moderate d) : -347 < d.exponent := by
  have hdigits : (d.digits : ℚ) ≤ 10 ^ (17 : ℤ) := by exact_mod_cast h.digits
  have hlt : (10 : ℚ) ^ (-330 : ℤ) < 10 ^ (17 + d.exponent) := by
    rw [zpow_add₀ (by norm_num)]
    exact h.low.trans_le (mul_le_mul_of_nonneg_right hdigits (by positivity))
  have hexponent := (zpow_lt_zpow_iff_right₀ (by norm_num)).mp hlt
  omega

theorem length_le (h : Moderate d) : (natChars d.digits).length ≤ 18 := by
  have hle := (ten_pow_length_natChars_le h.pos).trans h.digits
  have hlength := (Nat.pow_le_pow_iff_right (by norm_num)).mp hle
  omega

theorem lead_le (h : Moderate d) : (lead d).natAbs ≤ greatestExponent := by
  have hlow := h.le_exponent
  have hhigh := h.exponent_le
  have hlength := h.length_le
  have hbound : (lead d).natAbs ≤ 1000 := by
    unfold lead
    omega
  exact hbound.trans (by decide)

theorem written_pos (h : Moderate d) : 0 < (written d).digits := by
  unfold written
  split
  · exact Nat.mul_pos h.pos (Nat.pow_pos (by decide))
  · exact h.pos

theorem written_le (h : Moderate d) : (written d).digits ≤ greatestNatural := by
  refine le_trans ?_ (show 10 ^ 17 ≤ greatestNatural by decide)
  unfold written
  split
  · next hwhole =>
    have hlength := length_natChars_pos d.digits
    have hlead := hwhole.2
    unfold lead at hlead
    calc d.digits * 10 ^ (d.exponent.toNat + 1)
        ≤ 10 ^ (natChars d.digits).length * 10 ^ (d.exponent.toNat + 1) :=
          Nat.mul_le_mul_right _ (lt_ten_pow_length_natChars _).le
      _ = 10 ^ ((natChars d.digits).length + (d.exponent.toNat + 1)) := (Nat.pow_add ..).symm
      _ ≤ 10 ^ 17 := Nat.pow_le_pow_right (by decide) (by omega)
  · exact h.digits

theorem written_exponent (h : Moderate d) : -616 ≤ (written d).exponent ∧ (written d).exponent ≤ 308 := by
  have hlow := h.le_exponent
  have hhigh := h.exponent_le
  unfold written
  split
  · exact ⟨by show (-616 : ℤ) ≤ -1; decide, by show (-1 : ℤ) ≤ 308; decide⟩
  · omega

end Moderate

section Floats

variable {x : Float}

def writtenAs (x : Float) : Scaled := written (shortest .toEven x)

theorem isFloat_of_isFinite (h : x.isFinite = true) (hpos : 0 < magnitude x) :
    (binary64.dyadic (magnitude x)).IsFloat := isFloat_dyadic hpos ((isFinite_iff x).mp h)

theorem moderate_shortest (h : x.isFinite = true) (hpos : 0 < magnitude x) : Moderate (shortest .toEven x) := by
  have hfloat := isFloat_of_isFinite h hpos
  have hnear := Dyadic.near_shortest hfloat.pos .toEven
  obtain ⟨hlow, hhigh⟩ := hfloat.near_bounds hnear
  rw [shortest, if_neg hpos.ne']
  refine ⟨Nat.pos_of_ne_zero fun hzero => ?_, hfloat.digits_shortest_le .toEven, hlow, hhigh⟩
  rw [Scaled.value, hzero, Nat.cast_zero, zero_mul] at hlow
  exact absurd hlow (not_lt.mpr (by positivity))

theorem rounds_writtenAs (h : x.isFinite = true) (hpos : 0 < magnitude x) :
    binary64.Rounds (writtenAs x).value (magnitude x) := by
  have hfloat := isFloat_of_isFinite h hpos
  have hnear := Dyadic.near_shortest hfloat.pos .toEven
  rw [writtenAs, value_written, shortest, if_neg hpos.ne']
  exact rounds_of_near hpos ((isFinite_iff x).mp h) (lt_trans (by positivity) (hfloat.near_bounds hnear).1) hnear

/-- The two greatest floats have to be looked at by themselves. -/
theorem isFinite_greatest : ∀ n ∈ [binary64.infinity - 2, binary64.infinity - 1],
    (whole (written ((binary64.dyadic n).shortest .toEven)).digits *
      powerOfTen (written ((binary64.dyadic n).shortest .toEven)).exponent.toNat).isFinite = true := by
  decide +kernel

/-- How many floats away a float may come back. -/
def units (x : Float) : ℕ := drift (writtenAs x).digits (writtenAs x).exponent

structure Returns (x y : Float) : Prop where
  sign : isNegative y = isNegative x
  up : magnitude y ≤ magnitude x + units x
  down : magnitude x ≤ magnitude y + units x

theorem isFinite_scaled (h : x.isFinite = true) (hpos : 0 < magnitude x) (he : 0 ≤ (writtenAs x).exponent) :
    (whole (writtenAs x).digits * powerOfTen (writtenAs x).exponent.toNat).isFinite = true := by
  have hmoderate := moderate_shortest h hpos
  have hlt := (isFinite_iff x).mp h
  rcases Nat.lt_or_ge (magnitude x + 2) binary64.infinity with hfar | hclose
  · have hexponent := hmoderate.written_exponent.2
    obtain ⟨k, hk⟩ := Int.eq_ofNat_of_zero_le he
    have hrounds := rounds_writtenAs h hpos
    rw [Scaled.value, hk, zpow_natCast] at hrounds
    rw [hk, Int.toNat_natCast]
    have hk' : k ≤ greatestPower := by
      change (writtenAs x).exponent ≤ 308 at hexponent
      show k ≤ 308
      omega
    exact isFinite_whole_mul hmoderate.written_pos (hmoderate.written_le.trans greatestNatural_le) hk' hrounds hfar
  · have hmem : magnitude x ∈ [binary64.infinity - 2, binary64.infinity - 1] := by
      rw [List.mem_cons, List.mem_singleton]
      omega
    rw [writtenAs, shortest, if_neg hpos.ne']
    exact isFinite_greatest _ hmem

theorem exists_scaled (h : x.isFinite = true) :
    ∃ f, scale 4 (whole (writtenAs x).digits) (writtenAs x).exponent = some f ∧ f.isFinite = true ∧
      isNegative f = false ∧ magnitude f ≤ magnitude x + units x ∧ magnitude x ≤ magnitude f + units x := by
  rcases Nat.eq_zero_or_pos (magnitude x) with hzero | hpos
  · have hshortest : shortest .toEven x = ⟨0, 0⟩ := if_pos hzero
    refine ⟨0, ?_, by decide, by decide, ?_, ?_⟩
    · rw [writtenAs, hshortest]
      decide
    · exact (show magnitude 0 = 0 by decide).le.trans (Nat.zero_le _)
    · exact hzero.le.trans (Nat.zero_le _)
  · have hmoderate := moderate_shortest h hpos
    obtain ⟨hlow, hhigh⟩ := hmoderate.written_exponent
    obtain ⟨f, w, hscale, hfinite, hw, hmoved, hnearest⟩ :=
      exists_scale hmoderate.written_pos hmoderate.written_le hlow hhigh (isFinite_scaled h hpos)
    have hnear := hmoved.near (rounds_writtenAs h hpos) (hnearest.rounds_of_nonneg hw.le)
    exact ⟨f, hscale, hfinite, hnearest.positive hw, hnear⟩

theorem isFinite_ofMagnitude_magnitude (h : x.isFinite = true) (negative : Bool) :
    (ofMagnitude negative (magnitude x)).isFinite = true ∧ isNegative (ofMagnitude negative (magnitude x)) = negative ∧
      magnitude (ofMagnitude negative (magnitude x)) = magnitude x := by
  have hlt := (isFinite_iff x).mp h
  have hmagnitude := magnitude_ofMagnitude negative hlt
  exact ⟨by rwa [isFinite_iff, hmagnitude], isNegative_ofMagnitude negative hlt, hmagnitude⟩

/-- What a float is read back as: its digits times their power of ten, in floats. -/
def reread (x : Float) : Float :=
  let y := (scale 4 (whole (writtenAs x).digits) (writtenAs x).exponent).getD 0
  if isNegative x then -y else y

/-- A finite float is read back as a finite float of the same sign, as far away as its digits and their power tell. -/
theorem returns_reread (h : x.isFinite = true) : (reread x).isFinite = true ∧ Returns x (reread x) := by
  obtain ⟨f, hscale, hfinite, hsign, hup, hdown⟩ := exists_scaled h
  rw [reread, hscale, Option.getD_some]
  split
  · next hnegative =>
    obtain ⟨hfinite', hsign', hmagnitude'⟩ := isFinite_ofMagnitude_magnitude hfinite true
    rw [neg_eq hfinite, hsign, Bool.not_false]
    exact ⟨hfinite', by rw [hsign', hnegative], by rwa [hmagnitude'], by rwa [hmagnitude']⟩
  · next hnegative =>
    rw [Bool.not_eq_true] at hnegative
    exact ⟨hfinite, by rw [hsign, hnegative], hup, hdown⟩

theorem Returns.eq_of_units_eq_zero {y : Float} (h : Returns x y) (hunits : units x = 0) : y = x := by
  have hup := h.up
  have hdown := h.down
  have hmagnitude : magnitude y = magnitude x := by omega
  rw [← ofMagnitude_magnitude y, ← ofMagnitude_magnitude x, h.sign, hmagnitude]

theorem exists_spelling_reread (h : x.isFinite = true) :
    ∃ s : Spelling, s.Sound ∧ s.chars = realChars x ∧ s.number? = some (.real (reread x)) := by
  have hfacts : (0 < (shortest .toEven x).digits ∨ shortest .toEven x = ⟨0, 0⟩) ∧
      (writtenAs x).digits ≤ greatestNatural ∧ (lead (shortest .toEven x)).natAbs ≤ greatestExponent := by
    rcases Nat.eq_zero_or_pos (magnitude x) with hzero | hpos
    · have hshortest : shortest .toEven x = ⟨0, 0⟩ := if_pos hzero
      rw [writtenAs, hshortest]
      exact ⟨.inr rfl, by decide, by decide⟩
    · have hmoderate := moderate_shortest h hpos
      exact ⟨.inl hmoderate.pos, hmoderate.written_le, hmoderate.lead_le⟩
  obtain ⟨hdigits, hmantissa, hlead⟩ := hfacts
  obtain ⟨s, hminus, hs⟩ := exists_spelling (isNegative x) hdigits
  obtain ⟨f, hscale, -⟩ := exists_scaled h
  refine ⟨s, hs.sound, ?_, ?_⟩
  · rw [hs.text, realChars_eq h, signed, hminus]
    split <;> rfl
  · have hnumber := Spelling.number?_eq hs.marked (hs.mantissa.trans_le hmantissa)
      fun e he => (hs.exponent e he).trans_le hlead
    rw [hnumber, hs.mantissa, hs.power, hminus]
    show (scale 4 (whole (writtenAs x).digits) (writtenAs x).exponent).map _ = _
    rw [hscale, Option.map_some, reread, hscale]
    rfl

end Floats

end PromptCad.Json
