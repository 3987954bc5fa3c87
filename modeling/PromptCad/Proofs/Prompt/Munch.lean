import PromptCad.Proofs.Prompt.Grammar

/-! Runs and numbers are taken off the front of a text as far as they reach. What is taken is a word of the grammar,
and any such word is taken whole when the text after it does not go on with a character of its kind. -/

namespace PromptCad

namespace Unicode.Ranges

def apart (r q : Ranges) : Bool := r.all fun a => q.all fun b => a.2 < b.1 || b.2 < a.1

variable {r q : Ranges} {c : Char}

theorem contains_eq_false_of_apart (h : r.apart q = true) (hc : r.contains c = true) : q.contains c = false := by
  by_contra hq
  rw [Bool.not_eq_false] at hq
  obtain ⟨a, ha, hca⟩ := contains_iff.mp hc
  obtain ⟨b, hb, hcb⟩ := contains_iff.mp hq
  simp only [apart, List.all_eq_true, Bool.or_eq_true, decide_eq_true_eq] at h
  have := h a ha b hb
  omega

theorem contains_append : (r ++ q).contains c = (r.contains c || q.contains c) := List.any_append

end Unicode.Ranges

namespace Prompt

open Grammar Unicode

def letterRanges : Ranges := [(0x61, 0x7A)]

def numberRanges : Ranges := (0x2E, 0x2E) :: decimalDigitRanges

theorem contains_letterRanges (c : Char) : letterRanges.contains c = isUnitLetter c := by
  simp only [letterRanges, Ranges.contains, List.any_cons, List.any_nil, Bool.or_false]
  rfl

theorem contains_numberRanges (c : Char) : numberRanges.contains c = (decide (c = '.') || isDecimalDigit c) := by
  have hpoint : (decide (0x2E ≤ c.toNat) && decide (c.toNat ≤ 0x2E)) = decide (c = '.') := by
    rw [Bool.eq_iff_iff]
    simp only [Bool.and_eq_true, decide_eq_true_eq, ← Char.toNat_inj]
    show _ ↔ c.toNat = 0x2E
    omega
  rw [← hpoint]
  rfl

variable {p : Char → Bool} {s a b : List Char}

theorem mem_run : s ∈ run p ↔ s ≠ [] ∧ ∀ c ∈ s, p c = true := Iff.rfl

theorem mem_gap : s ∈ gap ↔ ∀ c ∈ s, isWhiteSpace c = true := Iff.rfl

theorem run?_append (ha : a ∈ run p) (hb : ∀ c ∈ b.head?, p c = false) : run? p (a ++ b) = some (a, b) :=
  run?_eq_some_iff.mpr ⟨rfl, ha.1, ha.2, hb⟩

theorem run?_eq_none (h : ∀ c ∈ s.head?, p c = false) : run? p s = none := by
  cases s with
  | nil => rfl
  | cons c s =>
    have hc : p c = false := h c rfl
    simp [run?, hc]

theorem mem_of_run? (h : run? p s = some (a, b)) : a ∈ run p :=
  ⟨(run?_eq_some_iff.mp h).2.1, (run?_eq_some_iff.mp h).2.2.1⟩

theorem mem_sign : s ∈ sign ↔ s = [] ∨ ∃ c, isSign c = true ∧ s = [c] := by
  have hsign : s ∈ sign ↔ (s = [] ∨ s = ['-']) ∨ s = ['+'] := Iff.rfl
  rw [hsign]
  constructor
  · rintro ((rfl | rfl) | rfl)
    · exact .inl rfl
    · exact .inr ⟨'-', rfl, rfl⟩
    · exact .inr ⟨'+', rfl, rfl⟩
  · rintro (rfl | ⟨c, hc, rfl⟩)
    · exact .inl (.inl rfl)
    · simp only [isSign, Bool.or_eq_true, decide_eq_true_eq] at hc
      rcases hc with rfl | rfl
      · exact .inl (.inr rfl)
      · exact .inr rfl

theorem mem_unsigned : s ∈ unsigned ↔
    s ∈ digits ∨ (∃ whole ∈ digits, ∃ places ∈ digits, s = whole ++ '.' :: places) ∨
      ∃ places ∈ digits, s = '.' :: places := by
  have hpoint : ∀ t, t ∈ point * digits ↔ ∃ places ∈ digits, t = '.' :: places := by
    intro t
    rw [Language.mem_mul]
    constructor
    · rintro ⟨a, rfl, places, hplaces, rfl⟩
      exact ⟨places, hplaces, rfl⟩
    · rintro ⟨places, hplaces, rfl⟩
      exact ⟨['.'], rfl, places, hplaces, rfl⟩
  rw [unsigned, Language.mem_add, Language.mem_add, or_assoc, hpoint, mul_assoc, Language.mem_mul]
  simp only [hpoint]
  constructor
  · rintro (h | ⟨whole, hwhole, t, ⟨places, hplaces, rfl⟩, rfl⟩ | h)
    · exact .inl h
    · exact .inr (.inl ⟨whole, hwhole, places, hplaces, rfl⟩)
    · exact .inr (.inr h)
  · rintro (h | ⟨whole, hwhole, places, hplaces, rfl⟩ | h)
    · exact .inl h
    · exact .inr (.inl ⟨whole, hwhole, _, ⟨places, hplaces, rfl⟩, rfl⟩)
    · exact .inr (.inr h)

theorem exists_cons_of_mem_unsigned (h : s ∈ unsigned) : ∃ c t, s = c :: t ∧ numberRanges.contains c = true := by
  have hdigits : ∀ ds ∈ digits, ∀ t, ∃ c u, ds ++ t = c :: u ∧ numberRanges.contains c = true := by
    intro ds hds t
    obtain ⟨hne, hall⟩ := mem_run.mp hds
    obtain ⟨c, u, rfl⟩ := List.exists_cons_of_ne_nil hne
    refine ⟨c, u ++ t, rfl, ?_⟩
    rw [contains_numberRanges, hall c List.mem_cons_self, Bool.or_true]
  rcases mem_unsigned.mp h with h | ⟨whole, hwhole, places, -, rfl⟩ | ⟨places, -, rfl⟩
  · have := hdigits s h []
    rwa [List.append_nil] at this
  · exact hdigits whole hwhole _
  · exact ⟨'.', places, rfl, rfl⟩

theorem isSign_eq_false {c : Char} (h : numberRanges.contains c = true) : isSign c = false := by
  by_contra hsign
  rw [Bool.not_eq_false, isSign, Bool.or_eq_true, decide_eq_true_eq, decide_eq_true_eq] at hsign
  rcases hsign with rfl | rfl
  · exact absurd h (by decide)
  · exact absurd h (by decide)

theorem fraction?_point (ha : a ∈ digits) (hb : ∀ c ∈ b.head?, isDecimalDigit c = false) :
    fraction? ('.' :: (a ++ b)) = some ('.' :: a, b) := by
  rw [fraction?, run?_append ha hb]
  rfl

theorem fraction?_eq_none (h : ∀ c ∈ b.head?, c ≠ '.') : fraction? b = none := by
  unfold fraction?
  split
  · exact absurd rfl (h '.' rfl)
  · rfl

theorem unsignedNumber?_append (ha : a ∈ unsigned) (hb : ∀ c ∈ b.head?, numberRanges.contains c = false) :
    unsignedNumber? (a ++ b) = some (a, b) := by
  simp only [contains_numberRanges, Bool.or_eq_false_iff, decide_eq_false_iff_not] at hb
  have hdigit : ∀ c ∈ b.head?, isDecimalDigit c = false := fun c hc => (hb c hc).2
  have hpoint : fraction? b = none := fraction?_eq_none fun c hc => (hb c hc).1
  have hstop : ∀ t : List Char, ∀ c ∈ ('.' :: t).head?, isDecimalDigit c = false := by
    rintro t c ⟨⟩
    decide
  rcases mem_unsigned.mp ha with ha | ⟨whole, hwhole, places, hplaces, rfl⟩ | ⟨places, hplaces, rfl⟩
  · simp only [unsignedNumber?, run?_append ha hdigit, hpoint]
  · rw [List.append_assoc, List.cons_append]
    simp only [unsignedNumber?, run?_append hwhole (hstop _), fraction?_point hplaces hdigit]
  · rw [List.cons_append]
    simp only [unsignedNumber?, run?_eq_none (hstop _), fraction?_point hplaces hdigit]

/-- A numeral is read to its end. -/
theorem number?_append (ha : a ∈ numeral) (hb : ∀ c ∈ b.head?, numberRanges.contains c = false) :
    number? (a ++ b) = some (a, b) := by
  obtain ⟨t, ht, u, hu, rfl⟩ := Language.mem_mul.mp ha
  have hread := unsignedNumber?_append hu hb
  rcases mem_sign.mp ht with rfl | ⟨c, hc, rfl⟩
  · obtain ⟨c, v, rfl, hc⟩ := exists_cons_of_mem_unsigned hu
    show number? (c :: (v ++ b)) = _
    rw [number?, isSign_eq_false hc]
    exact hread
  · show number? (c :: (u ++ b)) = _
    rw [number?, if_pos hc, hread]
    rfl

theorem mem_of_fraction? (h : fraction? s = some (a, b)) : ∃ places ∈ digits, a = '.' :: places := by
  unfold fraction? at h
  split at h
  · obtain ⟨⟨places, rest⟩, hr, he⟩ := Option.map_eq_some_iff.mp h
    obtain ⟨rfl, rfl⟩ := Prod.mk.inj he
    exact ⟨places, mem_of_run? hr, rfl⟩
  · cases h

theorem mem_of_unsignedNumber? (h : unsignedNumber? s = some (a, b)) : a ∈ unsigned := by
  rw [mem_unsigned]
  unfold unsignedNumber? at h
  split at h
  · exact .inr (.inr (mem_of_fraction? h))
  · next whole rest hr =>
    split at h
    · cases h
      exact .inl (mem_of_run? hr)
    · next places rest' hf =>
      cases h
      obtain ⟨ds, hds, rfl⟩ := mem_of_fraction? hf
      exact .inr (.inl ⟨whole, mem_of_run? hr, ds, hds, rfl⟩)

theorem mem_of_number? (h : number? s = some (a, b)) : a ∈ numeral := by
  cases s with
  | nil => cases h
  | cons c s =>
    rw [number?] at h
    split at h
    · next hc =>
      obtain ⟨⟨ds, rest⟩, hu, he⟩ := Option.map_eq_some_iff.mp h
      obtain ⟨rfl, rfl⟩ := Prod.mk.inj he
      exact Language.append_mem_mul (mem_sign.mpr (.inr ⟨c, hc, rfl⟩)) (mem_of_unsignedNumber? hu)
    · exact Language.append_mem_mul (mem_sign.mpr (.inl rfl)) (mem_of_unsignedNumber? h)

end Prompt

end PromptCad
