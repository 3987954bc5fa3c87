import PromptCad.Proofs.Unicode.LowerCase
import PromptCad.Text.Blank
import PromptCad.Text.Lower

/-! Trimming and lower case of a text. Either of them a second time changes nothing, and neither undoes the other: lower
case leaves the ends of a text blank or not as they were. -/

namespace PromptCad.Text

open Unicode

variable {s t : List Char} {c d : Char} {before : Bool}

structure Trimmed (s : List Char) : Prop where
  front : ∀ c ∈ s.head?, isWhiteSpace c = false
  back : ∀ c ∈ s.getLast?, isWhiteSpace c = false

theorem trimLeft_eq_self (h : ∀ c ∈ s.head?, isWhiteSpace c = false) : trimLeft s = s := by
  cases s with
  | nil => rfl
  | cons c s => rw [trimLeft, List.dropWhile_cons, h c rfl, if_neg Bool.false_ne_true]

theorem Trimmed.trim_eq (h : Trimmed s) : trim s = s := by
  have hback : trimLeft s.reverse = s.reverse := by
    refine trimLeft_eq_self ?_
    rw [List.head?_reverse]
    exact h.back
  rw [trim, trimLeft_eq_self h.front, trimRight]
  exact (congrArg List.reverse hback).trans s.reverse_reverse

theorem front_trimLeft (s : List Char) : ∀ c ∈ (trimLeft s).head?, isWhiteSpace c = false := by
  intro c hc
  have hstop := List.head?_dropWhile_not isWhiteSpace s
  rw [Option.mem_def, trimLeft] at hc
  rw [hc] at hstop
  simpa using hstop

theorem exists_append_trimRight (s : List Char) : trimRight s <+: s := by
  have hsuffix := List.dropWhile_suffix isWhiteSpace (l := s.reverse)
  rw [← List.reverse_prefix, List.reverse_reverse] at hsuffix
  exact hsuffix

theorem trimmed_trim (s : List Char) : Trimmed (trim s) where
  front c hc := by
    obtain ⟨b, hb⟩ := exists_append_trimRight (trimLeft s)
    refine front_trimLeft s c ?_
    rw [trim, Option.mem_def] at hc
    rw [← hb, List.head?_append, hc]
    rfl
  back c hc := by
    refine front_trimLeft (trimLeft s).reverse c ?_
    rw [trim, trimRight, List.getLast?_reverse] at hc
    exact hc

theorem mem_of_mem_trim (h : c ∈ trim s) : c ∈ s :=
  (List.dropWhile_suffix isWhiteSpace).subset ((exists_append_trimRight _).subset h)

/-- What a character becomes before the rest of the text. -/
def lowerHere (before : Bool) (c : Char) (s : List Char) : List Char :=
  if c = sigma then [if before && !casedAhead s then '\u03C2' else '\u03C3'] else lowerChars c

theorem lowerAfter_cons :
    lowerAfter before (c :: s) = lowerHere before c s ++ lowerAfter (casedBehind before c) s := rfl

theorem lowerHere_ne_nil : lowerHere before c s ≠ [] := by
  unfold lowerHere lowerChars
  split
  · exact List.cons_ne_nil _ _
  · split <;> exact List.cons_ne_nil _ _

/-- Lower case keeps the character as it is, wherever it stands. -/
def IsLower (c : Char) : Prop := c ≠ sigma ∧ lowerChars c = [c]

theorem isLower_lowerChar (h : c ≠ '\u0130') : IsLower (lowerChar c) := by
  refine ⟨fun hs => ?_, ?_⟩
  · have hfixed := lowerChar_lowerChar c
    rw [hs] at hfixed
    exact absurd hfixed (by decide)
  · rw [lowerChars, if_neg (lowerChar_ne_dotted h), lowerChar_lowerChar]

theorem isLower_of_mem_lowerHere (h : d ∈ lowerHere before c s) :
    IsLower d ∧ isWhiteSpace d = isWhiteSpace c := by
  have hfixed : IsLower '\u03C2' ∧ IsLower '\u03C3' ∧ IsLower 'i' ∧ IsLower '\u0307' := by
    unfold IsLower
    decide
  unfold lowerHere lowerChars at h
  split at h
  · next hc =>
    subst hc
    split at h
    · obtain rfl := List.mem_singleton.mp h
      exact ⟨hfixed.1, rfl⟩
    · obtain rfl := List.mem_singleton.mp h
      exact ⟨hfixed.2.1, rfl⟩
  · split at h
    · next hc =>
      subst hc
      rcases List.mem_pair.mp h with rfl | rfl
      · exact ⟨hfixed.2.2.1, rfl⟩
      · exact ⟨hfixed.2.2.2, rfl⟩
    · next hc =>
      obtain rfl := List.mem_singleton.mp h
      exact ⟨isLower_lowerChar hc, isWhiteSpace_lowerChar c⟩

theorem isLower_of_mem_lower (h : d ∈ lower s) : IsLower d := by
  suffices hall : ∀ before, ∀ d ∈ lowerAfter before s, IsLower d from hall false d h
  clear h
  induction s with
  | nil => exact fun _ _ h => absurd h List.not_mem_nil
  | cons c s ih =>
    intro before d h
    rw [lowerAfter_cons] at h
    rcases List.mem_append.mp h with h | h
    · exact (isLower_of_mem_lowerHere h).1
    · exact ih _ d h

theorem lower_eq_self (h : ∀ c ∈ s, IsLower c) : lower s = s := by
  suffices hall : ∀ before, lowerAfter before s = s from hall false
  induction s with
  | nil => exact fun _ => rfl
  | cons c s ih =>
    intro before
    obtain ⟨hsigma, hfixed⟩ := h c List.mem_cons_self
    rw [lowerAfter_cons, lowerHere, if_neg hsigma, hfixed, ih fun d hd => h d (List.mem_cons_of_mem c hd)]
    rfl

theorem lowerAfter_eq_nil : lowerAfter before s = [] ↔ s = [] := by
  cases s with
  | nil => exact ⟨fun _ => rfl, fun _ => rfl⟩
  | cons c s =>
    rw [lowerAfter_cons, List.append_eq_nil_iff]
    exact ⟨fun h => absurd h.1 lowerHere_ne_nil, fun h => absurd h (List.cons_ne_nil c s)⟩

theorem back_lowerAfter (h : ∀ c ∈ s.getLast?, isWhiteSpace c = false) :
    ∀ d ∈ (lowerAfter before s).getLast?, isWhiteSpace d = false := by
  induction s generalizing before with
  | nil => exact fun d hd => absurd hd (Option.not_mem_none d)
  | cons c s ih =>
    intro d hd
    rw [lowerAfter_cons, List.getLast?_append] at hd
    cases s with
    | nil =>
      rw [(isLower_of_mem_lowerHere (List.mem_of_getLast? hd)).2]
      exact h c rfl
    | cons e s =>
      -- the rest of the text is not empty, so its last character is the last of the whole
      have hne : lowerAfter (casedBehind before c) (e :: s) ≠ [] :=
        fun he => List.cons_ne_nil e s (lowerAfter_eq_nil.mp he)
      rw [List.getLast?_eq_some_getLast hne, Option.some_or, ← List.getLast?_eq_some_getLast hne] at hd
      exact ih h d hd

theorem unbroken_lowerAfter (h : ∀ c ∈ s, isWhiteSpace c = false) :
    ∀ d ∈ lowerAfter before s, isWhiteSpace d = false := by
  induction s generalizing before with
  | nil => exact fun _ hd => absurd hd List.not_mem_nil
  | cons c s ih =>
    obtain ⟨hc, hs⟩ := List.forall_mem_cons.mp h
    intro d hd
    rw [lowerAfter_cons] at hd
    rcases List.mem_append.mp hd with hd | hd
    · rw [(isLower_of_mem_lowerHere hd).2, hc]
    · exact ih hs d hd

theorem Trimmed.lower (h : Trimmed s) : Trimmed (lower s) where
  front d hd := by
    cases s with
    | nil => exact absurd hd (Option.not_mem_none d)
    | cons c s =>
      rw [Text.lower, lowerAfter_cons, List.head?_append_of_ne_nil _ lowerHere_ne_nil] at hd
      rw [(isLower_of_mem_lowerHere (List.mem_of_head? hd)).2]
      exact h.front c rfl
  back := back_lowerAfter h.back

theorem isLower_of_blank (hc : isWhiteSpace c = true) : IsLower c := by
  have hapart : ∀ r ∈ lowerCaseRuns, r.image? c.toNat = none := by
    intro r hr
    cases himage : r.image? c.toNat with
    | none => rfl
    | some n =>
      obtain ⟨⟨hfirst, hlast, -⟩, -⟩ := CaseRun.image?_eq_some.mp himage
      have hraised : raisedRanges.contains c = true :=
        Ranges.contains_iff.mpr ⟨_, List.mem_map_of_mem hr, hfirst, hlast⟩
      cases hc.symm.trans (Ranges.contains_eq_false_of_apart raised_apart_blank hraised)
  refine ⟨?_, ?_⟩
  · rintro rfl
    exact absurd hc (by decide)
  · rw [lowerChars, if_neg, lowerChar_eq_self hapart]
    rintro rfl
    exact absurd hc (by decide)

/-- Blanks are neither cased nor passed over in the search for a cased letter. -/
theorem blank_apart_cased : whiteSpaceRanges.apart casedRanges = true ∧
    whiteSpaceRanges.apart caseIgnorableRanges = true := by decide +kernel

theorem casedAhead_cons (c : Char) (s : List Char) :
    casedAhead (c :: s) = if isCaseIgnorable c then casedAhead s else isCased c := by
  cases h : isCaseIgnorable c with
  | true => simp [casedAhead, h]
  | false => simp [casedAhead, h]

theorem casedAhead_append_blank (hc : isWhiteSpace c = true) (s t : List Char) :
    casedAhead (s ++ c :: t) = casedAhead s := by
  induction s with
  | nil =>
    have hcased : isCased c = false := Ranges.contains_eq_false_of_apart blank_apart_cased.1 hc
    have hignorable : isCaseIgnorable c = false := Ranges.contains_eq_false_of_apart blank_apart_cased.2 hc
    rw [List.nil_append, casedAhead_cons, hignorable, if_neg Bool.false_ne_true, hcased]
    rfl
  | cons d s ih => rw [List.cons_append, casedAhead_cons, casedAhead_cons, ih]

/-- What stands on one side of a blank has no part in the lower case of the other. -/
theorem lowerAfter_append_blank (hc : isWhiteSpace c = true) (s t : List Char) :
    lowerAfter before (s ++ c :: t) = lowerAfter before s ++ c :: lowerAfter false t := by
  induction s generalizing before with
  | nil =>
    obtain ⟨hsigma, hfixed⟩ := isLower_of_blank hc
    have hcased : isCased c = false := Ranges.contains_eq_false_of_apart blank_apart_cased.1 hc
    have hignorable : isCaseIgnorable c = false := Ranges.contains_eq_false_of_apart blank_apart_cased.2 hc
    rw [List.nil_append, lowerAfter_cons, lowerHere, if_neg hsigma, hfixed, casedBehind, hignorable,
      if_neg Bool.false_ne_true, hcased]
    rfl
  | cons d s ih =>
    rw [List.cons_append, lowerAfter_cons, lowerAfter_cons, ih, lowerHere, lowerHere, casedAhead_append_blank hc,
      List.append_assoc]

theorem lower_append_blank (hc : isWhiteSpace c = true) (s t : List Char) :
    lower (s ++ c :: t) = lower s ++ c :: lower t := lowerAfter_append_blank hc s t

theorem lower_append_blanks {b : List Char} (hne : b ≠ []) (hb : ∀ c ∈ b, isWhiteSpace c = true) (s t : List Char) :
    lower (s ++ (b ++ t)) = lower s ++ (b ++ lower t) := by
  induction b generalizing s with
  | nil => exact absurd rfl hne
  | cons c b ih =>
    obtain ⟨hc, hb⟩ := List.forall_mem_cons.mp hb
    rw [List.cons_append, lower_append_blank hc, List.cons_append]
    cases b with
    | nil => rfl
    | cons d b => exact congrArg (lower s ++ c :: ·) (ih (List.cons_ne_nil d b) hb [])

def capitals : List Char := (List.range' 0x41 26).map Char.ofNat

theorem toLower_eq_self (h : c ∉ capitals) : c.toLower = c := by
  refine dif_neg ?_
  rintro ⟨hfirst, hlast⟩
  refine h (List.mem_map.mpr ⟨c.toNat, List.mem_range'_1.mpr ⟨hfirst, ?_⟩, Char.ofNat_toNat c⟩)
  have hlast' : c.toNat ≤ 0x5A := hlast
  omega

def asciiRanges : Ranges := [(0x41, 0x5A), (0x61, 0x7A)]

theorem ascii_apart_ignorable : asciiRanges.apart caseIgnorableRanges = true := by decide +kernel

/-- Nothing that lower case looks at tells a capital letter from the small one. -/
theorem capitals_folded : ∀ c ∈ capitals, (c.toLower ≠ sigma ∧ c ≠ sigma) ∧ isCased c.toLower = isCased c ∧
    isCaseIgnorable c.toLower = isCaseIgnorable c ∧ lowerChars c.toLower = lowerChars c := by
  have hall : (capitals.all fun c => (c.toLower ≠ sigma ∧ c ≠ sigma) ∧ isCased c.toLower = isCased c ∧
      (c ≠ '\u0130' ∧ lowerChar c = c.toLower) ∧ asciiRanges.contains c.toLower ∧ asciiRanges.contains c) = true := by
    decide +kernel
  intro c hc
  obtain ⟨hsigma, hcased, ⟨hdotted, hlower⟩, hsmall, hcapital⟩ := of_decide_eq_true (List.all_eq_true.mp hall c hc)
  refine ⟨hsigma, hcased, ?_, ?_⟩
  · rw [isCaseIgnorable, isCaseIgnorable, Ranges.contains_eq_false_of_apart ascii_apart_ignorable hsmall,
      Ranges.contains_eq_false_of_apart ascii_apart_ignorable hcapital]
  · rw [← hlower, (isLower_lowerChar hdotted).2, lowerChars, if_neg hdotted]

theorem toLower_folded (c : Char) : (c.toLower = sigma ↔ c = sigma) ∧ isCased c.toLower = isCased c ∧
    isCaseIgnorable c.toLower = isCaseIgnorable c ∧ lowerChars c.toLower = lowerChars c := by
  by_cases hc : c ∈ capitals
  · obtain ⟨⟨hlow, hhigh⟩, hrest⟩ := capitals_folded c hc
    exact ⟨iff_of_false hlow hhigh, hrest⟩
  · rw [toLower_eq_self hc]
    exact ⟨Iff.rfl, rfl, rfl, rfl⟩

theorem casedAhead_lowerAscii (s : List Char) : casedAhead (lowerAscii s) = casedAhead s := by
  induction s with
  | nil => rfl
  | cons c s ih =>
    obtain ⟨-, hcased, hignorable, -⟩ := toLower_folded c
    rw [lowerAscii] at ih
    rw [lowerAscii, List.map_cons, casedAhead_cons, casedAhead_cons, ih, hcased, hignorable]

theorem lower_lowerAscii (s : List Char) : lower (lowerAscii s) = lower s := by
  suffices h : ∀ before, lowerAfter before (lowerAscii s) = lowerAfter before s from h false
  induction s with
  | nil => exact fun _ => rfl
  | cons c s ih =>
    intro before
    obtain ⟨hsigma, hcased, hignorable, hlower⟩ := toLower_folded c
    have hahead := casedAhead_lowerAscii s
    rw [lowerAscii] at ih hahead
    rw [lowerAscii, List.map_cons, lowerAfter_cons, lowerAfter_cons, lowerHere, lowerHere, hahead, casedBehind,
      casedBehind, hcased, hignorable, hlower, ih]
    simp only [hsigma]

end PromptCad.Text
