import PromptCad.Proofs.Prompt.Munch
import PromptCad.Unicode.LowerCase

/-! What the table of lower-case mappings keeps to: no code point that it maps to is one that it maps from, and no blank
is on either side. So a second mapping changes nothing, and a character is a blank just when its image is. -/

namespace PromptCad.Unicode

namespace CaseRun

def low (r : CaseRun) : Nat := (r.first + r.offset).toNat

def high (r : CaseRun) : Nat := (r.last + r.offset).toNat

/-- Whether the code points of one run are moved to none of another. Their intervals are disjoint, or each second code
point is taken and the one starts on the odd side of the other. -/
def misses (r q : CaseRun) : Bool :=
  r.high.blt q.first || q.last.blt r.low ||
    (q.step == 2 && (r.step == 2 || r.first == r.last) && (r.low + q.first) % 2 == 1)

def lands (r : CaseRun) : Bool := 0 ≤ r.first + r.offset && (r.high < 0xD800 || 0xDFFF < r.low && r.high < 0x110000)

variable {r q : CaseRun} {n m : Nat}

theorem image?_eq_some :
    r.image? n = some m ↔ (r.first ≤ n ∧ n ≤ r.last ∧ (n - r.first) % r.step = 0) ∧ (n + r.offset).toNat = m := by
  rw [image?, Option.ite_none_right_eq_some, Option.some_inj]

theorem low_le (h : r.image? n = some m) : r.low ≤ m ∧ m ≤ r.high := by
  obtain ⟨⟨hfirst, hlast, -⟩, rfl⟩ := image?_eq_some.mp h
  simp only [low, high]
  omega

theorem image?_eq_none_of_misses (hr : r.lands = true) (hmiss : r.misses q = true) (h : r.image? n = some m) :
    q.image? m = none := by
  have hbounds := low_le h
  obtain ⟨⟨hfirst, hlast, hstep⟩, hm⟩ := image?_eq_some.mp h
  simp only [lands, Bool.and_eq_true, decide_eq_true_eq] at hr
  simp only [misses, Bool.or_eq_true, Bool.and_eq_true, Nat.blt_eq, beq_iff_eq] at hmiss
  rw [image?, if_neg]
  rintro ⟨hfirst', hlast', hstep'⟩
  rcases hmiss with (hmiss | hmiss) | ⟨⟨htwo, htwo' | hone⟩, hodd⟩
  · omega
  · omega
  · rw [htwo] at hstep'
    rw [htwo'] at hstep
    simp only [low] at hodd
    omega
  · rw [htwo] at hstep'
    simp only [low] at hodd
    omega

theorem toNat_ofNat_image (hr : r.lands = true) (h : r.image? n = some m) : (Char.ofNat m).toNat = m := by
  have hbounds := low_le h
  simp only [lands, Bool.and_eq_true, Bool.or_eq_true, decide_eq_true_eq] at hr
  have hvalid : m.isValidChar := by
    unfold Nat.isValidChar
    omega
  rw [Char.ofNat, dif_pos hvalid]
  rfl

end CaseRun

def loweredRanges : Ranges := lowerCaseRuns.map fun r => (r.low, r.high)

/-- The code points that lower case replaces, with some that lie between them. -/
def raisedRanges : Ranges := lowerCaseRuns.map fun r => (r.first, r.last)

theorem lands_of_mem : ∀ r ∈ lowerCaseRuns, r.lands = true := by
  rw [← List.all_eq_true]
  decide

theorem misses_of_mem : ∀ r ∈ lowerCaseRuns, ∀ q ∈ lowerCaseRuns, r.misses q = true := by
  have hall : (lowerCaseRuns.all fun r => lowerCaseRuns.all r.misses) = true := by decide +kernel
  simpa only [List.all_eq_true] using hall

theorem raised_apart_blank : raisedRanges.apart whiteSpaceRanges = true := by decide

theorem lowered_apart_blank : loweredRanges.apart whiteSpaceRanges = true := by decide

theorem lowered_apart_dotted : loweredRanges.apart [(0x130, 0x130)] = true := by decide

variable {c : Char}

/-- A character stays as it is, or a run of the table moves it. -/
theorem lowerChar_cases (c : Char) :
    (lowerChar c = c ∧ ∀ r ∈ lowerCaseRuns, r.image? c.toNat = none) ∨
      ∃ r ∈ lowerCaseRuns, r.image? c.toNat = some (lowerChar c).toNat := by
  unfold lowerChar
  cases hfound : lowerCaseRuns.findSome? (·.image? c.toNat) with
  | none => exact .inl ⟨rfl, List.findSome?_eq_none_iff.mp hfound⟩
  | some m =>
    obtain ⟨r, hr, hm⟩ := List.exists_of_findSome?_eq_some hfound
    refine .inr ⟨r, hr, ?_⟩
    rw [CaseRun.toNat_ofNat_image (lands_of_mem r hr) hm]
    exact hm

theorem lowerChar_eq_self (h : ∀ r ∈ lowerCaseRuns, r.image? c.toNat = none) : lowerChar c = c := by
  rw [lowerChar, List.findSome?_eq_none_iff.mpr h]

theorem lowerChar_lowerChar (c : Char) : lowerChar (lowerChar c) = lowerChar c := by
  rcases lowerChar_cases c with ⟨hc, -⟩ | ⟨r, hr, hm⟩
  · exact hc.symm ▸ hc
  · exact lowerChar_eq_self fun q hq =>
      CaseRun.image?_eq_none_of_misses (lands_of_mem r hr) (misses_of_mem r hr q hq) hm

theorem isWhiteSpace_lowerChar (c : Char) : isWhiteSpace (lowerChar c) = isWhiteSpace c := by
  rcases lowerChar_cases c with ⟨hc, -⟩ | ⟨r, hr, hm⟩
  · rw [hc]
  · have hraised : raisedRanges.contains c = true := by
      obtain ⟨⟨hfirst, hlast, -⟩, -⟩ := CaseRun.image?_eq_some.mp hm
      exact Ranges.contains_iff.mpr ⟨_, List.mem_map_of_mem hr, hfirst, hlast⟩
    have hlowered : loweredRanges.contains (lowerChar c) = true :=
      Ranges.contains_iff.mpr ⟨_, List.mem_map_of_mem hr, CaseRun.low_le hm⟩
    rw [isWhiteSpace, isWhiteSpace, Ranges.contains_eq_false_of_apart lowered_apart_blank hlowered,
      Ranges.contains_eq_false_of_apart raised_apart_blank hraised]

theorem lowerChar_ne_dotted (h : c ≠ '\u0130') : lowerChar c ≠ '\u0130' := by
  rcases lowerChar_cases c with ⟨hc, -⟩ | ⟨r, hr, hm⟩
  · rwa [hc]
  · have hlowered : loweredRanges.contains (lowerChar c) = true :=
      Ranges.contains_iff.mpr ⟨_, List.mem_map_of_mem hr, CaseRun.low_le hm⟩
    have happart := Ranges.contains_eq_false_of_apart lowered_apart_dotted hlowered
    intro he
    rw [he] at happart
    exact absurd happart (by decide)

end PromptCad.Unicode
