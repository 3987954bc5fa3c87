import PromptCad.Proofs.Float.Comparison
import PromptCad.Proofs.Stl.Ascii

/-! Zero in STL text. A number is written as zero when it is off zero by no more than half of the last place, and its
sign is dropped when it is nearer than the float that stands for that half. That float itself lies between the two: it
is less than half of the place, and its negative is the one number whose sign is left in front of a zero. -/

namespace PromptCad.Stl.Ascii

open Decimal Decoder

structure IsZero (t : List Char) : Prop where
  nonempty : ∃ c ∈ t, isDigit c = true
  zero : ∀ c ∈ t, isDigit c = true → c = '0'

structure IsSignedZero (t : List Char) : Prop extends IsZero t where
  minus : t.head? = some '-'

/-- A number that is zero when it is rounded to six places. -/
def RoundsToZero (v : Float) : Prop := v.isFinite = true ∧ |exactValue v| ≤ 5 / 10 ^ 7

def numbers (f : Facet) : List Float := f.normal.toList ++ f.a.toList ++ f.b.toList ++ f.c.toList

def FacetText.numbers (f : FacetText) : List String := f.normal.toList ++ f.a.toList ++ f.b.toList ++ f.c.toList

def SolidText.numbers (s : SolidText) : List String := s.facets.flatMap FacetText.numbers

section Numbers

variable {v : Float}

/-- What is rounded to zero is no greater than the half as it is stored: the next float is above half of the place. -/
theorem value_le_halfPlace_iff (n : ℕ) : binary64.value n ≤ 5 / 10 ^ 7 ↔ n ≤ magnitude halfPlace := by
  constructor
  · intro hle
    by_contra hgt
    have hnext : binary64.value ((1001 + 1) * 2 ^ 52 + (0x0C6F7A0B5ED8D + 1)) =
        (2 ^ 52 + (0x0C6F7A0B5ED8D + 1) : ℕ) * 2 ^ (-1074 + (1001 : ℕ) : ℤ) :=
      binary64.value_normal (show 0x0C6F7A0B5ED8D + 1 < 2 ^ 52 by decide)
    have habove : 5 / 10 ^ 7 < binary64.value (magnitude halfPlace + 1) := by
      rw [halfPlace_bits.2, Nat.add_assoc, hnext]
      norm_num
    exact absurd (habove.trans_le (binary64.value_strictMono.monotone (not_le.mp hgt))) (not_lt.mpr hle)
  · intro hle
    have hhalf := exactValue_halfPlace.2
    rw [exactValue_eq_value halfPlace_bits.1] at hhalf
    exact (binary64.value_strictMono.monotone hle).trans hhalf

theorem eq_neg_halfPlace_iff : v = -halfPlace ↔ isNegative v = true ∧ magnitude v = magnitude halfPlace := by
  have hfinite := exactValue_halfPlace.1
  have hlt := (isFinite_iff halfPlace).mp hfinite
  have hneg : -halfPlace = ofMagnitude true (magnitude halfPlace) := by
    rw [neg_eq hfinite, halfPlace_bits.1, Bool.not_false]
  constructor
  · rintro rfl
    rw [hneg]
    exact ⟨isNegative_ofMagnitude true hlt, magnitude_ofMagnitude true hlt⟩
  · rintro ⟨hsign, hmagnitude⟩
    rw [← ofMagnitude_magnitude v, hsign, hmagnitude, hneg]

theorem isFinite_of_abs_lt_halfPlace (h : v.abs < halfPlace) : v.isFinite = true := by
  cases hnan : v.isNaN with
  | true =>
    change v.toModel.unpack.isNaN = true at hnan
    have habs : v.abs = Float.ofModel (.pack .notANumber) := by
      show Float.ofModel (.pack v.toModel.unpack.abs) = _
      cases hunpack : v.toModel.unpack with
      | notANumber => rfl
      | infinity s => rw [hunpack] at hnan; cases hnan
      | zero s => rw [hunpack] at hnan; cases hnan
      | finite s m e hm => rw [hunpack] at hnan; cases hnan
    rw [habs] at h
    exact absurd h (by decide)
  | false =>
    obtain ⟨hextent, hfinite⟩ := isExtent_abs hnan
    rcases hextent with habs | habs
    · exact hfinite habs
    · rw [habs] at h
      exact absurd h (infinity_not_lt (.inl exactValue_halfPlace.1))

theorem abs_lt_halfPlace_iff (h : v.isFinite = true) : v.abs < halfPlace ↔ magnitude v < magnitude halfPlace := by
  obtain ⟨hfinite, hvalue⟩ := exactValue_abs h
  have hhalf := exactValue_halfPlace.1
  have hpositive := exactValue_eq_value halfPlace_bits.1
  rw [lt_iff_exactValue hfinite hhalf, hvalue, abs_exactValue, hpositive, binary64.value_strictMono.lt_iff_lt]

theorem number_eq (h : v.isFinite = true) : number v =
    if magnitude v < magnitude halfPlace then "0.000000".toList
    else (if isNegative v then ['-'] else []) ++ pointed 6 ((binary64.dyadic (magnitude v)).scaled 6) := by
  rw [number, fixed_eq h]
  exact if_congr (abs_lt_halfPlace_iff h) rfl rfl

theorem roundsToZero_iff (h : v.isFinite = true) : RoundsToZero v ↔ magnitude v ≤ magnitude halfPlace := by
  rw [RoundsToZero, h, abs_exactValue, value_le_halfPlace_iff, eq_self, true_and]

theorem roundsToZero_neg_halfPlace : RoundsToZero (-halfPlace) := by
  have hmagnitude := (eq_neg_halfPlace_iff.mp rfl).2
  have hfinite : (-halfPlace).isFinite = true := by
    rw [isFinite_iff, hmagnitude, ← isFinite_iff]
    exact exactValue_halfPlace.1
  exact (roundsToZero_iff hfinite).mpr hmagnitude.le

/-- How a number is written: what is rounded to zero has no sign, but for one float. -/
theorem number_cases (v : Float) :
    (RoundsToZero v ∧ v ≠ -halfPlace ∧ number v = "0.000000".toList) ∨
      (v = -halfPlace ∧ number v = "-0.000000".toList) ∨
      (¬ RoundsToZero v ∧ ∃ d ≠ 0, SpellsFixed 6 (number v) d) ∨
      (v.isFinite = false ∧ number v = notFinite v) := by
  cases hfinite : v.isFinite with
  | false =>
    have hlarge : ¬ v.abs < halfPlace := fun h => by
      rw [isFinite_of_abs_lt_halfPlace h] at hfinite
      cases hfinite
    refine .inr (.inr (.inr ⟨rfl, ?_⟩))
    rw [number, if_neg hlarge, fixed, hfinite, if_neg Bool.false_ne_true]
  | true =>
    have hscaled : (binary64.dyadic (magnitude v)).scaled 6 = 0 ↔ magnitude v ≤ magnitude halfPlace := by
      have hplace : (1 / 2 / 10 ^ 6 : ℚ) = 5 / 10 ^ 7 := by norm_num
      rw [Dyadic.scaled_eq_zero_iff, hplace]
      exact value_le_halfPlace_iff (magnitude v)
    rw [number_eq hfinite, roundsToZero_iff hfinite, ne_eq, eq_neg_halfPlace_iff]
    rcases lt_trichotomy (magnitude v) (magnitude halfPlace) with hlt | heq | hgt
    · exact .inl ⟨hlt.le, fun h => hlt.ne h.2, if_pos hlt⟩
    · rw [if_neg heq.not_lt, hscaled.mpr heq.le]
      cases isNegative v with
      | true => exact .inr (.inl ⟨⟨rfl, heq⟩, by decide⟩)
      | false => exact .inl ⟨heq.le, fun h => Bool.false_ne_true h.1, by decide⟩
    · rw [if_neg hgt.not_gt]
      have hspells := spellsFixed_pointed (isNegative v) 6 ((binary64.dyadic (magnitude v)).scaled 6)
      refine .inr (.inr (.inl ⟨hgt.not_ge, _, mul_ne_zero ?_ (div_ne_zero ?_ (by norm_num)), hspells⟩))
      · split <;> norm_num
      · exact Nat.cast_ne_zero.mpr (mt hscaled.mp hgt.not_ge)

theorem number_of_roundsToZero (h : RoundsToZero v) :
    number v = "0.000000".toList ∧ v ≠ -halfPlace ∨ number v = "-0.000000".toList ∧ v = -halfPlace := by
  rcases number_cases v with ⟨-, hne, htext⟩ | ⟨heq, htext⟩ | ⟨hnot, -⟩ | ⟨hinfinite, -⟩
  · exact .inl ⟨htext, hne⟩
  · exact .inr ⟨htext, heq⟩
  · exact absurd h hnot
  · rw [h.1] at hinfinite
    cases hinfinite

theorem number_neg_halfPlace : number (-halfPlace) = "-0.000000".toList := by
  rcases number_of_roundsToZero roundsToZero_neg_halfPlace with ⟨-, hne⟩ | ⟨htext, -⟩
  · exact absurd rfl hne
  · exact htext

theorem not_isZero_notFinite (v : Float) : ¬ IsZero (notFinite v) := by
  rintro ⟨⟨c, hc, hdigit⟩, -⟩
  have hnone : (notFinite v).all (!isDigit ·) = true := by
    unfold notFinite signed
    split
    · decide
    · split <;> decide
  have hother := List.all_eq_true.mp hnone c hc
  rw [hdigit] at hother
  cases hother

theorem roundsToZero_of_isZero (h : IsZero (number v)) : RoundsToZero v := by
  rcases number_cases v with ⟨hzero, -⟩ | ⟨rfl, -⟩ | ⟨-, d, hd, hspells⟩ | ⟨-, htext⟩
  · exact hzero
  · exact roundsToZero_neg_halfPlace
  · exact absurd (hspells.eq_zero h.zero) hd
  · rw [htext] at h
    exact absurd h (not_isZero_notFinite v)

theorem isZero_of_all {t : List Char} (hmem : '0' ∈ t) (hall : t.all (fun c => !isDigit c || c = '0') = true) :
    IsZero t := by
  refine ⟨⟨'0', hmem, by decide⟩, fun c hc hdigit => ?_⟩
  simpa [hdigit] using List.all_eq_true.mp hall c hc

theorem isSignedZero_text : IsSignedZero "-0.000000".toList := ⟨isZero_of_all (by decide) (by decide), by decide⟩

/-- A zero with a sign is the text of a single float. -/
theorem isSignedZero_number_iff : IsSignedZero (number v) ↔ v = -halfPlace := by
  constructor
  · intro h
    rcases number_of_roundsToZero (roundsToZero_of_isZero h.toIsZero) with ⟨htext, -⟩ | ⟨-, heq⟩
    · rw [htext] at h
      exact absurd h.minus (by decide)
    · exact heq
  · rintro rfl
    rw [number_neg_halfPlace]
    exact isSignedZero_text

theorem number_eq_zero_iff : number v = "0.000000".toList ↔ RoundsToZero v ∧ v ≠ -halfPlace := by
  constructor
  · intro h
    refine ⟨roundsToZero_of_isZero (h ▸ isZero_of_all (by decide) (by decide)), fun heq => ?_⟩
    rw [heq, number_neg_halfPlace] at h
    exact absurd h (by decide)
  · rintro ⟨hzero, hne⟩
    rcases number_of_roundsToZero hzero with ⟨htext, -⟩ | ⟨-, heq⟩
    · exact htext
    · exact absurd heq hne

end Numbers

theorem numberText_eq_iff {v : Float} {s : String} : numberText v = s ↔ number v = s.toList := by
  rw [← String.toList_inj, numberText, String.toList_ofList]

theorem numbers_solid (name : String) (facets : List Facet) :
    (SolidText.mk name (facets.map facetText) name).numbers = (facets.flatMap numbers).map numberText := by
  rw [SolidText.numbers, List.flatMap_map, List.map_flatMap]
  rfl

theorem numberText_eq_signedZero_iff {v : Float} : numberText v = "-0.000000" ↔ v = -halfPlace := by
  rw [numberText_eq_iff]
  constructor
  · intro h
    refine isSignedZero_number_iff.mp ?_
    rw [h]
    exact isSignedZero_text
  · rintro rfl
    exact number_neg_halfPlace

/-- A solid has a zero with a sign in it only where the negative of the stored half is one of its numbers. Every other
number that is rounded to zero is written as zero and nothing else is. -/
theorem signed_zero_iff {m : Mesh} (h : m.InRange) (name : String) :
    (m.triangles.size = 0 ∧ Stl.encode .ascii m name = .error .emptyModel) ∨
      ∃ bytes text solid facets, Stl.encode .ascii m name = .ok bytes ∧ Text.decode bytes = .ok text ∧
        read? text = some (solid, []) ∧ m.facets? = some facets ∧ facets.length = m.triangles.size ∧
        solid.numbers = (facets.flatMap numbers).map numberText ∧
        (∀ v ∈ facets.flatMap numbers, numberText v = "0.000000" ↔ RoundsToZero v ∧ v ≠ -halfPlace) ∧
        (∀ t ∈ solid.numbers, IsSignedZero t.toList ↔ t = "-0.000000") ∧
        ("-0.000000" ∈ solid.numbers ↔ -halfPlace ∈ facets.flatMap numbers) := by
  rcases Nat.eq_zero_or_pos m.triangles.size with hzero | hpos
  · refine .inl ⟨hzero, ?_⟩
    rw [Stl.encode, Mesh.isEmpty, Array.isEmpty, hzero]
    rfl
  · obtain ⟨-, hread⟩ := read?_text name.toList m
    refine .inr ⟨_, text name.toList m, _, m.facets, encode_ascii hpos name, Text.decode_toUTF8 _, hread,
      Mesh.facets?_eq h, Mesh.length_facets m, numbers_solid _ _, fun v _ => ?_, fun t ht => ?_, ?_⟩
    · rw [numberText_eq_iff, number_eq_zero_iff]
    · rw [numbers_solid] at ht
      obtain ⟨v, -, rfl⟩ := List.mem_map.mp ht
      rw [numberText_eq_signedZero_iff, numberText, String.toList_ofList, isSignedZero_number_iff]
    · rw [numbers_solid]
      simp [numberText_eq_signedZero_iff]

/-- A negative zero and a coordinate that is almost zero are both written without a sign. -/
theorem signed_zero_iff_sliver :
    Mesh.sliver.InRange ∧ ∃ bytes text solid, Stl.encode .ascii Mesh.sliver "a" = .ok bytes ∧
      Text.decode bytes = .ok text ∧ read? text = some (solid, []) ∧ ∀ t ∈ solid.numbers, ¬ IsSignedZero t.toList := by
  have hrange : Mesh.sliver.InRange := by
    unfold Mesh.InRange
    decide
  have hnone : -halfPlace ∉ Mesh.sliver.facets.flatMap numbers := by
    intro hmem
    have hall : ∀ v ∈ Mesh.sliver.facets.flatMap numbers, magnitude v ≠ magnitude halfPlace := by decide +kernel
    exact hall _ hmem (eq_neg_halfPlace_iff.mp rfl).2
  refine ⟨hrange, ?_⟩
  rcases signed_zero_iff hrange "a" with ⟨hempty, -⟩ |
    ⟨bytes, text, solid, facets, hencode, hdecode, hread, hfacets, -, -, -, hsigned, hiff⟩
  · exact absurd hempty (by decide)
  · obtain rfl := Option.some.inj ((Mesh.facets?_eq hrange).symm.trans hfacets)
    refine ⟨bytes, text, solid, hencode, hdecode, hread, fun t ht h => hnone (hiff.mp ?_)⟩
    exact (hsigned t ht).mp h ▸ ht

/-- A triangle with a corner that is off an axis by the stored half. -/
def nick : Mesh := ⟨#[⟨-5e-7, 0, 0⟩, ⟨1, 0, 0⟩, ⟨0, 1, 0⟩], #[⟨0, 1, 2⟩]⟩

theorem signed_zero_nick :
    ¬ ∀ (m : Mesh) (name : String), m.InRange → ∀ bytes text solid, Stl.encode .ascii m name = .ok bytes →
      Text.decode bytes = .ok text → read? text = some (solid, []) → ∀ t ∈ solid.numbers, ¬ IsSignedZero t.toList := by
  intro hclaim
  have hrange : nick.InRange := by
    unfold Mesh.InRange
    decide
  obtain ⟨-, hread⟩ := read?_text "model".toList nick
  have hmem : -halfPlace ∈ nick.facets.flatMap numbers :=
    List.mem_flatMap.mpr ⟨nick.facet ⟨0, 1, 2⟩, List.mem_singleton.mpr rfl,
      List.mem_append_left _ (List.mem_append_left _ (List.mem_append_right _ (List.mem_cons_self)))⟩
  refine hclaim nick "model" hrange _ _ _ (encode_ascii (by decide) "model") (Text.decode_toUTF8 _) hread
    (numberText (-halfPlace)) ?_ ?_
  · rw [numbers_solid]
    exact List.mem_map_of_mem hmem
  · rw [numberText, String.toList_ofList, isSignedZero_number_iff]

end PromptCad.Stl.Ascii
