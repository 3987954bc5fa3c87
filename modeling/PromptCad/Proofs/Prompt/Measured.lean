import PromptCad.Proofs.Prompt.Layout

/-! From a sentence to a primitive. Each measurement yields a size or one error, which its number, its unit and its
value tell in this order. The first measurement at fault is reported before the counter is looked at; when none is,
the sizes fill the solid in the order of the template, and only the counter can still refuse it. -/

namespace PromptCad

open Decimal (read? notANumber)

structure IsSize (value factor : Float) : Prop where
  finite : value.isFinite = true
  positive : 0 < value
  least : Size.least ≤ value * factor
  greatest : value * factor ≤ Size.greatest

theorem not_le_zero_iff {x : Float} (hx : x.isFinite = true) : ¬ x ≤ 0 ↔ 0 < x := by
  have hzero : (0 : Float).isFinite = true := by decide
  rw [Decimal.le_iff_exactValue hx hzero, Decimal.lt_iff_exactValue hzero hx, not_le]

theorem isSize_iff {value factor : Float} :
    IsSize value factor ↔ (!value.isFinite || value ≤ 0) = false ∧ Size.admits (value * factor) = true := by
  rw [Bool.or_eq_false_iff, Bool.not_eq_false', decide_eq_false_iff_not, Size.admits, Bool.and_eq_true,
    decide_eq_true_eq, decide_eq_true_eq]
  constructor
  · intro h
    exact ⟨⟨h.finite, (not_le_zero_iff h.finite).mpr h.positive⟩, h.least, h.greatest⟩
  · rintro ⟨⟨hfinite, hpositive⟩, hleast, hgreatest⟩
    exact ⟨hfinite, (not_le_zero_iff hfinite).mp hpositive, hleast, hgreatest⟩

namespace LengthUnit

variable {unit : LengthUnit} {value factor : Float} {token : String}

theorem toMillimeters_of_isSize (h : IsSize value unit.factor) :
    unit.toMillimeters value = .ok (value * unit.factor) := by
  obtain ⟨hvalue, hadmits⟩ := isSize_iff.mp h
  rw [toMillimeters, hvalue, if_neg Bool.false_ne_true]
  exact if_pos hadmits

theorem toMillimeters_of_not_isSize (h : ¬ IsSize value unit.factor) :
    unit.toMillimeters value = .error (.invalidDimension value) := by
  unfold toMillimeters
  split
  · rfl
  · next hvalue =>
    rw [Bool.not_eq_true] at hvalue
    exact if_neg fun hadmits => h (isSize_iff.mpr ⟨hvalue, hadmits⟩)

def factors : List (String × Float) := [("mm", 1), ("cm", 10), ("in", 25.4), ("inch", 25.4), ("inches", 25.4)]

theorem plain_of_mem_letters (h : token.toList ∈ Prompt.Grammar.letters) :
    Text.trim token.toList = token.toList ∧ String.ofList (Text.lowerAscii token.toList) = token := by
  have hunbroken := Prompt.unbroken_of_mem_letters h
  have hsmall : Text.lowerAscii token.toList = token.toList := by
    have hcapitals : (Text.capitals.all fun c => !Prompt.isUnitLetter c) = true := by decide
    refine (List.map_congr_left fun c hc => Text.toLower_eq_self fun hcapital => ?_).trans (List.map_id _)
    have hletter : Prompt.isUnitLetter c = true := h.2 c hc
    have hother := List.all_eq_true.mp hcapitals c hcapital
    rw [hletter] at hother
    cases hother
  refine ⟨Text.Trimmed.trim_eq ?_, ?_⟩
  · exact ⟨fun c hc => hunbroken c (List.mem_of_head? hc), fun c hc => hunbroken c (List.mem_of_getLast? hc)⟩
  · rw [hsmall, String.ofList_toList]

theorem spelled_factors : ∀ p ∈ factors, ∃ unit ∈ all, p.1 ∈ unit.spellings := by decide

theorem ofToken_cases (h : token.toList ∈ Prompt.Grammar.letters) :
    (∃ unit : LengthUnit, factors.lookup token = some unit.factor ∧ ofToken token = .ok unit) ∨
      factors.lookup token = none ∧ ofToken token = .error (.unknownUnit token) := by
  obtain ⟨htrim, hsmall⟩ := plain_of_mem_letters h
  simp only [ofToken, htrim, hsmall, String.ofList_toList]
  cases hfound : all.find? (·.spellings.contains token) with
  | some unit =>
    refine .inl ⟨unit, ?_, rfl⟩
    have hspelling : token ∈ unit.spellings := by simpa using List.find?_some hfound
    cases unit with
    | millimeters | centimeters =>
      obtain rfl := List.mem_singleton.mp hspelling
      rfl
    | inches =>
      simp only [spellings, List.mem_cons, List.not_mem_nil, or_false] at hspelling
      rcases hspelling with rfl | rfl | rfl
      · rfl
      · rfl
      · rfl
  | none =>
    refine .inr ⟨List.lookup_eq_none_iff.mpr fun p hp => ?_, rfl⟩
    obtain ⟨unit, hunit, hspelling⟩ := spelled_factors p hp
    have hother := List.find?_eq_none.mp hfound unit hunit
    rw [bne_iff_ne]
    rintro rfl
    exact hother (List.contains_iff_mem.mpr hspelling)

end LengthUnit

namespace Prompt

open Grammar

variable {line : List Char} {m : Sentence} {d : Measurement} {ids : IdCounter} {unsupported : String → PromptError}

/-- What a measurement comes to, whose number, unit and value are looked at in this order. Without a unit it is in
millimetres, and an error has the value as it was written. -/
inductive Measurement.Yields (d : Measurement) : Except PromptError Float → Prop where
  | unread : read? d.number.toList = none → Yields d (.error (.invalidDimension notANumber))
  | unknownUnit {value : Float} : read? d.number.toList = some value →
      LengthUnit.factors.lookup (d.unit.getD "mm") = none → Yields d (.error (.unknownUnit (d.unit.getD "mm")))
  | badSize {value factor : Float} : read? d.number.toList = some value →
      LengthUnit.factors.lookup (d.unit.getD "mm") = some factor → ¬ IsSize value factor →
        Yields d (.error (.invalidDimension value))
  | size {value factor : Float} : read? d.number.toList = some value →
      LengthUnit.factors.lookup (d.unit.getD "mm") = some factor → IsSize value factor → Yields d (.ok (value * factor))

theorem mem_letters_of_mem_lines (h : line ∈ m.lines) (hd : d ∈ m.measurements) :
    (d.unit.getD "mm").toList ∈ letters := by
  obtain ⟨ps, cs, hfits, hsame⟩ := exists_measurements h
  rw [← hsame] at hd
  obtain ⟨-, u, hu, hunit⟩ := mem_measurementsAfter hd
  rw [hunit]
  cases u with
  | none => exact ⟨by decide, List.all_eq_true.mp (by decide)⟩
  | some u =>
    rw [Option.map_some, Option.getD_some, String.toList_ofList]
    exact hfits.spelled _ hu u rfl

namespace Measurement

theorem yields_resolve (h : (d.unit.getD "mm").toList ∈ letters) : d.Yields d.resolve := by
  unfold resolve
  cases hread : read? d.number.toList with
  | none => exact .unread hread
  | some value =>
    show d.Yields (LengthUnit.ofToken (d.unit.getD "mm") >>= fun unit => unit.toMillimeters value)
    rcases LengthUnit.ofToken_cases h with ⟨unit, hfactor, hunit⟩ | ⟨hfactor, hunit⟩
    · rw [hunit]
      show d.Yields (unit.toMillimeters value)
      by_cases hsize : IsSize value unit.factor
      · rw [LengthUnit.toMillimeters_of_isSize hsize]
        exact .size hread hfactor hsize
      · rw [LengthUnit.toMillimeters_of_not_isSize hsize]
        exact .badSize hread hfactor hsize
    · rw [hunit]
      exact .unknownUnit hread hfactor

theorem Yields.unique {r r' : Except PromptError Float} (h : d.Yields r) (h' : d.Yields r') : r = r' := by
  -- the value of the number, the factor of the unit and whether there is a size are the same in both
  cases h <;> cases h' <;> simp_all

end Measurement

theorem build_of_read {text : String} (h : Sentence.read text = .ok (some m)) :
    build text.toList unsupported ids = m.solid >>= ids.issue := by
  have hline : Sentence.ofLine (normalizeChars text.toList) = .ok (some m) := h
  rw [build, hline]
  rfl

/-- What a sentence builds. Each of its measurements yields a size or an error. The error of the first measurement at
fault is reported, whatever the later ones and the counter are. When all of them yield sizes, these are the measures of
the solid by its template, which needs no further check; it gets the next id at the origin unless the ids are spent.
The counter moves on by one with a primitive, and not at all with an error. -/
theorem build_measured (text : String) (m : Sentence) (h : Sentence.read text = .ok (some m))
    (unsupported : String → PromptError) (ids : IdCounter) :
    (∀ d ∈ m.measurements, ∃! r, d.Yields r) ∧
      (∀ before d after e, m.measurements = before ++ d :: after → (∀ b ∈ before, ∃ mm, b.Yields (.ok mm)) →
        d.Yields (.error e) → build text.toList unsupported ids = .error e) ∧
      (∀ sizes, List.Forall₂ (fun d mm => d.Yields (.ok mm)) m.measurements sizes →
        ∃ s, m.template.solid? sizes = some s ∧ s.check = .ok () ∧
          (IdCounter.last ≤ ids.next → build text.toList unsupported ids = .error .idsExhausted) ∧
          (ids.next < IdCounter.last → build text.toList unsupported ids =
            .ok (⟨IdCounter.idText s.kind ids.next, s, .origin⟩, ⟨ids.next + 1⟩))) ∧
      (InPlace.build text.toList unsupported).perform ids =
        InPlace.settled ids (build text.toList unsupported ids) := by
  have hlines : normalizeChars text.toList ∈ m.lines := Sentence.ofLine_eq_some.mp h
  have hyields : ∀ d ∈ m.measurements, d.Yields d.resolve := fun d hd =>
    Measurement.yields_resolve (mem_letters_of_mem_lines hlines hd)
  have hresolve : ∀ d ∈ m.measurements, ∀ r, d.Yields r → d.resolve = r := fun d hd r hr => (hyields d hd).unique hr
  refine ⟨fun d hd => ⟨d.resolve, hyields d hd, fun r hr => (hresolve d hd r hr).symm⟩, ?_, ?_,
    InPlace.perform_build text.toList unsupported ids⟩
  · intro before d after e hsplit hbefore hd
    have hmem : ∀ b ∈ before, b ∈ m.measurements := fun b hb => hsplit ▸ List.mem_append_left _ hb
    have herror : m.solid = .error e := by
      refine Sentence.solid_eq_error.mpr ⟨before, d, after, hsplit, fun b hb => ?_, ?_⟩
      · obtain ⟨mm, hmm⟩ := hbefore b hb
        exact ⟨mm, hresolve b (hmem b hb) _ hmm⟩
      · exact hresolve d (by simp [hsplit]) _ hd
    rw [build_of_read h, herror]
    rfl
  · intro sizes hsizes
    have hall : m.measurements.mapM Measurement.resolve = .ok sizes := by
      refine mapM_eq_ok.mpr ?_
      refine ((List.forall₂_and_left _ _).mpr ⟨hresolve, hsizes⟩).imp fun d mm hd => ?_
      exact hd.1 _ hd.2
    rcases m.solid_cases with ⟨e, herror, -⟩ | ⟨sizes', s, hsome, hs, hsolid⟩
    · cases hall.symm.trans herror
    · obtain rfl := Except.ok.inj (hall.symm.trans hsome)
      have hcheck := Sentence.check_of_solid hsolid
      rw [build_of_read h, hsolid]
      refine ⟨s, hs, hcheck, fun hids => ?_, fun hids => ?_⟩
      · exact IdCounter.issue_of_last_le hids
      · exact IdCounter.issue_eq_ok.mpr ⟨hids, hcheck, rfl, rfl⟩

/-- The unit comes before the size in the next slot and before the counter, which is at its last number. -/
theorem build_measured_furlongs :
    Sentence.read "box 1cm by 2furlongs by -3mm" =
        .ok (some (.boxBy ⟨"1", some "cm"⟩ ⟨"2", some "furlongs"⟩ ⟨"-3", some "mm"⟩)) ∧
      build "box 1cm by 2furlongs by -3mm".toList .unsupportedShape ⟨IdCounter.last⟩ =
        .error (.unknownUnit "furlongs") := by
  have hread : Sentence.read "box 1cm by 2furlongs by -3mm" =
      .ok (some (.boxBy ⟨"1", some "cm"⟩ ⟨"2", some "furlongs"⟩ ⟨"-3", some "mm"⟩)) := by decide +kernel
  have hone : read? "1".toList = some 1 := by decide
  have htwo : read? "2".toList = some 2 := by decide
  have hsize : IsSize 1 10 := ⟨by decide, by decide, by decide, by decide⟩
  have hwidth : Measurement.Yields ⟨"1", some "cm"⟩ (.ok (1 * 10)) := .size hone rfl hsize
  have hdepth : Measurement.Yields ⟨"2", some "furlongs"⟩ (.error (.unknownUnit "furlongs")) := .unknownUnit htwo rfl
  obtain ⟨-, hfirst, -⟩ := build_measured _ _ hread .unsupportedShape ⟨IdCounter.last⟩
  refine ⟨hread, hfirst [⟨"1", some "cm"⟩] _ [⟨"-3", some "mm"⟩] _ rfl (fun b hb => ?_) hdepth⟩
  rw [List.mem_singleton.mp hb]
  exact ⟨_, hwidth⟩

end Prompt

end PromptCad
