import PromptCad.Proofs.Float.Comparison
import PromptCad.Proofs.Prompt.Outcome

/-! The numerals of a sentence and the floats that they are read as. A sentence takes the decimal digits of every
script, and a float is read in the digits from 0 to 9 alone. A numeral in these has a value, which is the size that is
reported if it is refused; for any other numeral the size reported is none that anybody wrote. -/

namespace PromptCad

namespace Decimal

theorem isNaN_ofMagnitude (negative : Bool) {n : ℕ} (h : n ≤ binary64.infinity) :
    (ofMagnitude negative n).isNaN = false := by
  rcases Nat.lt_or_eq_of_le h with hlt | rfl
  · refine isNaN_eq_false ?_
    rw [magnitude_ofMagnitude negative hlt]
    exact h
  · exact isNaN_infinity negative

/-- What is read is a number, if it is too great not a finite one. -/
theorem isNaN_of_read? {s : List Char} {v : Float} (h : read? s = some v) : v.isNaN = false := by
  obtain ⟨l, -, rfl⟩ := Option.map_eq_some_iff.mp h
  unfold Literal.toFloat
  dsimp only
  split
  · exact isNaN_ofMagnitude _ (Nat.zero_le _)
  · split
    · exact isNaN_ofMagnitude _ le_rfl
    · have hden : 0 < 10 ^ (-l.exponent).toNat := Nat.pow_pos (by decide)
      exact isNaN_ofMagnitude _ (binary64.nearest_rounds (by decide) (by decide) _ hden).le

end Decimal

namespace Prompt

open Decimal (isDigit read? splitSign Literal readExponent?)
open Grammar Unicode

/-- Digits from 0 to 9 are the only decimal digits of the text. -/
def PlainDigits (s : List Char) : Prop := ∀ c ∈ s, isDecimalDigit c = true → isDigit c = true

section Numeral

variable {s u : List Char} {c : Char}

theorem numberRanges_of_mem_unsigned (h : u ∈ unsigned) : ∀ c ∈ u, numberRanges.contains c = true := by
  have hdigits : ∀ ds ∈ digits, ∀ c ∈ ds, numberRanges.contains c = true := fun ds hds c hc => by
    rw [contains_numberRanges, hds.2 c hc, Bool.or_true]
  have hpoint : ∀ ds ∈ digits, ∀ c ∈ '.' :: ds, numberRanges.contains c = true := fun ds hds =>
    List.forall_mem_cons.mpr ⟨by decide, hdigits ds hds⟩
  rcases mem_unsigned.mp h with h | ⟨whole, hwhole, places, hplaces, rfl⟩ | ⟨places, hplaces, rfl⟩
  · exact hdigits u h
  · exact List.forall_mem_append.mpr ⟨hdigits whole hwhole, hpoint places hplaces⟩
  · exact hpoint places hplaces

theorem exists_splitSign (h : s ∈ numeral) :
    ∃ negative, ∃ u ∈ unsigned, splitSign s = (negative, u) ∧ (PlainDigits s ↔ PlainDigits u) := by
  obtain ⟨t, ht, u, hu, rfl⟩ := Language.mem_mul.mp h
  rcases mem_sign.mp ht with rfl | ⟨c, hc, rfl⟩
  · obtain ⟨c, v, rfl, hc⟩ := exists_cons_of_mem_unsigned hu
    have hsign := isSign_eq_false hc
    simp only [isSign, Bool.or_eq_false_iff, decide_eq_false_iff_not] at hsign
    refine ⟨false, c :: v, hu, ?_, Iff.rfl⟩
    unfold splitSign
    split
    · next heq => exact absurd (List.cons.inj heq).1 hsign.1
    · next heq => exact absurd (List.cons.inj heq).1 hsign.2
    · rfl
  · simp only [isSign, Bool.or_eq_true, decide_eq_true_eq] at hc
    rcases hc with rfl | rfl
    · refine ⟨true, u, hu, rfl, ?_⟩
      have hnone : isDecimalDigit '-' = false := by decide
      simp [PlainDigits, hnone]
    · refine ⟨false, u, hu, rfl, ?_⟩
      have hnone : isDecimalDigit '+' = false := by decide
      simp [PlainDigits, hnone]

theorem isSome_ofChars?_of_plain {negative : Bool} (hsplit : splitSign s = (negative, u)) (h : u ∈ unsigned)
    (hplain : PlainDigits u) : (Literal.ofChars? s).isSome = true := by
  have hall : ∀ ds ∈ digits, (∀ c ∈ ds, c ∈ u) → ∀ c ∈ ds, isDigit c = true :=
    fun ds hds hmem c hc => hplain c (hmem c hc) (hds.2 c hc)
  rcases mem_unsigned.mp h with h | ⟨whole, hwhole, places, hplaces, rfl⟩ | ⟨places, hplaces, rfl⟩
  · have hdigits := hall u h fun c hc => hc
    have htake : u.takeWhile isDigit = u := List.takeWhile_eq_self_iff.mpr hdigits
    have hdrop : u.dropWhile isDigit = [] := List.dropWhile_eq_nil_iff.mpr hdigits
    simp [Literal.ofChars?, hsplit, htake, hdrop, h.1, readExponent?]
  · have hw := hall whole hwhole fun c hc => List.mem_append_left _ hc
    have hp := hall places hplaces fun c hc => List.mem_append_right _ (List.mem_cons_of_mem _ hc)
    rw [Literal.ofChars?_point hsplit (List.append_ne_nil_of_left_ne_nil hwhole.1 places)
      (List.forall_mem_append.mpr ⟨hw, hp⟩)]
    rfl
  · have hp := hall places hplaces fun c hc => List.mem_cons_of_mem _ hc
    have hbare : splitSign s = (negative, [] ++ '.' :: places) := hsplit
    rw [Literal.ofChars?_point hbare hplaces.1 hp]
    rfl

theorem mem_dropWhile_of_neg {p : Char → Bool} (hc : c ∈ s) (hp : p c = false) : c ∈ s.dropWhile p := by
  rw [← List.takeWhile_append_dropWhile (p := p) (l := s)] at hc
  refine (List.mem_append.mp hc).resolve_left fun htaken => ?_
  rw [List.mem_takeWhile_imp htaken] at hp
  cases hp

/-- No part of a numeral begins like an exponent. -/
theorem readExponent?_eq_none {t : List Char} (h : u ∈ unsigned) (hne : t ≠ []) (ht : ∀ a ∈ t, a ∈ u) :
    readExponent? t = none := by
  obtain ⟨a, r, rfl⟩ := List.exists_cons_of_ne_nil hne
  have ha := numberRanges_of_mem_unsigned h a (ht a List.mem_cons_self)
  have hmark : ¬ (a = 'e' ∨ a = 'E') := by
    rintro (rfl | rfl)
    · exact absurd ha (by decide)
    · exact absurd ha (by decide)
  rw [readExponent?, if_neg hmark]

/-- Reading stops before any other digit, which is not how an exponent begins. -/
theorem ofChars?_eq_none {negative : Bool} (hsplit : splitSign s = (negative, u)) (h : u ∈ unsigned)
    (hc : c ∈ u) (hdigit : isDecimalDigit c = true) (hother : isDigit c = false) : Literal.ofChars? s = none := by
  have hrest := mem_dropWhile_of_neg hc hother
  have hsub : ∀ a ∈ u.dropWhile isDigit, a ∈ u := fun a ha => List.dropWhile_subset _ ha
  rw [Literal.ofChars?, hsplit]
  dsimp only
  by_cases hpoint : (u.dropWhile isDigit).head? = some '.'
  · have hplaces : c ∈ (u.dropWhile isDigit).drop 1 := by
      obtain ⟨t, ht⟩ := List.head?_eq_some_iff.mp hpoint
      rw [ht] at hrest ⊢
      refine (List.mem_cons.mp hrest).resolve_left ?_
      rintro rfl
      exact absurd hdigit (by decide)
    have hsub' : ∀ a ∈ ((u.dropWhile isDigit).drop 1).dropWhile isDigit, a ∈ u :=
      fun a ha => hsub a (List.drop_subset _ _ (List.dropWhile_subset _ ha))
    have hnone := readExponent?_eq_none h (List.ne_nil_of_mem (mem_dropWhile_of_neg hplaces hother)) hsub'
    rw [if_pos hpoint]
    dsimp only
    rw [hnone, Option.map_none, ite_self]
  · rw [if_neg hpoint]
    dsimp only
    rw [readExponent?_eq_none h (List.ne_nil_of_mem hrest) hsub, Option.map_none, ite_self]

/-- A numeral has a value just when its digits are those from 0 to 9. -/
theorem isSome_read?_iff (h : s ∈ numeral) : (read? s).isSome = true ↔ PlainDigits s := by
  obtain ⟨negative, u, hu, hsplit, hplain⟩ := exists_splitSign h
  rw [read?, Option.isSome_map, hplain]
  constructor
  · intro hsome c hc hdigit
    by_contra hother
    rw [ofChars?_eq_none hsplit hu hc hdigit (Bool.eq_false_iff.mpr hother)] at hsome
    cases hsome
  · exact isSome_ofChars?_of_plain hsplit hu

end Numeral

section Sentences

variable {ps : List Piece} {cs : List Capture} {line : List Char} {m : Sentence} {d : Measurement} {v : Float}

/-- What is kept of a number is a numeral, and of a unit, unless it is left out, a run of letters. -/
def Capture.Spelled : Capture → Prop
  | .number n => n ∈ numeral
  | .unit u => ∀ w ∈ u, w ∈ letters

theorem Fits.spelled {s : List Char} (h : Fits ps s cs) : ∀ k ∈ cs, k.Spelled := by
  induction h with
  | nil => exact fun _ hk => absurd hk List.not_mem_nil
  | cons ha hb ih =>
    refine List.forall_mem_append.mpr ⟨fun k hk => ?_, ih⟩
    cases ha with
    | number hs =>
      obtain rfl := List.mem_singleton.mp hk
      exact hs
    | unit hs | someUnit hs =>
      obtain rfl := List.mem_singleton.mp hk
      rintro w ⟨⟩
      exact hs
    | noUnit =>
      obtain rfl := List.mem_singleton.mp hk
      exact fun w hw => absurd hw (Option.not_mem_none w)
    | word | blanks | gap => cases hk

theorem mem_measurementsAfter {waiting : List (List Char)} (h : d ∈ measurementsAfter waiting cs) :
    (d.number.toList ∈ waiting ∨ .number d.number.toList ∈ cs) ∧
      ∃ u, .unit u ∈ cs ∧ d.unit = u.map String.ofList := by
  induction cs generalizing waiting with
  | nil => cases h
  | cons k cs ih =>
    cases k with
    | number n =>
      obtain ⟨hnumber, u, hu, hunit⟩ := ih h
      refine ⟨?_, u, List.mem_cons_of_mem _ hu, hunit⟩
      rcases hnumber with hwaiting | hcs
      · rcases List.mem_append.mp hwaiting with hwaiting | hn
        · exact .inl hwaiting
        · rw [List.mem_singleton.mp hn]
          exact .inr List.mem_cons_self
      · exact .inr (List.mem_cons_of_mem _ hcs)
    | unit u =>
      rcases List.mem_append.mp h with h | h
      · obtain ⟨n, hn, rfl⟩ := List.mem_map.mp h
        rw [String.toList_ofList]
        exact ⟨.inl hn, u, List.mem_cons_self, rfl⟩
      · obtain ⟨hnumber, u', hu, hunit⟩ := ih h
        refine ⟨.inr ?_, u', List.mem_cons_of_mem _ hu, hunit⟩
        exact List.mem_cons_of_mem _ (hnumber.resolve_left List.not_mem_nil)

theorem exists_measurements (h : line ∈ m.lines) : ∃ ps cs, Fits ps line cs ∧ measurements cs = m.measurements := by
  obtain ⟨form, -, cs, hfits, hm⟩ := fits_of_mem_lines h
  have hmatch : (⟨form.1, measurements cs⟩ : Match).sentence? = some m := hm
  exact ⟨form.2, cs, hfits, congrArg Match.measurements (Match.eq_of_sentence? hmatch)⟩

theorem mem_numeral_of_mem_lines (h : line ∈ m.lines) (hd : d ∈ m.measurements) : d.number.toList ∈ numeral := by
  obtain ⟨ps, cs, hfits, hsame⟩ := exists_measurements h
  rw [← hsame] at hd
  exact hfits.spelled _ ((mem_measurementsAfter hd).1.resolve_left List.not_mem_nil)

theorem Sentence.length_measurements (m : Sentence) : m.measurements.length = m.template.slots := by
  cases m <;> rfl

theorem Template.subset_of_solid? {t : Template} {sizes : List Float} {s : Solid} (h : t.solid? sizes = some s) :
    s.measures ⊆ sizes := by
  unfold solid? at h
  split at h
  all_goals cases h
  all_goals simp [Solid.measures, Solid.cube]

theorem Sentence.solid_cases (m : Sentence) :
    (∃ e, m.measurements.mapM Measurement.resolve = .error e ∧ m.solid = .error e) ∨
      ∃ sizes s, m.measurements.mapM Measurement.resolve = .ok sizes ∧ m.template.solid? sizes = some s ∧
        m.solid = .ok s := by
  have hsolid : ∀ incomplete, (⟨m.template, m.measurements⟩ : Match).solid incomplete = m.solid :=
    Match.solid_eq (assemble?_measurements m)
  rw [← hsolid fun _ => .emptyPrompt, Match.solid]
  dsimp only
  cases hsizes : m.measurements.mapM Measurement.resolve with
  | error e => exact .inl ⟨e, rfl, rfl⟩
  | ok sizes =>
    obtain ⟨s, hs⟩ := Option.isSome_iff_exists.mp
      (Template.isSome_solid? ((length_of_mapM hsizes).trans m.length_measurements))
    refine .inr ⟨sizes, s, rfl, hs, ?_⟩
    simp only [bind, Except.bind, hs]
    rfl

theorem Sentence.solid_eq_error {e : PromptError} :
    m.solid = .error e ↔ ∃ before d after, m.measurements = before ++ d :: after ∧
      (∀ b ∈ before, ∃ mm, b.resolve = .ok mm) ∧ d.resolve = .error e := by
  rw [← mapM_eq_error]
  rcases m.solid_cases with ⟨e', hsizes, hsolid⟩ | ⟨sizes, s, hsizes, -, hsolid⟩
  · rw [hsizes, hsolid]
    simp
  · rw [hsizes, hsolid]
    simp

theorem Measurement.admits_of_resolve {mm : Float} (h : d.resolve = .ok mm) : Size.admits mm = true := by
  unfold resolve at h
  split at h
  · cases h
  · obtain ⟨unit, -, h⟩ := bind_eq_ok.mp h
    rcases unit.toMillimeters_cases _ with ⟨mm', hmm, hadmits⟩ | hrefused
    · obtain rfl := Except.ok.inj (h.symm.trans hmm)
      exact hadmits
    · cases h.symm.trans hrefused

/-- The measures of a solid that is made of a sentence need no second look. -/
theorem Sentence.check_of_solid {s : Solid} (h : m.solid = .ok s) : s.check = .ok () := by
  rcases m.solid_cases with ⟨e, -, hsolid⟩ | ⟨sizes, s', hsizes, hs, hsolid⟩
  · rw [h] at hsolid
    cases hsolid
  · obtain rfl := Except.ok.inj (h.symm.trans hsolid)
    refine Solid.check_eq_ok.mpr fun mm hmm => ?_
    obtain ⟨d, -, hd⟩ := mem_of_mapM hsizes mm (Template.subset_of_solid? hs hmm)
    exact Measurement.admits_of_resolve hd

/-- What is reported of a length that has a value is the value, before it is converted. -/
theorem eq_of_millimeters {value : Float} {token : String}
    (h : millimeters value token = .error (.invalidDimension v)) : value = v := by
  rcases bind_eq_error.mp h with h | ⟨unit, -, h⟩
  · obtain ⟨t, ht⟩ := LengthUnit.eq_of_ofToken h
    cases ht
  · rcases unit.toMillimeters_cases value with ⟨mm, hmm, -⟩ | hrefused
    · cases h.symm.trans hmm
    · cases h.symm.trans hrefused
      rfl

theorem Measurement.resolve_eq_invalidDimension (h : d.number.toList ∈ numeral) :
    d.resolve = .error (.invalidDimension v) ↔
      (PlainDigits d.number.toList ∧ read? d.number.toList = some v ∧ v.isNaN = false ∧
        millimeters v (d.unit.getD LengthUnit.standard.symbol) = .error (.invalidDimension v)) ∨
      (¬ PlainDigits d.number.toList ∧ v = Decimal.notANumber) := by
  rw [← isSome_read?_iff h, resolve]
  cases hread : read? d.number.toList with
  | none =>
    constructor
    · intro h
      cases h
      exact .inr ⟨Bool.false_ne_true, rfl⟩
    · rintro (⟨h, -⟩ | ⟨-, rfl⟩)
      · cases h
      · rfl
  | some value =>
    have hnumber := Decimal.isNaN_of_read? hread
    simp only [Option.isSome_some, true_and, not_true_eq_false, false_and, or_false, Option.some_inj]
    constructor
    · intro hrefused
      obtain rfl := eq_of_millimeters hrefused
      exact ⟨rfl, hnumber, hrefused⟩
    · rintro ⟨rfl, -, hrefused⟩
      exact hrefused

end Sentences

theorem parse_eq_invalidDimension {text : String} {ids : IdCounter} {v : Float} :
    parse text ids = .error (.invalidDimension v) ↔
      ∃ m : Sentence, body (normalizeChars text.toList) ∈ m.lines ∧ m.solid = .error (.invalidDimension v) := by
  have hmap : ∀ {m : Sentence}, body (normalizeChars text.toList) ∈ m.lines →
      (parse text ids = .error (.invalidDimension v) ↔ m.solid >>= ids.issue = .error (.invalidDimension v)) := by
    intro m hm
    rw [parse_of_mem_lines rfl hm]
    cases m.solid >>= ids.issue with
    | error e => simp [Except.map]
    | ok built => simp [Except.map]
  constructor
  · intro h
    have hbuilt : Built (verb? (normalizeChars text.toList)) (parse text ids) := by
      rw [h]
      exact .fault (.invalidDimension v)
    obtain ⟨m, hm⟩ := (built_parse rfl).mp hbuilt
    refine ⟨m, hm, ?_⟩
    rcases bind_eq_error.mp ((hmap hm).mp h) with hsolid | ⟨s, hs, hissue⟩
    · exact hsolid
    · cases IdCounter.eq_of_issue_eq_error (Sentence.check_of_solid hs) hissue
  · rintro ⟨m, hm, hsolid⟩
    exact (hmap hm).mpr (bind_eq_error.mpr (.inl hsolid))

/-- The numbers of a sentence that have a value are those in the digits from 0 to 9. A prompt that is refused for a
size reports its first measurement at fault: the value that was written, which is a number, or no number at all if it
was written in other digits. -/
theorem reported_size_iff (text : String) :
    (∀ m, Sentence.read text = .ok (some m) → ∀ d ∈ m.measurements,
      ((read? d.number.toList).isSome = true ↔ PlainDigits d.number.toList)) ∧
    ∀ ids v, parse text ids = .error (.invalidDimension v) ↔
      ∃ m : Sentence, body (normalizeChars text.toList) ∈ m.lines ∧
        ∃ before d after, m.measurements = before ++ d :: after ∧ (∀ b ∈ before, ∃ mm, b.resolve = .ok mm) ∧
          ((PlainDigits d.number.toList ∧ read? d.number.toList = some v ∧ v.isNaN = false ∧
              millimeters v (d.unit.getD LengthUnit.standard.symbol) = .error (.invalidDimension v)) ∨
            (¬ PlainDigits d.number.toList ∧ v = Decimal.notANumber)) := by
  constructor
  · intro m h d hd
    exact isSome_read?_iff (mem_numeral_of_mem_lines (Sentence.ofLine_eq_some.mp h) hd)
  · intro ids v
    rw [parse_eq_invalidDimension]
    refine exists_congr fun m => and_congr_right fun hm => ?_
    rw [Sentence.solid_eq_error]
    refine exists_congr fun before => exists_congr fun d => exists_congr fun after => and_congr_right fun hsplit => ?_
    have hd : d ∈ m.measurements := by simp [hsplit]
    rw [Measurement.resolve_eq_invalidDimension (mem_numeral_of_mem_lines hm hd)]

/-- A sign is read along with the digits, so that the size which is reported is the negative one. -/
theorem reported_size_iff_negative :
    (∃ m, Sentence.read "sphere radius -5mm" = .ok (some m) ∧
      ∀ d ∈ m.measurements, (read? d.number.toList).isSome = true) ∧
    parse "sphere radius -5mm" ⟨1⟩ = .error (.invalidDimension (-5)) := by
  have hread : Sentence.read "sphere radius -5mm" = .ok (some (.sphere ⟨"-5", some "mm"⟩)) := by decide
  have hline : Sentence.ofLine (body (normalizeChars "sphere radius -5mm".toList)) =
      .ok (some (.sphere ⟨"-5", some "mm"⟩)) := by decide
  have hall : "-5".toList.all (fun c => !isDecimalDigit c || isDigit c) = true := by decide
  have hplain : PlainDigits "-5".toList := fun c hc hdigit => by simpa [hdigit] using List.all_eq_true.mp hall c hc
  obtain ⟨hvalues, hreported⟩ := reported_size_iff "sphere radius -5mm"
  refine ⟨⟨_, hread, fun d hd => ?_⟩, ?_⟩
  · refine (hvalues _ hread d hd).mpr ?_
    rw [List.mem_singleton.mp hd]
    exact hplain
  · refine (hreported _ _).mpr ⟨_, Sentence.ofLine_eq_some.mp hline, [], _, [], rfl, by simp, .inl ?_⟩
    exact ⟨hplain, by decide, by decide, by decide⟩

/-- A wide five is a digit of a sentence, and none of a float. -/
theorem wide_five_not_read :
    (¬ ∀ line m, Sentence.read line = .ok (some m) → ∀ d ∈ m.measurements, (read? d.number.toList).isSome = true) ∧
    ¬ ∀ text ids v, parse text ids = .error (.invalidDimension v) → v.isNaN = false := by
  have hread : Sentence.read "sphere radius -５mm" = .ok (some (.sphere ⟨"-５", some "mm"⟩)) := by decide
  have hline : Sentence.ofLine (body (normalizeChars "sphere radius -５mm".toList)) =
      .ok (some (.sphere ⟨"-５", some "mm"⟩)) := by decide +kernel
  constructor
  · intro hclaim
    have hsome := hclaim _ _ hread ⟨"-５", some "mm"⟩ List.mem_cons_self
    exact absurd hsome (by decide)
  · intro hclaim
    have hparse : parse "sphere radius -５mm" ⟨1⟩ = .error (.invalidDimension Decimal.notANumber) :=
      parse_eq_invalidDimension.mpr ⟨_, Sentence.ofLine_eq_some.mp hline, by decide⟩
    exact absurd (hclaim _ _ _ hparse) (by decide)

end Prompt

end PromptCad
