import PromptCad.Proofs.Prompt.Texts

/-! A line is read as a sentence just when it is one of the lines of the sentence. When it is none, its first word
decides whether it is refused. -/

namespace PromptCad.Prompt

open Grammar Unicode

variable {ps : List Piece} {cs : List Capture} {s : List Char}

def Capture.isUnit : Capture → Bool
  | .number _ => false
  | .unit _ => true

def Piece.slot? : Piece → Option Bool
  | number => some false
  | unit | unitIfAny => some true
  | word _ | blanks | gap => none

/-- All lines of a template keep numbers and units in the same order. -/
theorem Fits.slots (h : Fits ps s cs) : cs.map Capture.isUnit = ps.filterMap Piece.slot? := by
  induction h with
  | nil => rfl
  | @cons p ps a b ks cs ha _ ih =>
    rw [List.map_append, ih]
    cases ha <;> rfl

theorem exists_number {kinds : List Bool} (h : cs.map Capture.isUnit = false :: kinds) :
    ∃ n ls, cs = .number n :: ls ∧ ls.map Capture.isUnit = kinds := by
  obtain ⟨k, ls, rfl, hk, hls⟩ := List.map_eq_cons_iff.mp h
  cases k with
  | number n => exact ⟨n, ls, rfl, hls⟩
  | unit u => cases hk

theorem exists_unit {kinds : List Bool} (h : cs.map Capture.isUnit = true :: kinds) :
    ∃ u ls, cs = .unit u :: ls ∧ ls.map Capture.isUnit = kinds := by
  obtain ⟨k, ls, rfl, hk, hls⟩ := List.map_eq_cons_iff.mp h
  cases k with
  | number n => cases hk
  | unit u => exact ⟨u, ls, rfl, hls⟩

theorem exists_length {kinds : List Bool} (h : cs.map Capture.isUnit = false :: true :: kinds) :
    ∃ n u ls, cs = .number n :: .unit u :: ls ∧ ls.map Capture.isUnit = kinds := by
  obtain ⟨n, ls, rfl, hunit⟩ := exists_number h
  obtain ⟨u, ls, rfl, hrest⟩ := exists_unit hunit
  exact ⟨n, u, ls, rfl, hrest⟩

/-- The lines of a form are the lines of sentences of its template. -/
theorem mem_lines_of_fits {form : Template × List Piece} {m : Sentence} (hform : form ∈ Template.forms)
    (h : Fits form.2 s cs) (hm : Sentence.assemble? form.1 (measurements cs) = some m) : s ∈ m.lines := by
  have hslots := h.slots
  rw [forms_eq] at hform
  simp only [List.mem_cons, List.not_mem_nil, or_false] at hform
  obtain rfl | rfl | rfl | rfl | rfl | rfl := hform
  · obtain ⟨n, ls, rfl, hdepth⟩ := exists_number hslots
    obtain ⟨n', ls, rfl, hheight⟩ := exists_number hdepth
    obtain ⟨n'', u, ls, rfl, hrest⟩ := exists_length hheight
    obtain rfl := List.map_eq_nil_iff.mp hrest
    cases hm
    exact texts_sharedUnitBoxForm n n' n'' u ▸ h
  · obtain ⟨n, u, ls, rfl, hdepth⟩ := exists_length hslots
    obtain ⟨n', u', ls, rfl, hheight⟩ := exists_length hdepth
    obtain ⟨n'', u'', ls, rfl, hrest⟩ := exists_length hheight
    obtain rfl := List.map_eq_nil_iff.mp hrest
    cases hm
    exact texts_boxByForm n n' n'' u u' u'' ▸ h
  · obtain ⟨n, u, ls, rfl, hrest⟩ := exists_length hslots
    obtain rfl := List.map_eq_nil_iff.mp hrest
    cases hm
    exact texts_cubeForms n u ▸ Or.inl h
  · obtain ⟨n, u, ls, rfl, hrest⟩ := exists_length hslots
    obtain rfl := List.map_eq_nil_iff.mp hrest
    cases hm
    exact texts_cubeForms n u ▸ Or.inr h
  · obtain ⟨n, u, ls, rfl, hheight⟩ := exists_length hslots
    obtain ⟨n', u', ls, rfl, hrest⟩ := exists_length hheight
    obtain rfl := List.map_eq_nil_iff.mp hrest
    cases hm
    exact texts_cylinderForm n n' u u' ▸ h
  · obtain ⟨n, u, ls, rfl, hrest⟩ := exists_length hslots
    obtain rfl := List.map_eq_nil_iff.mp hrest
    cases hm
    exact texts_sphereForm n u ▸ h

theorem fits_of_mem_lines {m : Sentence} (h : s ∈ m.lines) :
    ∃ form ∈ Template.forms, ∃ cs, Fits form.2 s cs ∧ Sentence.assemble? form.1 (measurements cs) = some m := by
  cases m with
  | sharedUnitBox width depth height =>
    obtain ⟨n, u, rfl⟩ := exists_measured width
    obtain ⟨n', u', rfl⟩ := exists_measured depth
    obtain ⟨n'', u'', rfl⟩ := exists_measured height
    obtain rfl : u = u'' := unit_inj h.1
    obtain rfl : u' = u := unit_inj h.2.1
    exact ⟨(.sharedUnitBox, sharedUnitBoxForm), by simp [forms_eq], _, texts_sharedUnitBoxForm n n' n'' _ ▸ h, rfl⟩
  | boxBy width depth height =>
    obtain ⟨n, u, rfl⟩ := exists_measured width
    obtain ⟨n', u', rfl⟩ := exists_measured depth
    obtain ⟨n'', u'', rfl⟩ := exists_measured height
    exact ⟨(.boxBy, boxByForm), by simp [forms_eq], _, texts_boxByForm n n' n'' u u' u'' ▸ h, rfl⟩
  | cube side =>
    obtain ⟨n, u, rfl⟩ := exists_measured side
    rw [← texts_cubeForms] at h
    rcases h with h | h
    · exact ⟨(.cube, cubeForm), by simp [forms_eq], _, h, rfl⟩
    · exact ⟨(.cube, lengthCubeForm), by simp [forms_eq], _, h, rfl⟩
  | cylinder radius height =>
    obtain ⟨n, u, rfl⟩ := exists_measured radius
    obtain ⟨n', u', rfl⟩ := exists_measured height
    exact ⟨(.cylinder, cylinderForm), by simp [forms_eq], _, texts_cylinderForm n n' u u' ▸ h, rfl⟩
  | sphere radius =>
    obtain ⟨n, u, rfl⟩ := exists_measured radius
    exact ⟨(.sphere, sphereForm), by simp [forms_eq], _, texts_sphereForm n u ▸ h, rfl⟩

namespace Sentence

variable {m m' : Sentence}

/-- No line says two sentences. -/
theorem lines_unique (h : s ∈ m.lines) (h' : s ∈ m'.lines) : m = m' := by
  obtain ⟨f, hf, cs, hcs, hm⟩ := fits_of_mem_lines h
  obtain ⟨g, hg, cs', hcs', hm'⟩ := fits_of_mem_lines h'
  obtain ⟨rfl, rfl⟩ := forms_unique hf hg hcs hcs'
  exact Option.some.inj (hm.symm.trans hm')

theorem mem_ofForms : m ∈ ofForms Template.forms s ↔ s ∈ m.lines := by
  constructor
  · intro h
    obtain ⟨form, hform, h⟩ := List.mem_flatMap.mp h
    obtain ⟨cs, hcs, hm⟩ := List.mem_filterMap.mp h
    exact mem_lines_of_fits hform ((mem_readings_iff (separated_forms form hform)).mp hcs) hm
  · intro h
    obtain ⟨form, hform, cs, hcs, hm⟩ := fits_of_mem_lines h
    refine List.mem_flatMap.mpr ⟨form, hform, List.mem_filterMap.mpr ⟨cs, ?_, hm⟩⟩
    exact (mem_readings_iff (separated_forms form hform)).mpr hcs

theorem head?_ofForms : (ofForms Template.forms s).head? = some m ↔ s ∈ m.lines := by
  constructor
  · intro h
    exact mem_ofForms.mp (List.mem_of_head? h)
  · intro h
    cases hl : ofForms Template.forms s with
    | nil =>
      have hm := mem_ofForms.mpr h
      rw [hl] at hm
      cases hm
    | cons m' l =>
      have hm' : m' ∈ ofForms Template.forms s := hl ▸ List.mem_cons_self
      rw [List.head?_cons, lines_unique (mem_ofForms.mp hm') h]

theorem head?_ofForms_eq_none : (ofForms Template.forms s).head? = none ↔ ∀ m : Sentence, s ∉ m.lines := by
  rw [Option.eq_none_iff_forall_ne_some]
  exact forall_congr' fun m => not_congr head?_ofForms

theorem opens_iff {w : String} (hne : w.toList ≠ []) (hw : ∀ c ∈ w.toList, isWhiteSpace c = false) :
    Opens w s ↔ Text.firstWord s = w.toList := by
  constructor
  · rintro ⟨a, b, rfl, ha, -, hb⟩
    have htrim : Text.trimLeft (w.toList ++ b) = w.toList ++ b := by
      obtain ⟨c, t, hct⟩ := List.exists_cons_of_ne_nil hne
      have hc : isWhiteSpace c = false := hw c (hct ▸ List.mem_cons_self)
      rw [hct, List.cons_append, Text.trimLeft, List.dropWhile_cons, hc, if_neg Bool.false_ne_true]
    have hword : ∀ c ∈ w.toList, (!isWhiteSpace c) = true := fun c hc => by rw [hw c hc, Bool.not_false]
    rw [Text.firstWord, List.append_assoc, Text.trimLeft_append_of_all ha, htrim, List.takeWhile_append_of_pos hword]
    cases b with
    | nil => exact List.append_nil _
    | cons c b =>
      have hc : isWhiteSpace c = true := hb c rfl
      rw [List.takeWhile_cons, hc, Bool.not_true, if_neg Bool.false_ne_true, List.append_nil]
  · intro h
    have hline : s = s.takeWhile isWhiteSpace ++ w.toList ++ (Text.trimLeft s).dropWhile (!isWhiteSpace ·) := by
      rw [← h, Text.firstWord, List.append_assoc, List.takeWhile_append_dropWhile, Text.trimLeft,
        List.takeWhile_append_dropWhile]
    refine ⟨_, _, hline, List.all_eq_true.mp List.all_takeWhile, hw, fun c hc => ?_⟩
    have hstop := List.head?_dropWhile_not (!isWhiteSpace ·) (Text.trimLeft s)
    rw [Option.mem_def.mp hc] at hstop
    simpa using hstop

theorem ofWord?_eq_some {w : List Char} {k : Keyword} : Keyword.ofWord? w = some k ↔ w = k.word.toList := by
  constructor
  · intro h
    unfold Keyword.ofWord? at h
    split at h
    · next hw => cases h; exact hw
    split at h
    · next hw => cases h; exact hw
    split at h
    · next hw => cases h; exact hw
    split at h
    · next hw => cases h; exact hw
    · cases h
  · rintro rfl
    cases k <;> rfl

theorem commitment?_eq_some {k : Keyword} : commitment? s = some k ↔ Opens k.word s := by
  have hnonempty : k.word.toList ≠ [] := by cases k <;> decide
  have hnoblank : k.word.toList.all (!isWhiteSpace ·) = true := by cases k <;> decide
  simp only [List.all_eq_true, Bool.not_eq_true'] at hnoblank
  rw [opens_iff hnonempty hnoblank, commitment?, ofWord?_eq_some]

theorem commitment?_eq_none : commitment? s = none ↔ ∀ k : Keyword, ¬Opens k.word s := by
  rw [Option.eq_none_iff_forall_ne_some]
  exact forall_congr' fun k => not_congr commitment?_eq_some

theorem ofLine_eq_some : ofLine s = .ok (some m) ↔ s ∈ m.lines := by
  rw [← head?_ofForms, ofLine]
  cases hhead : (ofForms Template.forms s).head? with
  | some m' => simp
  | none => cases commitment? s <;> simp

theorem ofLine_eq_error {e : PromptError} : ofLine s = .error e ↔
    ∃ k : Keyword, e = .missingDimension k ∧ Opens k.word s ∧ ∀ m : Sentence, s ∉ m.lines := by
  rw [← head?_ofForms_eq_none, ofLine]
  simp only [← commitment?_eq_some]
  cases hhead : (ofForms Template.forms s).head? with
  | some m' => simp
  | none =>
    cases hcommit : commitment? s with
    | some k => simp [eq_comm]
    | none => simp

theorem ofLine_eq_none :
    ofLine s = .ok none ↔ (∀ k : Keyword, ¬Opens k.word s) ∧ ∀ m : Sentence, s ∉ m.lines := by
  rw [← head?_ofForms_eq_none, ← commitment?_eq_none, ofLine]
  cases hhead : (ofForms Template.forms s).head? with
  | some m' => simp
  | none => cases hcommit : commitment? s <;> simp

/-- A line is read as the sentence that it says. A line that says none is refused for the solid that it names first,
or else it is simply no sentence. -/
theorem read_grammar (line : String) :
    (∀ m, read line = .ok (some m) ↔ normalizeChars line.toList ∈ m.lines) ∧
      (∀ e, read line = .error e ↔ ∃ k : Keyword, e = .missingDimension k ∧
        Opens k.word (normalizeChars line.toList) ∧ ∀ m : Sentence, normalizeChars line.toList ∉ m.lines) ∧
      (read line = .ok none ↔ (∀ k : Keyword, ¬Opens k.word (normalizeChars line.toList)) ∧
        ∀ m : Sentence, normalizeChars line.toList ∉ m.lines) :=
  ⟨fun _ => ofLine_eq_some, fun _ => ofLine_eq_error, ofLine_eq_none⟩

/-- The first of two such words is a unit. -/
example : read "Cylinder radius 5 height height .5" =
    .ok (some (.cylinder ⟨"5", some "height"⟩ ⟨".5", none⟩)) := by rfl

end Sentence

end PromptCad.Prompt
