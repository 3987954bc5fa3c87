import PromptCad.Proofs.Except
import PromptCad.Proofs.Prompt.Sentence
import PromptCad.Prompt.Action

/-! The slots of the templates. A line that fits a template leaves a list of measurements, and a solid is made of a list
of sizes; nothing but the tables of forms and of solids sees to it that the numbers agree. They do, so a program that
looks at the number before it makes the solid finds it right. -/

namespace PromptCad.Prompt

def Template.slots : Template → Nat
  | sharedUnitBox | boxBy => 3
  | cube => 1
  | cylinder => 2
  | sphere => 1

/-- How many measurements come of what is kept, when some numbers wait for their unit. -/
def countMeasured (waiting : Nat) : List Bool → Nat
  | [] => 0
  | false :: kinds => countMeasured (waiting + 1) kinds
  | true :: kinds => waiting + countMeasured 0 kinds

variable {cs : List Capture} {line : List Char} {t : Template} {ms : List Measurement}

theorem length_measurementsAfter (waiting : List (List Char)) (cs : List Capture) :
    (measurementsAfter waiting cs).length = countMeasured waiting.length (cs.map Capture.isUnit) := by
  induction cs generalizing waiting with
  | nil => rfl
  | cons k cs ih =>
    cases k with
    | number n =>
      rw [measurementsAfter, ih, List.length_append]
      rfl
    | unit u =>
      rw [measurementsAfter, List.length_append, List.length_map, ih]
      rfl

theorem countMeasured_forms : ∀ form ∈ Template.forms,
    countMeasured 0 (form.2.filterMap Piece.slot?) = form.1.slots := by decide

theorem length_measurements {form : Template × List Piece} (hform : form ∈ Template.forms)
    (h : cs ∈ readings form.2 line) : (measurements cs).length = form.1.slots := by
  have hfits : Fits form.2 line cs := (mem_readings_iff (separated_forms form hform)).mp h
  rw [measurements, length_measurementsAfter, hfits.slots]
  exact countMeasured_forms form hform

theorem exists_assemble? (h : ms.length = t.slots) : ∃ m, Sentence.assemble? t ms = some m := by
  cases t with
  | sharedUnitBox =>
    obtain ⟨width, depth, height, rfl⟩ := List.length_eq_three.mp h
    exact ⟨_, rfl⟩
  | boxBy =>
    obtain ⟨width, depth, height, rfl⟩ := List.length_eq_three.mp h
    exact ⟨_, rfl⟩
  | cube =>
    obtain ⟨side, rfl⟩ := List.length_eq_one_iff.mp h
    exact ⟨_, rfl⟩
  | cylinder =>
    obtain ⟨radius, height, rfl⟩ := List.length_eq_two.mp h
    exact ⟨_, rfl⟩
  | sphere =>
    obtain ⟨radius, rfl⟩ := List.length_eq_one_iff.mp h
    exact ⟨_, rfl⟩

/-- The solid of a template with these sizes in its slots, if it has as many slots. -/
def Template.solid? : Template → List Float → Option Solid
  | sharedUnitBox, [width, depth, height] | boxBy, [width, depth, height] => some (.box width depth height)
  | cube, [side] => some (.cube side)
  | cylinder, [radius, height] => some (.cylinder radius height)
  | sphere, [radius] => some (.sphere radius)
  | _, _ => none

theorem Template.isSome_solid? {sizes : List Float} (h : sizes.length = t.slots) : (t.solid? sizes).isSome = true := by
  cases t with
  | sharedUnitBox | boxBy =>
    obtain ⟨width, depth, height, rfl⟩ := List.length_eq_three.mp h
    rfl
  | cube | sphere =>
    obtain ⟨size, rfl⟩ := List.length_eq_one_iff.mp h
    rfl
  | cylinder =>
    obtain ⟨radius, height, rfl⟩ := List.length_eq_two.mp h
    rfl

/-- A template that a line fits, and the measurements in its slots, however many they are. -/
structure Match where
  template : Template
  measurements : List Measurement

namespace Match

def sentence? (found : Match) : Option Sentence := Sentence.assemble? found.template found.measurements

def ofForms (forms : List (Template × List Piece)) (line : List Char) : List Match :=
  forms.flatMap fun form => (readings form.2 line).map fun cs => ⟨form.1, Prompt.measurements cs⟩

def ofLine (line : List Char) : Except PromptError (Option Match) :=
  match (ofForms Template.forms line).head? with
  | some found => .ok (some found)
  | none => match Sentence.commitment? line with
    | some keyword => .error (.missingDimension keyword)
    | none => .ok none

/-- The solid of a match. `incomplete` tells of a template with another number of sizes than it has slots. -/
def solid (found : Match) (incomplete : Template → PromptError) : Except PromptError Solid := do
  let sizes ← found.measurements.mapM Measurement.resolve
  match found.template.solid? sizes with
  | some solid => return solid
  | none => throw (incomplete found.template)

def build (incomplete : Template → PromptError) (text : List Char) (unsupported : String → PromptError)
    (ids : IdCounter) : Except PromptError (Primitive × IdCounter) := do
  match ← ofLine (normalizeChars text) with
  | none => throw (unsupported (String.ofList text))
  | some found => ids.issue (← found.solid incomplete)

variable {found : Match} {m : Sentence}

theorem length_of_mem_ofForms (h : found ∈ ofForms Template.forms line) :
    found.measurements.length = found.template.slots := by
  obtain ⟨form, hform, h⟩ := List.mem_flatMap.mp h
  obtain ⟨cs, hcs, rfl⟩ := List.mem_map.mp h
  exact length_measurements hform hcs

theorem eq_of_sentence? (h : found.sentence? = some m) : found = ⟨m.template, m.measurements⟩ := by
  obtain ⟨t, ms⟩ := found
  simp only [sentence?] at h
  unfold Sentence.assemble? at h
  split at h
  all_goals cases h
  all_goals rfl

theorem ofForms_eq_filterMap (forms : List (Template × List Piece)) (line : List Char) :
    Sentence.ofForms forms line = (ofForms forms line).filterMap sentence? := by
  rw [ofForms, List.filterMap_flatMap, Sentence.ofForms]
  simp only [List.filterMap_map]
  rfl

/-- A line has a sentence just when it has a match. -/
theorem ofLine_eq (line : List Char) :
    Sentence.ofLine line = (ofLine line).map (·.bind sentence?) := by
  rw [Sentence.ofLine, ofLine, ofForms_eq_filterMap]
  cases hforms : ofForms Template.forms line with
  | nil => cases Sentence.commitment? line with
    | some keyword => rfl
    | none => rfl
  | cons found rest =>
    have hmem : found ∈ ofForms Template.forms line := hforms ▸ List.mem_cons_self
    obtain ⟨m, hm⟩ := exists_assemble? (length_of_mem_ofForms hmem)
    have hsentence : found.sentence? = some m := hm
    rw [List.filterMap_cons_some hsentence]
    exact congrArg Except.ok hsentence.symm

theorem length_of_ofLine (h : ofLine line = .ok (some found)) : found.measurements.length = found.template.slots := by
  rw [ofLine] at h
  cases hforms : (ofForms Template.forms line).head? with
  | some first =>
    rw [hforms] at h
    cases h
    exact length_of_mem_ofForms (List.mem_of_head? hforms)
  | none =>
    rw [hforms] at h
    cases hcommit : Sentence.commitment? line with
    | some keyword => simp [hcommit] at h
    | none => simp [hcommit] at h

theorem isSome_solid?_of_ofLine (h : ofLine line = .ok (some found)) {sizes : List Float}
    (hsizes : found.measurements.mapM Measurement.resolve = .ok sizes) :
    (found.template.solid? sizes).isSome = true :=
  Template.isSome_solid? ((length_of_mapM hsizes).trans (length_of_ofLine h))

/-- Sizes are told apart after all of them are known, and measurements before any is; the solid is the same. -/
theorem solid_eq (h : found.sentence? = some m) (incomplete : Template → PromptError) :
    found.solid incomplete = m.solid := by
  obtain rfl : found = ⟨m.template, m.measurements⟩ := eq_of_sentence? h
  cases m with
  | sharedUnitBox | boxBy | cube | cylinder | sphere =>
    simp only [solid, Sentence.solid, Sentence.template, Sentence.measurements, List.mapM_cons, List.mapM_nil,
      bind_assoc, pure_bind, Template.solid?]

/-- Looking at the number of sizes changes nothing, whatever would be said of a wrong one. -/
theorem build_eq (incomplete : Template → PromptError) (text : List Char) (unsupported : String → PromptError)
    (ids : IdCounter) : build incomplete text unsupported ids = Prompt.build text unsupported ids := by
  rw [build, Prompt.build, ofLine_eq]
  cases hline : ofLine (normalizeChars text) with
  | error e => rfl
  | ok found? => cases found? with
    | none => rfl
    | some found =>
      obtain ⟨m, hm⟩ := exists_assemble? (length_of_ofLine hline)
      have hsentence : found.sentence? = some m := hm
      show (do ids.issue (← found.solid incomplete)) = _
      rw [solid_eq hsentence]
      simp [Except.map, hsentence]
      rfl

end Match

end PromptCad.Prompt
