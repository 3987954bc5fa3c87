import PromptCad.Proofs.Except
import PromptCad.Proofs.Prompt.Line
import PromptCad.Proofs.Prompt.Parse
import PromptCad.Proofs.Prompt.Slots

/-! What becomes of a prompt. The normalized line and the description within it settle whether the prompt clears, builds
a solid or is refused, and for which reason; every prompt falls under one of these cases and under no other. -/

namespace PromptCad

/-- The faults of a measurement: its unit, or its size. -/
inductive PromptError.OfLength : PromptError → Prop where
  | unknownUnit (token : String) : OfLength (.unknownUnit token)
  | invalidDimension (value : Float) : OfLength (.invalidDimension value)

open PromptError (OfLength)

variable {e : PromptError}

theorem LengthUnit.toMillimeters_cases (unit : LengthUnit) (value : Float) :
    (∃ mm, unit.toMillimeters value = .ok mm ∧ Size.admits mm = true) ∨
      unit.toMillimeters value = .error (.invalidDimension value) := by
  unfold toMillimeters
  split
  · exact .inr rfl
  · dsimp only
    split
    · next hadmits => exact .inl ⟨_, rfl, hadmits⟩
    · exact .inr rfl

theorem LengthUnit.ofLength_of_toMillimeters {unit : LengthUnit} {value : Float}
    (h : unit.toMillimeters value = .error e) : OfLength e := by
  rcases unit.toMillimeters_cases value with ⟨mm, hmm, -⟩ | hrefused
  · cases h.symm.trans hmm
  · cases h.symm.trans hrefused
    exact .invalidDimension _

theorem LengthUnit.eq_of_ofToken {token : String} (h : ofToken token = .error e) : ∃ t, e = .unknownUnit t := by
  unfold ofToken at h
  dsimp only at h
  split at h
  · cases h
  · cases h
    exact ⟨_, rfl⟩

theorem LengthUnit.ofLength_of_ofToken {token : String} (h : ofToken token = .error e) : OfLength e := by
  obtain ⟨t, rfl⟩ := eq_of_ofToken h
  exact .unknownUnit t

namespace Prompt

theorem Measurement.ofLength_of_resolve {m : Measurement} (h : m.resolve = .error e) : OfLength e := by
  unfold resolve at h
  split at h
  · cases h
    exact .invalidDimension _
  · rcases bind_eq_error.mp h with h | ⟨unit, -, h⟩
    · exact LengthUnit.ofLength_of_ofToken h
    · exact LengthUnit.ofLength_of_toMillimeters h

def FaultsOfLength {α : Type} (x : Except PromptError α) : Prop := ∀ e, x = .error e → OfLength e

theorem faultsOfLength_return {α : Type} (a : α) : FaultsOfLength (return a) := fun _ h => nomatch h

theorem Measurement.faultsOfLength_bind {m : Measurement} {α : Type} {f : Float → Except PromptError α}
    (hf : ∀ mm, FaultsOfLength (f mm)) : FaultsOfLength (m.resolve >>= f) := by
  intro e h
  rcases bind_eq_error.mp h with h | ⟨mm, -, h⟩
  · exact ofLength_of_resolve h
  · exact hf mm e h

theorem Sentence.faultsOfLength_solid (m : Sentence) : FaultsOfLength m.solid := by
  cases m with
  | sharedUnitBox | boxBy =>
    exact Measurement.faultsOfLength_bind fun width => Measurement.faultsOfLength_bind fun depth =>
      Measurement.faultsOfLength_bind fun height => faultsOfLength_return (Solid.box width depth height)
  | cube => exact Measurement.faultsOfLength_bind fun side => faultsOfLength_return (Solid.cube side)
  | cylinder =>
    exact Measurement.faultsOfLength_bind fun radius => Measurement.faultsOfLength_bind fun height =>
      faultsOfLength_return (Solid.cylinder radius height)
  | sphere => exact Measurement.faultsOfLength_bind fun radius => faultsOfLength_return (Solid.sphere radius)

end Prompt

theorem IdCounter.issue_eq_error {ids : IdCounter} {solid : Solid} (h : ids.issue solid = .error e) :
    e = .idsExhausted ∨ OfLength e := by
  unfold issue at h
  split at h
  · cases h
    exact .inl rfl
  · right
    rcases bind_eq_error.mp h with h | ⟨p, -, h⟩
    · rcases bind_eq_error.mp h with h | ⟨u, -, h⟩
      · unfold Solid.check at h
        split at h
        · cases h
          exact .invalidDimension _
        · cases h
      · cases h
    · cases h

/-- A solid of admitted sizes is refused only when the ids are spent. -/
theorem IdCounter.eq_of_issue_eq_error {ids : IdCounter} {s : Solid} (hs : s.check = .ok ())
    (h : ids.issue s = .error e) : e = .idsExhausted := by
  unfold issue at h
  split at h
  · cases h
    rfl
  · rw [Primitive.make_eq_ok.mpr ⟨hs, rfl⟩] at h
    cases h

namespace Prompt

open Unicode (isWhiteSpace)

variable {text : String} {ids next : IdCounter} {s line : List Char} {m : Sentence} {k : Keyword}
  {unsupported : String → PromptError}

/-- No sentence, and not even the name of a solid in front. -/
def Foreign (s : List Char) : Prop := (∀ k : Keyword, ¬Opens k.word s) ∧ ∀ m : Sentence, s ∉ m.lines

/-- A text says a sentence, or has no more of one than the word in front, or is foreign. -/
theorem lines_or_opens_or_foreign (s : List Char) :
    (∃ m : Sentence, s ∈ m.lines) ∨ (∃ k : Keyword, Opens k.word s ∧ ∀ m : Sentence, s ∉ m.lines) ∨ Foreign s := by
  by_cases hlines : ∃ m : Sentence, s ∈ m.lines
  · exact .inl hlines
  · have hnone : ∀ m : Sentence, s ∉ m.lines := not_exists.mp hlines
    by_cases hopens : ∃ k : Keyword, Opens k.word s
    · obtain ⟨k, hk⟩ := hopens
      exact .inr (.inl ⟨k, hk, hnone⟩)
    · exact .inr (.inr ⟨not_exists.mp hopens, hnone⟩)

theorem foreign_nil : Foreign [] := Sentence.ofLine_eq_none.mp (by decide)

theorem foreign_clear : Foreign "clear".toList := Sentence.ofLine_eq_none.mp (by decide)

theorem build_of_mem_lines (hs : Normal s) (h : s ∈ m.lines) :
    build s unsupported ids = m.solid >>= ids.issue := by
  rw [build, hs.normalizeChars_eq, Sentence.ofLine_eq_some.mpr h]
  rfl

theorem build_of_opens (hs : Normal s) (hk : Opens k.word s) (h : ∀ m : Sentence, s ∉ m.lines) :
    build s unsupported ids = .error (.missingDimension k) := by
  rw [build, hs.normalizeChars_eq, Sentence.ofLine_eq_error.mpr ⟨k, rfl, hk, h⟩]
  rfl

theorem build_of_foreign (hs : Normal s) (h : Foreign s) :
    build s unsupported ids = .error (unsupported (String.ofList s)) := by
  rw [build, hs.normalizeChars_eq, Sentence.ofLine_eq_none.mpr h]
  rfl

/-- What is said of a text that is no description of a solid, after a verb or without one. -/
def unsupportedAfter : Option Verb → String → PromptError
  | some _ => .unsupportedShape
  | none => .unsupportedCommand

/-- A line that is not empty and not the word clear builds the solid of its body, and without a verb it is created. -/
theorem parse_eq_build (hline : normalizeChars text.toList = line) (hempty : line ≠ [])
    (hclear : line ≠ "clear".toList) :
    parse text ids = (build (body line) (unsupportedAfter (verb? line)) ids).map fun built =>
      (((verb? line).getD .create).action built.1, built.2) := by
  have hsplit := splitVerb?_eq (hline ▸ normal_normalizeChars text.toList)
  rw [parse]
  simp only [hline, if_neg hempty, if_neg hclear, hsplit]
  cases hverb : verb? line with
  | none =>
    have hbody : body line = line := by rw [body, hverb]
    rw [hbody, Option.map_none, unsupportedAfter]
    cases build line .unsupportedCommand ids with
    | error e => rfl
    | ok built => rfl
  | some v =>
    show (build (body line) .unsupportedShape ids >>= fun built => return (v.action built.1, built.2)) = _
    rw [unsupportedAfter]
    cases build (body line) .unsupportedShape ids with
    | error e => rfl
    | ok built => rfl

theorem ne_of_not_foreign (h : ¬Foreign (body line)) : line ≠ [] ∧ line ≠ "clear".toList := by
  constructor
  · rintro rfl
    rw [body_eq_self verb?_nil] at h
    exact h foreign_nil
  · rintro rfl
    rw [body_eq_self verb?_clear] at h
    exact h foreign_clear

section

variable (hline : normalizeChars text.toList = line)
include hline

theorem normal_body_line : Normal (body line) := (hline ▸ normal_normalizeChars text.toList).body

theorem parse_of_empty (h : line = []) : parse text ids = .error .emptyPrompt := by
  rw [parse]
  simp only [hline, if_pos h]
  rfl

theorem parse_of_clear (h : line = "clear".toList) : parse text ids = .ok (.clear, ids) := by
  have hempty : line ≠ [] := by
    rw [h]
    decide
  rw [parse]
  simp only [hline, if_neg hempty, if_pos h]
  rfl

theorem parse_of_mem_lines (h : body line ∈ m.lines) :
    parse text ids = (m.solid >>= ids.issue).map fun built =>
      (((verb? line).getD .create).action built.1, built.2) := by
  obtain ⟨hempty, hclear⟩ := ne_of_not_foreign fun hforeign => hforeign.2 m h
  rw [parse_eq_build hline hempty hclear, build_of_mem_lines (normal_body_line hline) h]

theorem parse_of_opens (hk : Opens k.word (body line)) (h : ∀ m : Sentence, body line ∉ m.lines) :
    parse text ids = .error (.missingDimension k) := by
  obtain ⟨hempty, hclear⟩ := ne_of_not_foreign fun hforeign => hforeign.1 k hk
  rw [parse_eq_build hline hempty hclear, build_of_opens (normal_body_line hline) hk h]
  rfl

theorem parse_of_foreign (hempty : line ≠ []) (hclear : line ≠ "clear".toList) (h : Foreign (body line)) :
    parse text ids = .error (unsupportedAfter (verb? line) (String.ofList (body line))) := by
  rw [parse_eq_build hline hempty hclear, build_of_foreign (normal_body_line hline) h]
  rfl

end

/-- What can become of a sentence after a verb or without one: its solid is created or added, or else the ids or one of
the lengths are at fault. -/
inductive Built (verb : Option Verb) : Except PromptError (Action × IdCounter) → Prop where
  | made (p : Primitive) (next : IdCounter) : Built verb (.ok ((verb.getD .create).action p, next))
  | exhausted : Built verb (.error .idsExhausted)
  | fault {e : PromptError} : OfLength e → Built verb (.error e)

theorem built_iff {verb : Option Verb} {result : Except PromptError (Action × IdCounter)} :
    Built verb result ↔
      (∃ p next, result = .ok ((verb.getD .create).action p, next)) ∨ (∃ token, result = .error (.unknownUnit token)) ∨
        (∃ value, result = .error (.invalidDimension value)) ∨ result = .error .idsExhausted := by
  constructor
  · intro h
    cases h with
    | made p next => exact .inl ⟨p, next, rfl⟩
    | exhausted => exact .inr (.inr (.inr rfl))
    | fault he => cases he with
      | unknownUnit token => exact .inr (.inl ⟨token, rfl⟩)
      | invalidDimension value => exact .inr (.inr (.inl ⟨value, rfl⟩))
  · rintro (⟨p, next, rfl⟩ | ⟨token, rfl⟩ | ⟨value, rfl⟩ | rfl)
    · exact .made p next
    · exact .fault (.unknownUnit token)
    · exact .fault (.invalidDimension value)
    · exact .exhausted

theorem not_built_clear {verb : Option Verb} : ¬Built verb (.ok (.clear, next)) := by
  rw [built_iff]
  rintro (⟨p, next, h⟩ | ⟨token, h⟩ | ⟨value, h⟩ | h)
  · cases hverb : verb.getD .create with
    | create => simp [hverb, Verb.action] at h
    | add => simp [hverb, Verb.action] at h
  all_goals cases h

inductive Outcome (line : List Char) (ids : IdCounter) : Except PromptError (Action × IdCounter) → Prop where
  | empty : line = [] → Outcome line ids (.error .emptyPrompt)
  | clear : line = "clear".toList → Outcome line ids (.ok (.clear, ids))
  | sentence {m : Sentence} {result : Except PromptError (Action × IdCounter)} :
      body line ∈ m.lines → Built (verb? line) result → Outcome line ids result
  | incomplete {k : Keyword} :
      Opens k.word (body line) → (∀ m : Sentence, body line ∉ m.lines) →
        Outcome line ids (.error (.missingDimension k))
  | foreignShape {v : Verb} : verb? line = some v → Foreign (body line) →
      Outcome line ids (.error (.unsupportedShape (String.ofList (body line))))
  | foreignCommand : line ≠ [] → line ≠ "clear".toList → verb? line = none → Foreign line →
      Outcome line ids (.error (.unsupportedCommand (String.ofList line)))

theorem built_of_mem_lines (hline : normalizeChars text.toList = line) (h : body line ∈ m.lines) :
    Built (verb? line) (parse text ids) := by
  rw [parse_of_mem_lines hline h]
  cases hbuilt : m.solid >>= ids.issue with
  | ok built => exact .made built.1 built.2
  | error e =>
    rcases bind_eq_error.mp hbuilt with hsolid | ⟨solid, -, hissue⟩
    · exact .fault (m.faultsOfLength_solid e hsolid)
    · rcases IdCounter.issue_eq_error hissue with rfl | he
      · exact .exhausted
      · exact .fault he

theorem outcome_parse (hline : normalizeChars text.toList = line) : Outcome line ids (parse text ids) := by
  by_cases hempty : line = []
  · rw [parse_of_empty hline hempty]
    exact .empty hempty
  by_cases hclear : line = "clear".toList
  · rw [parse_of_clear hline hclear]
    exact .clear hclear
  rcases lines_or_opens_or_foreign (body line) with ⟨m, hm⟩ | ⟨k, hk, hnone⟩ | hforeign
  · exact .sentence hm (built_of_mem_lines hline hm)
  · rw [parse_of_opens hline hk hnone]
    exact .incomplete hk hnone
  rw [parse_of_foreign hline hempty hclear hforeign]
  cases hverb : verb? line with
  | some v => exact .foreignShape hverb hforeign
  | none =>
    rw [body_eq_self hverb] at hforeign ⊢
    exact .foreignCommand hempty hclear hverb hforeign

namespace Outcome

theorem empty_of_emptyPrompt (h : Outcome line ids (.error .emptyPrompt)) : line = [] := by
  cases h with
  | empty hline => exact hline
  | sentence _ hbuilt => cases hbuilt with
    | fault he => cases he

theorem clear_of_clear (h : Outcome line ids (.ok (.clear, next))) : line = "clear".toList ∧ next = ids := by
  cases h with
  | clear hline => exact ⟨hline, rfl⟩
  | sentence _ hbuilt => exact absurd hbuilt not_built_clear

theorem opens_of_missingDimension (h : Outcome line ids (.error (.missingDimension k))) :
    Opens k.word (body line) ∧ ∀ m : Sentence, body line ∉ m.lines := by
  cases h with
  | sentence _ hbuilt => cases hbuilt with
    | fault he => cases he
  | incomplete hk hnone => exact ⟨hk, hnone⟩

theorem foreign_of_unsupportedShape {t : String} (h : Outcome line ids (.error (.unsupportedShape t))) :
    (∃ v, verb? line = some v) ∧ Foreign (body line) ∧ t = String.ofList (body line) := by
  cases h with
  | sentence _ hbuilt => cases hbuilt with
    | fault he => cases he
  | foreignShape hverb hforeign => exact ⟨⟨_, hverb⟩, hforeign, rfl⟩

theorem foreign_of_unsupportedCommand {t : String} (h : Outcome line ids (.error (.unsupportedCommand t))) :
    line ≠ [] ∧ line ≠ "clear".toList ∧ verb? line = none ∧ Foreign line ∧ t = String.ofList line := by
  cases h with
  | sentence _ hbuilt => cases hbuilt with
    | fault he => cases he
  | foreignCommand hempty hclear hverb hforeign => exact ⟨hempty, hclear, hverb, hforeign, rfl⟩

theorem sentence_of_built {result : Except PromptError (Action × IdCounter)} (h : Outcome line ids result)
    (hbuilt : Built (verb? line) result) : ∃ m : Sentence, body line ∈ m.lines := by
  cases h with
  | sentence hm _ => exact ⟨_, hm⟩
  | clear => exact absurd hbuilt not_built_clear
  | empty | incomplete | foreignShape | foreignCommand => cases hbuilt with
    | fault he => cases he

end Outcome

section

variable (hline : normalizeChars text.toList = line)
include hline

theorem parse_eq_emptyPrompt : parse text ids = .error .emptyPrompt ↔ ∀ c ∈ text.toList, isWhiteSpace c = true := by
  have houtcome : Outcome line ids _ := outcome_parse hline
  rw [← normalizeChars_eq_nil, hline]
  exact ⟨fun h => (h ▸ houtcome).empty_of_emptyPrompt, parse_of_empty hline⟩

theorem parse_eq_clear : parse text ids = .ok (.clear, next) ↔ line = "clear".toList ∧ next = ids := by
  have houtcome : Outcome line ids _ := outcome_parse hline
  constructor
  · exact fun h => (h ▸ houtcome).clear_of_clear
  · rintro ⟨hclear, rfl⟩
    exact parse_of_clear hline hclear

theorem built_parse : Built (verb? line) (parse text ids) ↔ ∃ m : Sentence, body line ∈ m.lines := by
  have houtcome : Outcome line ids _ := outcome_parse hline
  constructor
  · exact houtcome.sentence_of_built
  · rintro ⟨m, hm⟩
    exact built_of_mem_lines hline hm

theorem parse_eq_missingDimension :
    parse text ids = .error (.missingDimension k) ↔
      Opens k.word (body line) ∧ ∀ m : Sentence, body line ∉ m.lines := by
  have houtcome : Outcome line ids _ := outcome_parse hline
  constructor
  · exact fun h => (h ▸ houtcome).opens_of_missingDimension
  · rintro ⟨hk, hnone⟩
    exact parse_of_opens hline hk hnone

theorem parse_eq_unsupportedShape {t : String} :
    parse text ids = .error (.unsupportedShape t) ↔
      (∃ v, verb? line = some v) ∧ Foreign (body line) ∧ t = String.ofList (body line) := by
  have houtcome : Outcome line ids _ := outcome_parse hline
  constructor
  · exact fun h => (h ▸ houtcome).foreign_of_unsupportedShape
  · rintro ⟨⟨v, hverb⟩, hforeign, rfl⟩
    obtain ⟨hempty, hclear⟩ := ne_of_verb? hverb
    rw [parse_of_foreign hline hempty hclear hforeign, hverb]
    rfl

theorem parse_eq_unsupportedCommand {t : String} :
    parse text ids = .error (.unsupportedCommand t) ↔
      line ≠ [] ∧ line ≠ "clear".toList ∧ verb? line = none ∧ Foreign line ∧ t = String.ofList line := by
  have houtcome : Outcome line ids _ := outcome_parse hline
  constructor
  · exact fun h => (h ▸ houtcome).foreign_of_unsupportedCommand
  · rintro ⟨hempty, hclear, hverb, hforeign, rfl⟩
    have hbody := body_eq_self hverb
    rw [parse_of_foreign hline hempty hclear (hbody.symm ▸ hforeign), hverb, hbody]
    rfl

/-- A line that starts with the name of a solid is never called unsupported. -/
theorem parse_ne_unsupported (hk : Opens k.word (body line)) (t : String) :
    parse text ids ≠ .error (.unsupportedShape t) ∧ parse text ids ≠ .error (.unsupportedCommand t) := by
  constructor
  · intro h
    obtain ⟨-, hforeign, -⟩ := (parse_eq_unsupportedShape hline).mp h
    exact hforeign.1 k hk
  · intro h
    obtain ⟨-, -, hverb, hforeign, -⟩ := (parse_eq_unsupportedCommand hline).mp h
    rw [body_eq_self hverb] at hk
    exact hforeign.1 k hk

end

/-- A prompt is empty, clears, says a sentence about a solid, starts one that is not complete, or is foreign, and what
becomes of it tells which. Whatever would be reported of a solid with a wrong number of sizes, nothing ever is. -/
theorem parse_classified (text : String) (ids : IdCounter) :
    let line := normalizeChars text.toList
    (parse text ids = .error .emptyPrompt ↔ ∀ c ∈ text.toList, isWhiteSpace c = true) ∧
      (∀ next, parse text ids = .ok (.clear, next) ↔ line = "clear".toList ∧ next = ids) ∧
      ((∃ m : Sentence, body line ∈ m.lines) ↔
        (∃ p next, parse text ids = .ok (((verb? line).getD .create).action p, next)) ∨
          (∃ token, parse text ids = .error (.unknownUnit token)) ∨
          (∃ value, parse text ids = .error (.invalidDimension value)) ∨ parse text ids = .error .idsExhausted) ∧
      (∀ k, parse text ids = .error (.missingDimension k) ↔
        Opens k.word (body line) ∧ ∀ m : Sentence, body line ∉ m.lines) ∧
      (∀ t, parse text ids = .error (.unsupportedShape t) ↔
        (∃ v, verb? line = some v) ∧ Foreign (body line) ∧ t = String.ofList (body line)) ∧
      (∀ t, parse text ids = .error (.unsupportedCommand t) ↔
        line ≠ [] ∧ line ≠ "clear".toList ∧ verb? line = none ∧ Foreign line ∧ t = String.ofList line) ∧
      (∀ k : Keyword, Opens k.word (body line) →
        ∀ t, parse text ids ≠ .error (.unsupportedShape t) ∧ parse text ids ≠ .error (.unsupportedCommand t)) ∧
      (∀ s found sizes, Match.ofLine s = .ok (some found) → found.measurements.mapM Measurement.resolve = .ok sizes →
        (found.template.solid? sizes).isSome = true) ∧
      ∀ incomplete s unsupported counter,
        Match.build incomplete s unsupported counter = build s unsupported counter := by
  intro line
  refine ⟨parse_eq_emptyPrompt rfl, fun next => parse_eq_clear rfl, ?_, fun k => parse_eq_missingDimension rfl,
    fun t => parse_eq_unsupportedShape rfl, fun t => parse_eq_unsupportedCommand rfl,
    fun k hk t => parse_ne_unsupported rfl hk t,
    fun s found sizes hfound => Match.isSome_solid?_of_ofLine hfound, Match.build_eq⟩
  rw [← built_iff]
  exact (built_parse rfl).symm

end Prompt

end PromptCad
