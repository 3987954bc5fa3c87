import PromptCad.Proofs.Prompt.Layout

/-! Verbs in front of a prompt. A verb and the blanks after it are found again in front of the line, however the verb is
written and whatever stands after it, and the rest of the line is the line of the rest. So the verb says what becomes of
the solid, and nothing of the solid itself. -/

namespace PromptCad.Prompt

open Grammar Unicode

variable {s t v w r b line : List Char} {verb : Verb} {ids : IdCounter}

theorem Verb.unbroken (verb : Verb) : ∀ c ∈ verb.word.toList, isWhiteSpace c = false := by
  have hall : verb.word.toList.all (!isWhiteSpace ·) = true := by cases verb <;> decide
  simpa only [List.all_eq_true, Bool.not_eq_true'] using hall

theorem Verb.word_ne_nil (verb : Verb) : verb.word.toList ≠ [] := by
  cases verb <;> decide

theorem unbroken_of_lower (hv : Text.lower v = verb.word.toList) : ∀ c ∈ v, isWhiteSpace c = false := by
  intro c hc
  by_contra hblank
  rw [Bool.not_eq_false] at hblank
  obtain ⟨a, b, rfl⟩ := List.append_of_mem hc
  rw [Text.lower_append_blank hblank] at hv
  have hmem : c ∈ verb.word.toList := hv ▸ List.mem_append_right _ List.mem_cons_self
  cases hblank.symm.trans (verb.unbroken c hmem)

theorem leads_append (hw : ∀ c ∈ w, isWhiteSpace c = false) (hne : w ≠ []) (hb : b ∈ blanks) (s : List Char) :
    Text.Leads w (b ++ s) where
  ne_nil := hne
  unbroken := hw
  stop c hc := by
    rw [List.head?_append_of_ne_nil _ hb.1] at hc
    exact hb.2 c (List.mem_of_head? hc)

theorem trimmed_append (hv : Text.Leads v r) (ht : Text.Trimmed t) (hne : t ≠ []) : Text.Trimmed (v ++ (b ++ t)) where
  front c hc := by
    rw [List.head?_append_of_ne_nil _ hv.ne_nil] at hc
    exact hv.unbroken c (List.mem_of_head? hc)
  back c hc := by
    rw [← List.append_assoc, List.getLast?_append_of_ne_nil _ hne] at hc
    exact ht.back c hc

/-- The line of a verb, blanks and a text has the verb, blanks and the line of the text. -/
theorem exists_normalizeChars (hv : Text.lower v = verb.word.toList) (hw : w ∈ blanks)
    (hs : ∃ c ∈ s, isWhiteSpace c = false) :
    ∃ b ∈ blanks, normalizeChars (v ++ w ++ s) = verb.word.toList ++ (b ++ normalizeChars s) := by
  obtain ⟨a, e, ha, he, hcut⟩ := Text.exists_blanks_trim s
  have hrest : Text.trim s ≠ [] := by
    intro hnil
    obtain ⟨c, hc, hsome⟩ := hs
    rw [hnil, List.append_nil] at hcut
    rw [hcut] at hc
    cases hsome.symm.trans ((List.mem_append.mp hc).elim (ha c) (he c))
  have hne : v ≠ [] := by
    rintro rfl
    exact verb.word_ne_nil hv.symm
  have hblanks : w ++ a ∈ blanks :=
    ⟨List.append_ne_nil_of_left_ne_nil hw.1 a, fun c hc => (List.mem_append.mp hc).elim (hw.2 c) (ha c)⟩
  have hleads := leads_append (unbroken_of_lower hv) hne hblanks (Text.trim s)
  have htext : v ++ w ++ s = v ++ ((w ++ a) ++ Text.trim s) ++ e :=
    calc v ++ w ++ s = v ++ w ++ (a ++ Text.trim s ++ e) := by rw [← hcut]
      _ = v ++ ((w ++ a) ++ Text.trim s) ++ e := by simp only [List.append_assoc]
  have hwhole : Text.trim (v ++ w ++ s) = v ++ ((w ++ a) ++ Text.trim s) := by
    rw [htext]
    exact (trimmed_append hleads (Text.trimmed_trim s) hrest).trim_append
      (List.append_ne_nil_of_left_ne_nil hne _) he
  refine ⟨w ++ a, hblanks, ?_⟩
  rw [normalizeChars, hwhole, Text.lower_append_blanks hblanks.1 hblanks.2, hv, normalizeChars]

section

variable (hb : b ∈ blanks)
include hb

theorem verb?_append (verb : Verb) (line : List Char) : verb? (verb.word.toList ++ (b ++ line)) = some verb := by
  rw [verb?, (leads_append verb.unbroken verb.word_ne_nil hb line).firstWord_append]
  cases verb with
  | create => rfl
  | add => rfl

theorem body_append (verb : Verb) (hline : Text.Trimmed line) : body (verb.word.toList ++ (b ++ line)) = line := by
  have hsplit := (leads_append verb.unbroken verb.word_ne_nil hb line).splitAtBlank_append
  rw [body, verb?_append hb]
  dsimp only
  rw [hsplit]
  obtain ⟨c, b, rfl⟩ := List.exists_cons_of_ne_nil hb.1
  have hblank : ∀ d ∈ b, isWhiteSpace d = true := fun d hd => hb.2 d (List.mem_cons_of_mem c hd)
  rw [List.cons_append, List.drop_one, List.tail_cons, Text.trim, Text.trimLeft_append_of_all hblank, ← Text.trim]
  exact hline.trim_eq

end

theorem Built.ne_unsupported {verb : Option Verb} {e : PromptError} (h : Built verb (.error e)) (text : String) :
    e ≠ .unsupportedCommand text ∧ e ≠ .unsupportedShape text := by
  cases h with
  | exhausted => exact ⟨nofun, nofun⟩
  | fault he => cases he with
    | unknownUnit token => exact ⟨nofun, nofun⟩
    | invalidDimension value => exact ⟨nofun, nofun⟩

theorem verb?_eq_none (h : ∀ u : Verb, Text.firstWord line ≠ u.word.toList) : verb? line = none := by
  rw [verb?, if_neg (h .create), if_neg (h .add)]

/-- Verbs do not change what a sentence means. A prompt that is not blank, does not clear and starts with no verb gives
the same primitive and leaves the same counter with a verb in front, or it is refused for the same reason; only a text
that is no sentence is called a command without the verb and a shape after it. A refusal leaves the counter alone. -/
theorem verbs_irrelevant (verb : Verb) (v w s : String) (hv : Text.lower v.toList = verb.word.toList)
    (hw : w.toList ≠ [] ∧ ∀ c ∈ w.toList, isWhiteSpace c = true) (hs : ∃ c ∈ s.toList, isWhiteSpace c = false)
    (hclear : normalizeChars s.toList ≠ "clear".toList)
    (hfirst : ∀ u : Verb, Text.firstWord (normalizeChars s.toList) ≠ u.word.toList) (ids : IdCounter) :
    ((∃ p next, parse s ids = .ok (.create p, next) ∧ parse (v ++ w ++ s) ids = .ok (verb.action p, next)) ∨
        (∃ text, parse s ids = .error (.unsupportedCommand text) ∧
          parse (v ++ w ++ s) ids = .error (.unsupportedShape text)) ∨
        ∃ e, (∀ text, e ≠ .unsupportedCommand text ∧ e ≠ .unsupportedShape text) ∧ parse s ids = .error e ∧
          parse (v ++ w ++ s) ids = .error e) ∧
      ∀ text, (InPlace.parse text).perform ids = InPlace.settled ids (parse text ids) := by
  refine ⟨?_, fun text => InPlace.perform_parse text ids⟩
  obtain ⟨b, hb, hline⟩ := exists_normalizeChars hv hw hs
  generalize hbare : normalizeChars s.toList = line at hclear hfirst hline
  have hverb : normalizeChars (v ++ w ++ s).toList = verb.word.toList ++ (b ++ line) := by
    rw [String.toList_append, String.toList_append, hline]
  have hnone : verb? line = none := verb?_eq_none hfirst
  have hsome := verb?_append hb verb line
  have hbody := body_append hb verb (hbare ▸ normal_normalizeChars s.toList).trimmed
  have hself := body_eq_self hnone
  rcases lines_or_opens_or_foreign line with ⟨m, hm⟩ | ⟨k, hk, hm⟩ | hforeign
  · have hbuilt : Built (verb? line) (parse s ids) := built_of_mem_lines hbare (hself.symm ▸ hm)
    rw [parse_of_mem_lines hbare (hself.symm ▸ hm), hnone] at hbuilt ⊢
    rw [parse_of_mem_lines hverb (hbody.symm ▸ hm), hsome]
    cases hmade : m.solid >>= ids.issue with
    | ok made => exact .inl ⟨made.1, made.2, rfl, rfl⟩
    | error e =>
      rw [hmade] at hbuilt
      exact .inr (.inr ⟨e, hbuilt.ne_unsupported, rfl, rfl⟩)
  · refine .inr (.inr ⟨.missingDimension k, fun text => ⟨nofun, nofun⟩, ?_, ?_⟩)
    · exact parse_of_opens hbare (hself.symm ▸ hk) (hself.symm ▸ hm)
    · exact parse_of_opens hverb (hbody.symm ▸ hk) (hbody.symm ▸ hm)
  · have hempty : line ≠ [] := by
      rintro rfl
      obtain ⟨c, hc, hsome⟩ := hs
      cases hsome.symm.trans (normalizeChars_eq_nil.mp hbare c hc)
    obtain ⟨hempty', hclear'⟩ := ne_of_verb? hsome
    refine .inr (.inl ⟨String.ofList line, ?_, ?_⟩)
    · rw [parse_of_foreign hbare hempty hclear (hself.symm ▸ hforeign), hself, hnone]
      rfl
    · rw [parse_of_foreign hverb hempty' hclear' (hbody.symm ▸ hforeign), hbody, hsome]
      rfl

/-- A cube has the same id with the verb and without it, and the last sigma of a text that is no sentence is a final one
with the verb and without it. -/
theorem verbs_irrelevant_sigma :
    parse "cube 2mm" ⟨5⟩ = .ok (.create ⟨"box-5", .cube 2, .origin⟩, ⟨6⟩) ∧
      parse ("ADD" ++ " " ++ "cube 2mm") ⟨5⟩ = .ok (.add ⟨"box-5", .cube 2, .origin⟩, ⟨6⟩) ∧
      parse "ΟΔΟΣ" ⟨1⟩ = .error (.unsupportedCommand "οδος") ∧
      parse ("aDD" ++ "\u3000 " ++ "ΟΔΟΣ") ⟨1⟩ = .error (.unsupportedShape "οδος") := by
  have hcube : parse "cube 2mm" ⟨5⟩ = .ok (.create ⟨"box-5", .cube 2, .origin⟩, ⟨6⟩) := by decide +kernel
  have hcubeFirst : ∀ u : Verb, Text.firstWord (normalizeChars "cube 2mm".toList) ≠ u.word.toList := by
    intro u
    cases u <;> decide
  have hspace : " ".toList ≠ [] ∧ ∀ c ∈ " ".toList, isWhiteSpace c = true :=
    ⟨by decide, List.all_eq_true.mp (by decide)⟩
  have hmade := verbs_irrelevant .add "ADD" " " "cube 2mm" (by decide) hspace
    ⟨'c', by decide, by decide⟩ (by decide) hcubeFirst ⟨5⟩
  have hbare : parse "ΟΔΟΣ" ⟨1⟩ = .error (.unsupportedCommand "οδος") := by decide +kernel
  have hfirst : ∀ u : Verb, Text.firstWord (normalizeChars "ΟΔΟΣ".toList) ≠ u.word.toList := by
    intro u
    cases u <;> decide
  have hblank : "\u3000 ".toList ≠ [] ∧ ∀ c ∈ "\u3000 ".toList, isWhiteSpace c = true :=
    ⟨by decide, List.all_eq_true.mp (by decide)⟩
  have hrefused := verbs_irrelevant .add "aDD" "\u3000 " "ΟΔΟΣ" (by decide) hblank
    ⟨'Σ', by decide, by decide⟩ (by decide) hfirst ⟨1⟩
  refine ⟨hcube, ?_, hbare, ?_⟩
  · rcases hmade.1 with ⟨p, next, hcreated, hadded⟩ | ⟨text, hcommand, -⟩ | ⟨e, -, he, -⟩
    · cases hcreated.symm.trans hcube
      exact hadded
    · cases hcommand.symm.trans hcube
    · cases he.symm.trans hcube
  · rcases hrefused.1 with ⟨p, next, hcreated, -⟩ | ⟨text, hcommand, hshape⟩ | ⟨e, hne, he, -⟩
    · cases hcreated.symm.trans hbare
    · cases hcommand.symm.trans hbare
      exact hshape
    · cases he.symm.trans hbare
      exact absurd rfl (hne "οδος").1

end PromptCad.Prompt
