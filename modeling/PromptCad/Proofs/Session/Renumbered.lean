import PromptCad.Proofs.Prompt.Outcome
import PromptCad.Proofs.Session.Export
import PromptCad.Proofs.Session.Rejected

/-! What a cleared session becomes depends on the prompts alone, up to the numbers of ids. Two sessions that differ in
nothing else take each step alike, for a prompt is understood before the counter is looked at. -/

namespace PromptCad

namespace Prompt

/-- What a prompt asks for: to clear, or a solid that is to be created or added. -/
def wanted (text : String) : Except PromptError (Option (Verb × Solid)) :=
  let line := normalizeChars text.toList
  if line = [] then .error .emptyPrompt
  else if line = "clear".toList then .ok none
  else do
    match ← Sentence.ofLine (normalizeChars (body line)) with
    | none => throw (unsupportedAfter (verb? line) (String.ofList (body line)))
    | some sentence => return some ((verb? line).getD .create, ← sentence.solid)

/-- The counter is looked at when the prompt has been understood. -/
theorem parse_eq_wanted (text : String) (ids : IdCounter) :
    parse text ids = wanted text >>= fun
      | none => .ok (.clear, ids)
      | some (verb, solid) => (ids.issue solid).map fun built => (verb.action built.1, built.2) := by
  by_cases hempty : normalizeChars text.toList = []
  · rw [parse_of_empty rfl hempty, wanted, if_pos hempty]
    rfl
  by_cases hclear : normalizeChars text.toList = "clear".toList
  · rw [parse_of_clear rfl hclear, wanted, if_neg hempty, if_pos hclear]
    rfl
  rw [parse_eq_build rfl hempty hclear, wanted, if_neg hempty, if_neg hclear, build]
  cases Sentence.ofLine (normalizeChars (body (normalizeChars text.toList))) with
  | error e => rfl
  | ok found => cases found with
    | none => rfl
    | some sentence =>
      show (sentence.solid >>= ids.issue).map _ = (sentence.solid >>= fun solid => return some (_, solid)) >>= _
      cases sentence.solid with
      | error e => rfl
      | ok solid => rfl

end Prompt

namespace IdCounter

variable {ids : IdCounter} {solid : Solid}

def number (ids : IdCounter) (solid : Solid) : Primitive := ⟨idText solid.kind ids.next, solid, .origin⟩

theorem issue_eq_map (h : ids.issue solid ≠ .error .idsExhausted) :
    ids.issue solid = solid.check.map fun _ => (ids.number solid, ⟨ids.next + 1⟩) := by
  unfold issue at h ⊢
  split
  · next hlast => exact absurd (if_pos hlast) h
  · rw [Primitive.make]
    cases solid.check with
    | error e => rfl
    | ok u => rfl

end IdCounter

/-- Primitives that are alike but for the numbers of their ids, which are equally far past `a` and `b`. -/
structure Primitive.Twins (a b : ℕ) (p q : Primitive) : Prop where
  solid : p.solid = q.solid
  position : p.position = q.position
  ids : ∃ i, p.id = IdCounter.idText p.kind (a + i) ∧ q.id = IdCounter.idText q.kind (b + i)

namespace Session

/-- Sessions that are alike but for the numbers of their ids, with counters that are equally far past `a` and `b`. -/
structure Renumbered (a b : ℕ) (s t : Session) : Prop where
  settings : s.settings = t.settings
  limit : s.model.limit = t.model.limit
  operations : s.model.operations = [] ∧ t.model.operations = []
  counters : ∃ i, s.ids.next = a + i ∧ t.ids.next = b + i
  primitives : List.Forall₂ (Primitive.Twins a b) s.model.primitives t.model.primitives

variable {a b : ℕ} {s t : Session} {text : String} {verb : Prompt.Verb} {solid : Solid} {e : PromptError}

def exhausted : Error := .prompt .idsExhausted

/-- The session with one more primitive, or with nothing else, and the counter moved on. -/
def place (s : Session) (verb : Prompt.Verb) (p : Primitive) : Except Error Session :=
  match s.model.apply (verb.action p) with
  | .error e => .error (.model e)
  | .ok model => .ok { s with model, ids := ⟨s.ids.next + 1⟩ }

theorem place_add_of_full (h : s.model.limit ≤ s.model.primitives.length) (p : Primitive) :
    s.place .add p = .error (.model (.full s.model.limit)) := by
  have hadd : s.model.apply (.add p) = .error (.full s.model.limit) := if_pos h
  simp only [place, Prompt.Verb.action, hadd]

theorem place_add (h : ¬s.model.limit ≤ s.model.primitives.length) (p : Primitive) :
    s.place .add p =
      .ok { s with model := { s.model with primitives := s.model.primitives ++ [p] }, ids := ⟨s.ids.next + 1⟩ } := by
  have hadd : s.model.apply (.add p) = .ok { s.model with primitives := s.model.primitives ++ [p] } := if_neg h
  simp only [place, Prompt.Verb.action, hadd]

theorem submit_of_refused (h : Prompt.wanted text = .error e) (s : Session) : s.submit text = .error (.prompt e) := by
  rw [Session.submit, Prompt.parse_eq_wanted, h]
  rfl

theorem submit_of_clear (h : Prompt.wanted text = .ok none) (s : Session) :
    s.submit text = .ok { s with model := s.model.clear } := by
  rw [Session.submit, Prompt.parse_eq_wanted, h]
  rfl

theorem submit_of_build (h : Prompt.wanted text = .ok (some (verb, solid))) (hs : s.submit text ≠ .error exhausted) :
    s.submit text = (solid.check.mapError .prompt >>= fun _ => s.place verb (s.ids.number solid)) := by
  have hparse : Prompt.parse text s.ids = (s.ids.issue solid).map fun built => (verb.action built.1, built.2) := by
    rw [Prompt.parse_eq_wanted, h]
    rfl
  have hissue : s.ids.issue solid ≠ .error .idsExhausted := by
    intro hissue
    rw [Session.submit, hparse, hissue] at hs
    exact hs rfl
  rw [Session.submit, hparse, IdCounter.issue_eq_map hissue]
  cases solid.check with
  | error e => rfl
  | ok u => rfl

namespace Renumbered

theorem clear (hsettings : s.settings = t.settings) (hlimit : s.model.limit = t.model.limit)
    (hcounters : ∃ i, s.ids.next = a + i ∧ t.ids.next = b + i) :
    Renumbered a b { s with model := s.model.clear } { t with model := t.model.clear } :=
  ⟨hsettings, hlimit, ⟨rfl, rfl⟩, hcounters, .nil⟩

theorem twins_number (h : Renumbered a b s t) (solid : Solid) :
    Primitive.Twins a b (s.ids.number solid) (t.ids.number solid) := by
  obtain ⟨i, hs, ht⟩ := h.counters
  refine ⟨rfl, rfl, i, ?_, ?_⟩
  · rw [IdCounter.number, hs]
    rfl
  · rw [IdCounter.number, ht]
    rfl

/-- A solid finds room in both sessions or in neither. -/
theorem place (h : Renumbered a b s t) (verb : Prompt.Verb) (solid : Solid) :
    (∃ e, s.place verb (s.ids.number solid) = .error e ∧ t.place verb (t.ids.number solid) = .error e) ∨
      ∃ s' t', s.place verb (s.ids.number solid) = .ok s' ∧ t.place verb (t.ids.number solid) = .ok t' ∧
        Renumbered a b s' t' := by
  have htwins := h.twins_number solid
  have hcounters : ∃ i, s.ids.next + 1 = a + i ∧ t.ids.next + 1 = b + i := by
    obtain ⟨i, hs, ht⟩ := h.counters
    exact ⟨i + 1, by omega, by omega⟩
  cases verb with
  | create =>
    exact .inr ⟨_, _, rfl, rfl, h.settings, h.limit, ⟨rfl, rfl⟩, hcounters, .cons htwins .nil⟩
  | add =>
    have hroom : s.model.limit ≤ s.model.primitives.length ↔ t.model.limit ≤ t.model.primitives.length := by
      rw [h.limit, h.primitives.length_eq]
    by_cases hfull : s.model.limit ≤ s.model.primitives.length
    · rw [place_add_of_full hfull, place_add_of_full (hroom.mp hfull), h.limit]
      exact .inl ⟨_, rfl, rfl⟩
    · rw [place_add hfull, place_add (mt hroom.mpr hfull)]
      refine .inr ⟨_, _, rfl, rfl, h.settings, h.limit, h.operations, hcounters, ?_⟩
      exact List.rel_append h.primitives (.cons htwins .nil)

/-- A prompt is refused by both sessions for the same reason, or taken by both and leaves them alike. -/
theorem submit (h : Renumbered a b s t) (hs : s.submit text ≠ .error exhausted)
    (ht : t.submit text ≠ .error exhausted) :
    (∃ e, s.submit text = .error e ∧ t.submit text = .error e) ∨
      ∃ s' t', s.submit text = .ok s' ∧ t.submit text = .ok t' ∧ Renumbered a b s' t' := by
  cases hwanted : Prompt.wanted text with
  | error e => exact .inl ⟨_, submit_of_refused hwanted s, submit_of_refused hwanted t⟩
  | ok want => cases want with
    | none =>
      exact .inr ⟨_, _, submit_of_clear hwanted s, submit_of_clear hwanted t, clear h.settings h.limit h.counters⟩
    | some build =>
      rw [submit_of_build hwanted hs, submit_of_build hwanted ht]
      cases build.2.check with
      | error e => exact .inl ⟨_, rfl, rfl⟩
      | ok u => exact h.place build.1 build.2

/-- Carried out on both sessions, a list of prompts gives the same results and leaves the sessions alike. -/
theorem run (h : Renumbered a b s t) {texts : List String}
    (hs : .error exhausted ∉ (s.history texts).map (·.1)) (ht : .error exhausted ∉ (t.history texts).map (·.1)) :
    (s.history texts).map (·.1) = (t.history texts).map (·.1) ∧ Renumbered a b (s.run texts) (t.run texts) := by
  induction texts generalizing s t with
  | nil => exact ⟨rfl, h⟩
  | cons text texts ih =>
    have hfirst : ∀ {u : Session}, .error exhausted ∉ (u.history (text :: texts)).map (·.1) →
        u.submit text ≠ .error exhausted := by
      intro u hu herror
      rw [history_of_error herror] at hu
      exact hu List.mem_cons_self
    rcases h.submit (hfirst hs) (hfirst ht) with ⟨e, hse, hte⟩ | ⟨s', t', hss, htt, h'⟩
    · rw [history_of_error hse] at hs ⊢
      rw [history_of_error hte] at ht ⊢
      obtain ⟨hresults, hrun⟩ := ih h (List.not_mem_of_not_mem_cons hs) (List.not_mem_of_not_mem_cons ht)
      rw [run_cons, run_cons, step_of_error hse, step_of_error hte, List.map_cons, List.map_cons, hresults]
      exact ⟨rfl, hrun⟩
    · rw [history_of_ok hss] at hs ⊢
      rw [history_of_ok htt] at ht ⊢
      obtain ⟨hresults, hrun⟩ := ih h' (List.not_mem_of_not_mem_cons hs) (List.not_mem_of_not_mem_cons ht)
      rw [run_cons, run_cons, step_of_submit hss, step_of_submit htt, List.map_cons, List.map_cons, hresults]
      exact ⟨rfl, hrun⟩

theorem twins_getElem? (h : Renumbered a b s t) {i : ℕ} {p q : Primitive} (hp : s.model.primitives[i]? = some p)
    (hq : t.model.primitives[i]? = some q) : Primitive.Twins a b p q := by
  have hzip : (s.model.primitives.zip t.model.primitives)[i]? = some (p, q) :=
    List.getElem?_zip_eq_some.mpr ⟨hp, hq⟩
  exact (List.forall₂_iff_zip.mp h.primitives).2 (List.mem_of_getElem? hzip)

theorem mesh_eq (h : Renumbered a b s t) (quality : Quality) : s.mesh quality = t.mesh quality := by
  have hplacements : s.model.primitives.map (·.placement) = t.model.primitives.map (·.placement) := by
    rw [← List.forall₂_eq_eq_eq, List.forall₂_map_left_iff, List.forall₂_map_right_iff]
    exact h.primitives.imp fun p q hpq => Prod.ext hpq.solid hpq.position
  rw [mesh, mesh, h.settings]
  exact Mesh.ofPrimitives_congr hplacements _

theorem encode_eq (h : Renumbered a b s t) (format : Stl.Format) : s.encode format = t.encode format := by
  have hempty : s.model.primitives.isEmpty = t.model.primitives.isEmpty := by
    rw [Bool.eq_iff_iff, List.isEmpty_iff_length_eq_zero, List.isEmpty_iff_length_eq_zero, h.primitives.length_eq]
  rw [encode, encode, hempty, h.mesh_eq, h.settings]

end Renumbered

theorem wanted_clear : Prompt.wanted "clear" = .ok none := by decide

/-- After they have been cleared, two sessions with the same settings give the same results for the same prompts, as
long as neither uses up its ids. They end with the same solids at the same places, and thus with the same meshes and
files; all that is left of what they held before is how far their counters were apart. -/
theorem cleared_runs_agree (hs : s.Reachable) (ht : t.Reachable) (hsettings : s.settings = t.settings)
    (texts : List String) (hsids : .error (.prompt .idsExhausted) ∉ (s.history ("clear" :: texts)).map (·.1))
    (htids : .error (.prompt .idsExhausted) ∉ (t.history ("clear" :: texts)).map (·.1)) :
    let u := s.run ("clear" :: texts)
    let v := t.run ("clear" :: texts)
    (s.history ("clear" :: texts)).map (·.1) = (t.history ("clear" :: texts)).map (·.1) ∧
      u.model.primitives.length = v.model.primitives.length ∧ u.model.operations = [] ∧ v.model.operations = [] ∧
      (∀ (i : ℕ) (p q : Primitive), u.model.primitives[i]? = some p → v.model.primitives[i]? = some q →
        p.kind = q.kind ∧ p.solid = q.solid ∧ p.position = q.position ∧
          ∃ m n, p.id = p.kind.idStem ++ "-" ++ Decimal.natText m ∧ q.id = p.kind.idStem ++ "-" ++ Decimal.natText n ∧
            (m : ℤ) - n = (s.ids.next : ℤ) - t.ids.next) ∧
      (∀ quality, u.mesh quality = v.mesh quality) ∧ ∀ format, u.encode format = v.encode format := by
  intro u v
  have hlimit : s.model.limit = t.model.limit := by rw [hs.sound.limit, ht.sound.limit, hsettings]
  have hsclear := submit_of_clear wanted_clear s
  have htclear := submit_of_clear wanted_clear t
  have hcleared := Renumbered.clear hsettings hlimit ⟨0, rfl, rfl⟩
  rw [history_of_ok hsclear] at hsids ⊢
  rw [history_of_ok htclear] at htids ⊢
  obtain ⟨hresults, hrun⟩ := hcleared.run (List.not_mem_of_not_mem_cons hsids) (List.not_mem_of_not_mem_cons htids)
  rw [← step_of_submit hsclear, ← step_of_submit htclear, ← run_cons, ← run_cons] at hrun
  refine ⟨congrArg (_ :: ·) hresults, hrun.primitives.length_eq, hrun.operations.1, hrun.operations.2,
    fun i p q hp hq => ?_, hrun.mesh_eq, hrun.encode_eq⟩
  obtain ⟨hsolid, hposition, k, hpid, hqid⟩ := hrun.twins_getElem? hp hq
  have hkind : p.kind = q.kind := congrArg Solid.kind hsolid
  refine ⟨hkind, hsolid, hposition, _, _, hpid, hkind ▸ hqid, ?_⟩
  push_cast
  ring

def rebuilding : List String := ["cube 2mm", "undo", "add sphere radius 1mm"]

/-- A session that is new, and one that has primitives, an operation and a counter that has moved on. -/
theorem cleared_runs_agree_resumed :
    standard.Reachable ∧ resumed.Reachable ∧ standard.settings = resumed.settings ∧
      .error (.prompt .idsExhausted) ∉ (standard.history ("clear" :: rebuilding)).map (·.1) ∧
      .error (.prompt .idsExhausted) ∉ (resumed.history ("clear" :: rebuilding)).map (·.1) ∧
      (standard.run ("clear" :: rebuilding)).model.ids = ["box-1", "sphere-2"] ∧
      (resumed.run ("clear" :: rebuilding)).model.ids = ["box-7", "sphere-8"] ∧
      ∀ format, (standard.run ("clear" :: rebuilding)).encode format =
        (resumed.run ("clear" :: rebuilding)).encode format := by
  have hstandard : (standard.history ("clear" :: rebuilding)).map (·.1) =
      [.ok (), .ok (), .error (.prompt (.unsupportedCommand "undo")), .ok ()] := by decide +kernel
  have hresumed : (resumed.history ("clear" :: rebuilding)).map (·.1) =
      [.ok (), .ok (), .error (.prompt (.unsupportedCommand "undo")), .ok ()] := by decide +kernel
  have hsids : .error (.prompt .idsExhausted) ∉ (standard.history ("clear" :: rebuilding)).map (·.1) := by
    rw [hstandard]
    decide
  have htids : .error (.prompt .idsExhausted) ∉ (resumed.history ("clear" :: rebuilding)).map (·.1) := by
    rw [hresumed]
    decide
  obtain ⟨-, -, -, -, -, -, hfiles⟩ := cleared_runs_agree .standard reachable_resumed rfl rebuilding hsids htids
  exact ⟨.standard, reachable_resumed, rfl, hsids, htids, by decide +kernel, by decide +kernel, hfiles⟩

end Session

end PromptCad
