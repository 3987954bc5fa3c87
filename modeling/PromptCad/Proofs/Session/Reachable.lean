import PromptCad.Proofs.Prompt.Parse
import PromptCad.Proofs.Session.Load
import PromptCad.Proofs.Settings

/-! The sessions that a program can come to hold, and what is true of all of them. Nothing compares the id of a new
primitive with those that are there: that ids differ rests on the counter being past the number of every id, which
each step has to keep and each load has to bring about. -/

namespace PromptCad.Session

/-- The sessions that come about from a new one, or from bytes that load, by prompts of any kind, by resets, and by
loading again what was saved after any change to its bytes. -/
inductive Reachable : Session → Prop where
  | standard : Reachable .standard
  | start {settings : Settings} {s : Session} : Session.start settings = .ok s → Reachable s
  | load {bytes : ByteArray} {settings : Settings} {s : Session} : Session.load bytes settings = .ok s → Reachable s
  | submit {s : Session} (text : String) : Reachable s → Reachable (s.step text)
  | reset {s : Session} : Reachable s → Reachable s.reset
  | reload {s t : Session} (edit : ByteArray → ByteArray) {settings : Settings} :
      Reachable s → Session.load (edit s.save.toUTF8) settings = .ok t → Reachable t

/-- What holds between the parts of a session. The counter is ahead of the number at the end of every id. -/
structure Sound (s : Session) : Prop where
  settings : s.settings.Valid
  version : s.model.version = Model.currentVersion
  distinct : s.model.ids.Nodup
  operands : ∀ o ∈ s.model.operations, ∀ id ∈ o.operands, id ∈ s.model.ids
  limit : s.model.limit = s.settings.primitiveLimit
  fits : s.model.primitives.length ≤ s.model.limit
  primitives : ∀ p ∈ s.model.primitives, p.Valid
  positive : 1 ≤ s.ids.next
  counted : s.ids.next ≤ IdCounter.last
  ahead : ∀ p ∈ s.model.primitives, ∀ n, Model.idNumber? p.id = some n → n < s.ids.next

variable {s t : Session} {settings : Settings} {text : String}

theorem Sound.check (h : s.Sound) : s.model.check = .ok () :=
  Model.check_eq_ok.mpr ⟨h.version, h.distinct, h.operands⟩

/-- An accepted prompt clears the model, or puts a primitive with the next id into it, alone or after the others. -/
theorem submit_cases (h : s.submit text = .ok t) :
    (Prompt.parse text s.ids = .ok (.clear, s.ids) ∧ t = { s with model := s.model.clear }) ∨
    ∃ p ids, s.ids.Issues p ids ∧
      ((Prompt.parse text s.ids = .ok (.create p, ids) ∧ t = { s with model := s.model.create p, ids }) ∨
       (Prompt.parse text s.ids = .ok (.add p, ids) ∧ s.model.primitives.length < s.model.limit ∧
          t = { s with model := { s.model with primitives := s.model.primitives ++ [p] }, ids })) := by
  unfold submit at h
  split at h
  · cases h
  · next action ids hp =>
    obtain ⟨rfl, rfl⟩ | ⟨p, hi, rfl | rfl⟩ := Prompt.parse_cases hp
    · cases h
      exact .inl ⟨hp, rfl⟩
    · cases h
      exact .inr ⟨p, ids, hi, .inl ⟨hp, rfl⟩⟩
    · split at h
      · cases h
      · next model hm =>
        obtain ⟨hlt, rfl⟩ := Model.add_eq_ok.mp hm
        cases h
        exact .inr ⟨p, ids, hi, .inr ⟨hp, hlt, rfl⟩⟩

theorem sound_empty (h : settings.Valid) {ids : IdCounter} (hpos : 1 ≤ ids.next) (hle : ids.next ≤ IdCounter.last) :
    Sound ⟨.withLimit settings.primitiveLimit, ids, settings⟩ where
  settings := h
  version := rfl
  distinct := List.nodup_nil
  operands := by simp [Model.withLimit]
  limit := rfl
  fits := Nat.zero_le _
  primitives := by simp [Model.withLimit]
  positive := hpos
  counted := hle
  ahead := by simp [Model.withLimit]

theorem Sound.clear (h : s.Sound) : Sound { s with model := s.model.clear } :=
  { h with
    distinct := List.nodup_nil
    operands := by simp [Model.clear]
    fits := Nat.zero_le _
    primitives := by simp [Model.clear]
    ahead := by simp [Model.clear] }

theorem number_lt_of_issues {p : Primitive} {ids ids' : IdCounter} (hi : ids.Issues p ids') {n : Nat}
    (hn : Model.idNumber? p.id = some n) : n < ids'.next := by
  obtain rfl : ids.next = n := Option.some.inj (hi.idNumber?.symm.trans hn)
  rw [hi.next_eq]
  exact Nat.lt_succ_self _

/-- The next id is new: its number is the counter, and every number in the model is below the counter. -/
theorem Sound.issued_not_mem (h : s.Sound) {p : Primitive} {ids : IdCounter} (hi : s.ids.Issues p ids) :
    p.id ∉ s.model.ids := by
  intro hm
  obtain ⟨q, hq, hid⟩ := List.mem_map.mp hm
  exact absurd (h.ahead q hq s.ids.next (hid ▸ hi.idNumber?)) (Nat.lt_irrefl _)

theorem Sound.create (h : s.Sound) {p : Primitive} {ids : IdCounter} (hi : s.ids.Issues p ids) :
    Sound { s with model := s.model.create p, ids } :=
  { h with
    distinct := by simp [Model.create, Model.ids]
    operands := by simp [Model.create]
    fits := by
      have hone := h.settings.limit.1
      rw [← h.limit] at hone
      exact hone
    primitives := by simpa [Model.create] using hi.valid
    positive := hi.next_eq ▸ Nat.succ_le_succ (Nat.zero_le _)
    counted := hi.next_eq ▸ hi.lt_last
    ahead := by
      intro q hq n hn
      obtain rfl : q = p := List.mem_singleton.mp hq
      exact number_lt_of_issues hi hn }

theorem Sound.add (h : s.Sound) {p : Primitive} {ids : IdCounter} (hi : s.ids.Issues p ids)
    (hlt : s.model.primitives.length < s.model.limit) :
    Sound { s with model := { s.model with primitives := s.model.primitives ++ [p] }, ids } := by
  have hids : Model.ids { s.model with primitives := s.model.primitives ++ [p] } = s.model.ids ++ [p.id] := by
    simp only [Model.ids, List.map_append, List.map_cons, List.map_nil]
  refine { h with
    distinct := ?_
    operands := ?_
    fits := ?_
    primitives := ?_
    positive := hi.next_eq ▸ Nat.succ_le_succ (Nat.zero_le _)
    counted := hi.next_eq ▸ hi.lt_last
    ahead := ?_ }
  · show (Model.ids _).Nodup
    rw [hids]
    refine List.nodup_append.mpr ⟨h.distinct, by simp, ?_⟩
    rintro a ha b hb rfl
    exact h.issued_not_mem hi (List.mem_singleton.mp hb ▸ ha)
  · intro o ho id hid
    show id ∈ Model.ids _
    rw [hids]
    exact List.mem_append_left _ (h.operands o ho id hid)
  · simp only [List.length_append, List.length_singleton]
    omega
  · intro q hq
    rcases List.mem_append.mp hq with hq | hq
    · exact h.primitives q hq
    · exact List.mem_singleton.mp hq ▸ hi.valid
  · intro q hq n hn
    rcases List.mem_append.mp hq with hq | hq
    · simp only [hi.next_eq]
      exact Nat.lt_succ_of_lt (h.ahead q hq n hn)
    · obtain rfl : q = p := List.mem_singleton.mp hq
      exact number_lt_of_issues hi hn

theorem Sound.submit (h : s.Sound) (ht : s.submit text = .ok t) : t.Sound := by
  obtain ⟨-, rfl⟩ | ⟨p, ids, hi, ⟨-, rfl⟩ | ⟨-, hlt, rfl⟩⟩ := submit_cases ht
  · exact h.clear
  · exact h.create hi
  · exact h.add hi hlt

/-- A prompt keeps a session sound whether it is accepted or not. -/
theorem Sound.step (h : s.Sound) (text : String) : (s.step text).Sound := by
  unfold Session.step
  split
  · next t ht => exact h.submit ht
  · exact h

theorem Sound.reset (h : s.Sound) : s.reset.Sound :=
  sound_empty h.settings (Nat.le_refl 1) (by decide)

theorem sound_standard : Sound .standard :=
  sound_empty Settings.valid_standard (Nat.le_refl 1) (by decide)

theorem sound_of_start (h : Session.start settings = .ok s) : s.Sound := by
  unfold Session.start at h
  split at h
  · cases h
  · next hc =>
    cases h
    exact sound_empty (Settings.check_eq_ok.mp hc) (Nat.le_refl 1) (by decide)

/-- Whatever a text says, the session that it gives is sound: the model is checked, and the counter is moved past the
numbers of its ids. -/
theorem sound_of_load {bytes : ByteArray} (h : Session.load bytes settings = .ok s) : s.Sound := by
  obtain ⟨hset, text, d, -, hd, hs⟩ := load_eq_ok.mp h
  obtain ⟨hprim, hids⟩ := Saved.valid_of_ofText hd
  obtain ⟨hcheck, hle, ids, hfresh, rfl⟩ := Saved.session_eq_ok.mp hs
  obtain ⟨hversion, hdistinct, hoperands⟩ := Model.check_eq_ok.mp hcheck
  obtain ⟨hlt, rfl⟩ := Saved.freshIds_eq_ok.mp hfresh
  refine ⟨Settings.check_eq_ok.mp hset, hversion, hdistinct, hoperands, rfl, hle, hprim, ?_, ?_, ?_⟩
  · exact Nat.le_trans (Nat.succ_le_succ (Nat.zero_le _)) (Nat.le_max_right _ _)
  · exact Nat.max_le.mpr ⟨hids, hlt⟩
  · intro p hp n hn
    have := Model.highestIdNumber_le.mp (Nat.le_refl _) p hp n hn
    exact Nat.lt_of_lt_of_le (Nat.lt_succ_of_le this) (Nat.le_max_right _ _)

theorem Reachable.sound (h : Reachable s) : s.Sound := by
  induction h with
  | standard => exact sound_standard
  | start hs => exact sound_of_start hs
  | load hs => exact sound_of_load hs
  | submit text _ ih => exact ih.step text
  | reset _ ih => exact ih.reset
  | reload edit _ hs _ => exact sound_of_load hs

/-- What every session keeps, however it came about. -/
theorem reachable_invariant (h : s.Reachable) :
    s.settings.check = .ok () ∧ s.model.check = .ok () ∧
      (s.model.version = 1 ∧ s.model.ids.Nodup ∧
        ∀ o ∈ s.model.operations, o.target ∈ s.model.ids ∧ o.tool ∈ s.model.ids) ∧
      s.model.primitives.length ≤ s.model.limit ∧ s.model.limit = s.settings.primitiveLimit ∧
      (∀ p ∈ s.model.primitives, p.solid.check = .ok () ∧ p.position.isFinite = true) ∧
      (1 ≤ s.ids.next ∧ s.ids.next ≤ 2 ^ 64 - 1) ∧
      ∀ p ∈ s.model.primitives, ∀ a b n, p.id.toList = a ++ '-' :: b → '-' ∉ b →
        Decimal.readNat? (2 ^ 64 - 1) b = some n → n < s.ids.next := by
  have hs := h.sound
  have hoperands : ∀ o ∈ s.model.operations, o.target ∈ s.model.ids ∧ o.tool ∈ s.model.ids := by
    intro o ho
    have hall := hs.operands o ho
    exact ⟨hall o.target (by simp [Operation.operands]), hall o.tool (by simp [Operation.operands])⟩
  refine ⟨Settings.check_eq_ok.mpr hs.settings, hs.check, ⟨hs.version, hs.distinct, hoperands⟩, hs.fits, hs.limit,
    fun p hp => ⟨(hs.primitives p hp).sized, (hs.primitives p hp).placed⟩, ⟨hs.positive, hs.counted⟩, ?_⟩
  intro p hp a b n hid hb hn
  exact hs.ahead p hp n (Model.idNumber?_eq_some.mpr ⟨a, b, hid, hb, hn⟩)

/-- A saved text of another hand: an id with a sign before its number, a zero with a sign, an operation of a primitive
with itself, and a counter that lags behind. -/
def stale : String :=
  "(model:(version:1,primitives:[(id:\"é-+5\",shape:(kind:sphere,params:(radius_mm:0.1)),position_mm:(-0.0,5e-324,1))]," ++
    "operations:[Difference(target:\"é-+5\",tool:\"é-+5\")]),ids:(next:0))"

def adopted : Session :=
  ⟨⟨1, [⟨"é-+5", .sphere 0.1, ⟨-0.0, 5e-324, 1⟩⟩], [⟨.difference, "é-+5", "é-+5"⟩], 256⟩, ⟨6⟩, .standard⟩

def resumed : Session :=
  { adopted with
    model := { adopted.model with primitives := adopted.model.primitives ++ [⟨"box-6", .cube 2, .origin⟩] }
    ids := ⟨7⟩ }

theorem reachable_resumed : Reachable resumed := by
  have htext : ((Saved.ofText stale).toOption.bind fun d => (d.session .standard).toOption) = some adopted := by
    unfold Saved.ofText stale
    -- a text as its characters, for the kernel takes long to find them in its bytes
    rw [String.toList_append, String.toList_ofList, String.toList_ofList]
    decide +kernel
  have hstep : adopted.step "add cube 2mm" = resumed := by decide +kernel
  exact hstep ▸ Reachable.submit "add cube 2mm" (.load (load_of_text (by decide) htext))

theorem invariant_resumed :
    resumed.Reachable ∧ resumed.settings.check = .ok () ∧ resumed.model.check = .ok () ∧
      (resumed.model.version = 1 ∧ resumed.model.ids.Nodup ∧
        ∀ o ∈ resumed.model.operations, o.target ∈ resumed.model.ids ∧ o.tool ∈ resumed.model.ids) ∧
      resumed.model.primitives.length ≤ resumed.model.limit ∧
      resumed.model.limit = resumed.settings.primitiveLimit ∧
      (∀ p ∈ resumed.model.primitives, p.solid.check = .ok () ∧ p.position.isFinite = true) ∧
      (1 ≤ resumed.ids.next ∧ resumed.ids.next ≤ 2 ^ 64 - 1) ∧
      ∀ p ∈ resumed.model.primitives, ∀ a b n, p.id.toList = a ++ '-' :: b → '-' ∉ b →
        Decimal.readNat? (2 ^ 64 - 1) b = some n → n < resumed.ids.next :=
  ⟨reachable_resumed, reachable_invariant reachable_resumed⟩

end PromptCad.Session
