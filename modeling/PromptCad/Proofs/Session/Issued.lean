import PromptCad.Proofs.Prompt.Outcome
import PromptCad.Proofs.Session.Rejected
import PromptCad.Proofs.Session.Save

/-! The ids that a session gives out between two resets. They are numbered from the counter on without a gap, whatever
prompts are refused and whatever primitives are cleared or replaced between, and through saving and loading; so none is
given out twice. The counter stops at its last number and does not start again. -/

namespace PromptCad

open IdCounter (last)

def Action.primitive? : Action → Option Primitive
  | create p | add p => some p
  | clear => none

namespace Prompt

theorem parse_exhausted {text : String} {other next ids : IdCounter} {action : Action}
    (h : parse text other = .ok (action, next)) (haction : action ≠ .clear) (hids : last ≤ ids.next) :
    parse text ids = .error .idsExhausted := by
  have houtcome : Outcome _ other (parse text other) := outcome_parse rfl
  rw [h] at houtcome
  cases houtcome with
  | clear => exact absurd rfl haction
  | @sentence m _ hm _ =>
    rw [parse_of_mem_lines rfl hm] at h ⊢
    cases hsolid : m.solid with
    | error e =>
      rw [hsolid] at h
      cases h
    | ok solid =>
      show ((ids.issue solid).map _) = _
      rw [IdCounter.issue_of_last_le hids]
      rfl

end Prompt

namespace Session

/-- What may happen to a session, other than a reset. -/
inductive Event where
  | prompt (text : String)
  /-- What the session is saved as is loaded again, with these settings. -/
  | reload (settings : Settings)

/-- The session after an event. When it is refused, that is the session before. -/
def after (s : Session) : Event → Session
  | .prompt text => s.step text
  | .reload settings => match Session.load s.save.toUTF8 settings with
    | .ok t => t
    | .error _ => s

def placed? (s : Session) : Event → Option Primitive
  | .prompt text => match s.submit text, Prompt.parse text s.ids with
    | .ok _, .ok (action, _) => action.primitive?
    | _, _ => none
  | .reload _ => none

def afterAll (s : Session) (events : List Event) : Session := events.foldl after s

def placed (s : Session) : List Event → List Primitive
  | [] => []
  | event :: events => (s.placed? event).toList ++ (s.after event).placed events

/-- What a step does to the counter and the primitives: it issues one, or neither counts nor brings in any. -/
inductive Counts (s t : Session) : Option Primitive → Prop where
  | none : t.ids = s.ids → (∀ q ∈ t.model.primitives, q ∈ s.model.primitives) → Counts s t none
  | some {p : Primitive} : s.ids.Issues p t.ids → p ∈ t.model.primitives →
      (∀ q ∈ t.model.primitives, q ∈ s.model.primitives ∨ q = p) → Counts s t (some p)

variable {s t : Session} {settings : Settings} {text : String} {event : Event} {events : List Event}

theorem Counts.refl (s : Session) : Counts s s .none := .none rfl fun _ hq => hq

theorem counts_submit (h : s.submit text = .ok t) : Counts s t (s.placed? (.prompt text)) := by
  obtain ⟨hp, rfl⟩ | ⟨p, ids, hi, ⟨hp, rfl⟩ | ⟨hp, -, rfl⟩⟩ := submit_cases h
  · simp only [placed?, h, hp]
    exact .none rfl fun q hq => absurd hq List.not_mem_nil
  · simp only [placed?, h, hp]
    exact .some hi List.mem_cons_self fun q hq => .inr (List.mem_singleton.mp hq)
  · simp only [placed?, h, hp]
    refine .some hi (List.mem_append_right _ List.mem_cons_self) fun q hq => ?_
    exact (List.mem_append.mp hq).imp_right List.mem_singleton.mp

/-- A session that is loaded from what a sound one was saved as has its primitives and its counter. -/
theorem Sound.eq_of_load (h : s.Sound) (ht : Session.load s.save.toUTF8 settings = .ok t) :
    t = ⟨{ s.model with limit := settings.primitiveLimit }, s.ids, settings⟩ := by
  obtain ⟨-, text, d, htext, hd, hsession⟩ := load_eq_ok.mp ht
  have hversion : s.model.version ≤ greatestVersion := by
    rw [h.version]
    decide
  have hsaved : Saved.ofText s.save = .ok ⟨{ s.model with limit := Model.standardLimit }, s.ids⟩ :=
    @Saved.ofText_save ⟨s.model, s.ids⟩ hversion ⟨h.primitives, h.counted⟩
  rw [Text.decode_toUTF8, Except.ok.injEq] at htext
  rw [← htext, hsaved] at hd
  cases hd
  obtain ⟨-, -, ids, hids, rfl⟩ := Saved.session_eq_ok.mp hsession
  obtain ⟨-, rfl⟩ := Saved.freshIds_eq_ok.mp hids
  have hahead : (⟨max s.ids.next (s.model.highestIdNumber + 1)⟩ : IdCounter) = s.ids := by
    rw [Nat.max_eq_left h.highestIdNumber_lt]
  exact congrArg (Session.mk { s.model with limit := settings.primitiveLimit } · settings) hahead

theorem after_of_load (h : Session.load s.save.toUTF8 settings = .ok t) : s.after (.reload settings) = t := by
  rw [Session.after, h]

theorem after_of_load_error {e : Error} (h : Session.load s.save.toUTF8 settings = .error e) :
    s.after (.reload settings) = s := by
  rw [Session.after, h]

theorem Sound.after (h : s.Sound) (event : Event) : (s.after event).Sound := by
  cases event with
  | prompt text => exact h.step text
  | reload settings => cases ht : Session.load s.save.toUTF8 settings with
    | ok t =>
      rw [after_of_load ht]
      exact sound_of_load ht
    | error e =>
      rw [after_of_load_error ht]
      exact h

theorem Sound.counts (h : s.Sound) (event : Event) : Counts s (s.after event) (s.placed? event) := by
  cases event with
  | prompt text => cases ht : s.submit text with
    | ok t =>
      rw [Session.after, step_of_submit ht]
      exact counts_submit ht
    | error e =>
      rw [Session.after, step_of_error ht]
      simp only [placed?, ht]
      exact .refl s
  | reload settings => cases ht : Session.load s.save.toUTF8 settings with
    | ok t =>
      rw [after_of_load ht, h.eq_of_load ht]
      exact .none rfl fun q hq => hq
    | error e =>
      rw [after_of_load_error ht]
      exact .refl s

theorem Sound.afterAll (h : s.Sound) (events : List Event) : (s.afterAll events).Sound := by
  induction events generalizing s with
  | nil => exact h
  | cons event events ih => exact ih (h.after event)

theorem Sound.next_afterAll (h : s.Sound) (events : List Event) :
    (s.afterAll events).ids.next = s.ids.next + (s.placed events).length := by
  induction events generalizing s with
  | nil => rfl
  | cons event events ih =>
    have hnext : ((s.after event).afterAll events).ids.next = _ := ih (h.after event)
    have hcounts := h.counts event
    rw [Session.afterAll, List.foldl_cons, ← Session.afterAll, hnext, placed, List.length_append]
    cases hplaced : s.placed? event with
    | none =>
      rw [hplaced] at hcounts
      cases hcounts with
      | none hids _ =>
        rw [hids, Option.toList_none, List.length_nil, Nat.zero_add]
    | some p =>
      rw [hplaced] at hcounts
      cases hcounts with
      | some hi _ _ =>
        rw [hi.next_eq, Option.toList_some, List.length_singleton, Nat.add_assoc]

/-- The primitives that are put into the model have the numbers from the counter on, whatever is refused, cleared and
loaded again between. -/
theorem Sound.id_placed (h : s.Sound) {i : Nat} {p : Primitive} (hp : (s.placed events)[i]? = some p) :
    p.id = IdCounter.idText p.kind (s.ids.next + i) := by
  induction events generalizing s i with
  | nil => cases hp
  | cons event events ih =>
    have hcounts := h.counts event
    have hrest := @ih _ (h.after event)
    rw [placed] at hp
    generalize s.placed? event = first at hcounts hp
    cases hcounts with
    | none hids _ =>
      rw [hids] at hrest
      exact hrest hp
    | some hissues _ _ =>
      cases i with
      | zero =>
        cases hp
        exact hissues.id_eq
      | succ i =>
        rw [hissues.next_eq] at hrest
        have hid := hrest hp
        rw [Nat.add_assoc, Nat.add_comm 1 i] at hid
        exact hid

theorem Sound.mem_afterAll (h : s.Sound) {q : Primitive} (hq : q ∈ (s.afterAll events).model.primitives) :
    q ∈ s.model.primitives ∨ q ∈ s.placed events := by
  induction events generalizing s with
  | nil => exact .inl hq
  | cons event events ih =>
    have hcounts := h.counts event
    rw [placed, List.mem_append]
    generalize s.placed? event = first at hcounts
    rcases ih (h.after event) hq with hq | hq
    · cases hcounts with
      | none _ hold => exact .inl (hold q hq)
      | some _ _ hold => exact (hold q hq).imp_right fun he => .inl (List.mem_cons.mpr (.inl he))
    · exact .inr (.inr hq)

theorem Sound.number_placed (h : s.Sound) {i : Nat} {p : Primitive} (hp : (s.placed events)[i]? = some p) :
    Model.idNumber? p.id = some (s.ids.next + i) := by
  have hlt : i < (s.placed events).length := (List.getElem?_eq_some_iff.mp hp).1
  have hlast := (h.afterAll events).counted
  rw [h.next_afterAll events] at hlast
  rw [h.id_placed hp]
  exact IdCounter.idNumber?_idText p.kind (by omega)

theorem Sound.numbers_placed (h : s.Sound) (events : List Event) :
    ((s.placed events).map (·.id)).map Model.idNumber? =
      (List.range' s.ids.next (s.placed events).length).map some := by
  refine List.ext_getElem (by simp) fun i hi hi' => ?_
  simp only [List.getElem_map, List.getElem_range', Nat.one_mul]
  exact h.number_placed (List.getElem?_eq_getElem _)

/-- An id that is given out differs from all that were there and from all others that are given out. -/
theorem Sound.nodup_placed (h : s.Sound) (events : List Event) :
    (s.model.ids ++ (s.placed events).map (·.id)).Nodup := by
  have hnumbers : (((s.placed events).map (·.id)).map Model.idNumber?).Nodup := by
    rw [h.numbers_placed]
    exact (List.nodup_range' 1 Nat.one_pos).map (Option.some_injective Nat)
  refine List.nodup_append.mpr ⟨h.distinct, hnumbers.of_map _, ?_⟩
  rintro _ hold _ hnew rfl
  obtain ⟨q, hq, hqid⟩ := List.mem_map.mp hold
  obtain ⟨p, hp, hpid⟩ := List.mem_map.mp hnew
  obtain ⟨i, hi⟩ := List.mem_iff_getElem?.mp hp
  have hnumber := h.number_placed hi
  rw [hpid, ← hqid] at hnumber
  have hbelow := h.ahead q hq (s.ids.next + i) hnumber
  omega

theorem Sound.mem_after (h : s.Sound) {p : Primitive} (hp : p ∈ s.placed? event) :
    p ∈ (s.after event).model.primitives := by
  have hcounts := h.counts event
  rw [Option.mem_def.mp hp] at hcounts
  cases hcounts with
  | some _ hmem _ => exact hmem

theorem perform_submit_exhausted {other next : IdCounter} {action : Action} (hids : last ≤ s.ids.next)
    (h : Prompt.parse text other = .ok (action, next)) (haction : action ≠ .clear) :
    (InPlace.submit text).perform s = (.error (.prompt .idsExhausted), s) := by
  refine perform_submit_eq_error.mpr ⟨?_, rfl⟩
  rw [Session.submit, Prompt.parse_exhausted h haction hids]

/-- The primitives that a session comes to hold get the numbers from its counter on, one each; so no id is given out
twice, nor one that was there before, though its primitive has long been cleared. At its last number the counter stays,
and then a prompt for a primitive does nothing. -/
theorem ids_never_repeat (h : s.Reachable) (events : List Event) :
    (∀ i p, (s.placed events)[i]? = some p →
        p.id = p.kind.idStem ++ "-" ++ Decimal.natText (s.ids.next + i)) ∧
      (s.model.ids ++ (s.placed events).map (·.id)).Nodup ∧
      (∀ event, ∀ p ∈ (s.afterAll events).placed? event,
        p ∈ ((s.afterAll events).after event).model.primitives) ∧
      (∀ q ∈ (s.afterAll events).model.primitives, q ∈ s.model.primitives ∨ q ∈ s.placed events) ∧
      (s.afterAll events).ids.next = s.ids.next + (s.placed events).length ∧
      (s.afterAll events).ids.next ≤ 2 ^ 64 - 1 ∧
      ((s.afterAll events).ids.next = 2 ^ 64 - 1 →
        ∀ text other action next, Prompt.parse text other = .ok (action, next) → action ≠ .clear →
          (InPlace.submit text).perform (s.afterAll events) =
            (.error (.prompt .idsExhausted), s.afterAll events)) := by
  have hs := h.sound
  have hlast := hs.afterAll events
  refine ⟨fun i p hp => hs.id_placed hp, hs.nodup_placed events, fun event p hp => hlast.mem_after hp,
    fun q hq => hs.mem_afterAll hq, hs.next_afterAll events, hlast.counted, ?_⟩
  intro hspent text other action next hparse haction
  exact perform_submit_exhausted (Nat.le_of_eq hspent.symm) hparse haction

def late : String := "(model:(version:1,primitives:[]),ids:(next:18446744073709551613))"

def ending : Session := { standard with ids := ⟨18446744073709551613⟩ }

/-- The first id is given out, and its primitive is gone, before the session is saved and loaded. -/
def spending : List Event :=
  [.prompt "cube 2mm", .prompt "undo", .prompt "clear", .reload { Settings.standard with primitiveLimit := 1 },
    .prompt "add sphere radius 1mm"]

theorem reachable_ending : Reachable ending := by
  have htext : ((Saved.ofText late).toOption.bind fun d => (d.session .standard).toOption) = some ending := by
    unfold Saved.ofText late
    rw [String.toList_ofList]
    decide
  exact .load (load_of_text (by decide) htext)

theorem ids_spent :
    ending.Reachable ∧
      (ending.placed spending).map (·.id) = ["box-18446744073709551613", "sphere-18446744073709551614"] ∧
      (ending.model.ids ++ (ending.placed spending).map (·.id)).Nodup ∧
      (ending.afterAll spending).ids.next = ending.ids.next + (ending.placed spending).length ∧
      (InPlace.submit "cube 2mm").perform (ending.afterAll spending) =
        (.error (.prompt .idsExhausted), ending.afterAll spending) := by
  obtain ⟨-, hnodup, -, -, hnext, -, hspent⟩ := ids_never_repeat reachable_ending spending
  have hcleared : ((ending.after (.prompt "cube 2mm")).after (.prompt "undo")).after (.prompt "clear") =
      { ending with ids := ⟨18446744073709551614⟩ } := by decide
  have hsound : Sound { ending with ids := ⟨18446744073709551614⟩ } :=
    hcleared ▸ ((reachable_ending.sound.after _).after _).after _
  have hloaded : Session.after { ending with ids := ⟨18446744073709551614⟩ }
      (.reload { Settings.standard with primitiveLimit := 1 }) = _ :=
    after_of_load (hsound.load_toUTF8 (by decide) (by decide))
  have hplaced : (ending.placed spending).map (·.id) =
      ["box-18446744073709551613", "sphere-18446744073709551614"] := by
    simp only [spending, placed, hcleared, hloaded]
    decide +kernel
  have hcount : (ending.placed spending).length = 2 := by
    rw [← List.length_map (·.id), hplaced]
    rfl
  have hparse : (Prompt.parse "cube 2mm" {}).toOption = some (.create ⟨"box-1", .cube 2, .origin⟩, ⟨2⟩) := by
    decide
  refine ⟨reachable_ending, hplaced, hnodup, hnext, ?_⟩
  exact hspent (by rw [hnext, hcount]; rfl) "cube 2mm" {} _ _ (toOption_eq_some.mp hparse) (by decide)

end Session

end PromptCad
