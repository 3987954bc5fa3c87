import PromptCad.Proofs.Model.Check
import PromptCad.Proofs.Reader.Gives
import PromptCad.Session.Saved

/-! What a saved text may hold, whoever wrote it, and when it is a session again. -/

namespace PromptCad

namespace Ron

open Reader

/-- A primitive that is read has been checked, whatever its fields said. -/
theorem gives_primitive (fuel : Nat) (scope : Scope) : (primitive fuel scope).Gives Primitive.Valid := by
  refine gives_bind_right fun _ => gives_bind_right fun parts => ?_
  refine gives_bind_right fun id => gives_bind_right fun solid => ?_
  split
  · next p hp => exact gives_pure (Primitive.valid_of_place hp)
  · next e _ => exact gives_throw _

def ModelParts.Valid (parts : ModelParts) : Prop := ∀ ps ∈ parts.primitives, ∀ p ∈ ps, p.Valid

theorem gives_modelField (fuel : Nat) (scope : Scope) (key : String) {parts : ModelParts} (h : ModelParts.Valid parts) :
    (modelField fuel scope key parts).Gives ModelParts.Valid := by
  refine gives_bind_right fun inside => gives_ite (fun _ => ?_) fun _ => gives_ite (fun _ => ?_) fun _ =>
    gives_ite (fun _ => ?_) fun _ => ?_
  · exact gives_bind_right fun _ => gives_pure h
  · refine gives_bind_right fun outer => gives_bind_right fun inner => ?_
    exact gives_bind (gives_once (gives_list (gives_primitive fuel inner) fuel)) fun ps hps => gives_pure hps
  · exact gives_bind_right fun _ => gives_bind_right fun _ => gives_bind_right fun _ => gives_pure h
  · exact gives_bind_right fun _ => gives_pure h

theorem gives_model (fuel : Nat) (scope : Scope) :
    (model fuel scope).Gives fun m => ∀ p ∈ m.primitives, p.Valid := by
  refine gives_bind_right fun inside => ?_
  refine gives_bind (gives_record (fun key _ h => gives_modelField fuel inside key h) fuel (by simp [ModelParts.Valid]))
    fun parts hparts => ?_
  refine gives_bind_right fun version => gives_bind (gives_need hparts) fun ps hps => ?_
  exact gives_pure hps

theorem gives_counter (fuel : Nat) (scope : Scope) :
    (counter fuel scope).Gives fun ids => ids.next ≤ IdCounter.last := by
  refine gives_bind_right fun inside => ?_
  have hfield : ∀ key (next : Option Nat), (∀ n ∈ next, n ≤ IdCounter.last) →
      (counterField fuel inside key next).Gives fun next => ∀ n ∈ next, n ≤ IdCounter.last := by
    intro key next h
    refine gives_ite (fun _ => gives_once (gives_natural _)) fun _ => ?_
    exact gives_bind_right fun _ => gives_bind_right fun _ => gives_pure h
  refine gives_bind (gives_record hfield fuel (by simp)) fun next hnext => ?_
  exact gives_bind (gives_need hnext) fun n hn => gives_pure hn

end Ron

/-- What is known of a saved text that has been read, before it is checked. -/
structure Saved.Valid (d : Saved) : Prop where
  primitives : ∀ p ∈ d.model.primitives, p.Valid
  ids : d.ids.next ≤ IdCounter.last

namespace Ron

open Reader

theorem gives_saved (fuel : Nat) (scope : Scope) : (saved fuel scope).Gives Saved.Valid := by
  refine gives_bind_right fun inside => ?_
  have hfield : ∀ key (parts : SavedParts),
      (∀ m ∈ parts.model, ∀ p ∈ m.primitives, p.Valid) ∧ (∀ ids ∈ parts.ids, ids.next ≤ IdCounter.last) →
      (savedField fuel inside key parts).Gives fun parts =>
        (∀ m ∈ parts.model, ∀ p ∈ m.primitives, p.Valid) ∧ (∀ ids ∈ parts.ids, ids.next ≤ IdCounter.last) := by
    rintro key parts ⟨hmodel, hids⟩
    refine gives_bind_right fun scope => gives_ite (fun _ => ?_) fun _ => gives_ite (fun _ => ?_) fun _ => ?_
    · exact gives_bind (gives_once (gives_model fuel scope)) fun m hm => gives_pure ⟨hm, hids⟩
    · exact gives_bind (gives_once (gives_counter fuel scope)) fun ids h => gives_pure ⟨hmodel, h⟩
    · exact gives_bind_right fun _ => gives_pure ⟨hmodel, hids⟩
  refine gives_bind (gives_record hfield fuel (by simp)) fun parts hparts => ?_
  refine gives_bind (gives_need hparts.1) fun m hm => gives_bind (gives_need hparts.2) fun ids hids => ?_
  exact gives_pure ⟨hm, hids⟩

end Ron

namespace Saved

theorem valid_of_ofText {text : String} {d : Saved} (h : ofText text = .ok d) : d.Valid :=
  Ron.readAll_gives Ron.gives_saved h

/-- The counter of a session that is loaded stays where it was, unless an id is already past it. -/
theorem freshIds_eq_ok {d : Saved} {ids : IdCounter} :
    d.freshIds = .ok ids ↔
      d.model.highestIdNumber < IdCounter.last ∧ ids = ⟨max d.ids.next (d.model.highestIdNumber + 1)⟩ := by
  simp only [freshIds]
  split
  · next h =>
    simp only [reduceCtorEq, false_iff]
    omega
  · next h =>
    have hmax : (if d.ids.next ≤ d.model.highestIdNumber then IdCounter.startingAt (d.model.highestIdNumber + 1)
        else d.ids) = ⟨max d.ids.next (d.model.highestIdNumber + 1)⟩ := by
      split
      · rw [IdCounter.startingAt, Nat.max_eq_left (by omega), Nat.max_eq_right (by omega)]
      · rw [Nat.max_eq_left (by omega)]
    rw [hmax, Except.ok.injEq, eq_comm]
    exact ⟨fun he => ⟨by omega, he⟩, fun ⟨_, he⟩ => he⟩

theorem session_eq_ok {d : Saved} {settings : Settings} {s : Session} :
    d.session settings = .ok s ↔
      d.model.check = .ok () ∧ d.model.primitives.length ≤ settings.primitiveLimit ∧
        ∃ ids, d.freshIds = .ok ids ∧ s = ⟨{ d.model with limit := settings.primitiveLimit }, ids, settings⟩ := by
  unfold session
  cases hc : d.model.check with
  | error fault => simp [throw, throwThe, MonadExceptOf.throw]
  | ok u =>
    simp only [true_and]
    constructor
    · intro h
      split at h
      · cases h
      · next hle =>
        obtain ⟨ids, hids, h⟩ := bind_eq_ok.mp h
        cases h
        exact ⟨by omega, ids, hids, rfl⟩
    · rintro ⟨hle, ids, hids, rfl⟩
      rw [if_neg (by omega)]
      exact bind_eq_ok.mpr ⟨ids, hids, rfl⟩

end Saved

theorem Text.fromUTF8?_toUTF8 (s : String) : String.fromUTF8? s.toUTF8 = some s := by
  have hutf8 : s.toUTF8.IsValidUTF8 := s.isValidUTF8
  rw [String.fromUTF8?, dif_pos hutf8]
  rfl

theorem Text.decode_toUTF8 (s : String) : Text.decode s.toUTF8 = .ok s := by
  rw [Text.decode, fromUTF8?_toUTF8]

theorem Session.load_eq_ok {bytes : ByteArray} {settings : Settings} {s : Session} :
    load bytes settings = .ok s ↔
      settings.check = .ok () ∧
        ∃ text d, Text.decode bytes = .ok text ∧ Saved.ofText text = .ok d ∧ d.session settings = .ok s := by
  unfold load
  cases settings.check with
  | error fault => simp
  | ok u =>
    cases Text.decode bytes with
    | error fault => simp
    | ok text =>
      cases hd : Saved.ofText text with
      | error fault => simp [hd]
      | ok d => simp [hd, mapError_eq_ok]

theorem Session.load_of_text {text : String} {settings : Settings} {s : Session} (hsettings : settings.check = .ok ())
    (h : ((Saved.ofText text).toOption.bind fun d => (d.session settings).toOption) = some s) :
    load text.toUTF8 settings = .ok s := by
  obtain ⟨d, htext, hs⟩ := Option.bind_eq_some_iff.mp h
  exact load_eq_ok.mpr
    ⟨hsettings, text, d, Text.decode_toUTF8 text, toOption_eq_some.mp htext, toOption_eq_some.mp hs⟩

end PromptCad
