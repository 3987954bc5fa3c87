import PromptCad.Proofs.Prompt.Parse
import PromptCad.Proofs.Session.Save

/-! What the text of an id tells: the kind of the primitive and the number that the counter had, and nothing else. So an
id with a number past those of a model is not in the model, whatever other ids are there. -/

namespace PromptCad

namespace Model

theorem last_dash_unique {a b a' b' : List Char} (hb : '-' ∉ b) (hb' : '-' ∉ b') (h : a ++ '-' :: b = a' ++ '-' :: b') :
    a = a' ∧ b = b' := by
  have hafter : afterLastDash? (a ++ '-' :: b) = some b := afterLastDash?_eq_some.mpr ⟨a, rfl, hb⟩
  have hafter' : afterLastDash? (a ++ '-' :: b) = some b' := afterLastDash?_eq_some.mpr ⟨a', h, hb'⟩
  obtain rfl := Option.some.inj (hafter.symm.trans hafter')
  exact ⟨List.append_cancel_right h, rfl⟩

end Model

namespace IdCounter

theorem idText_cut (kind : Kind) (n : ℕ) {a b : List Char} :
    ((idText kind n).toList = a ++ '-' :: b ∧ '-' ∉ b) ↔ a = kind.idStem.toList ∧ b = Decimal.natChars n := by
  rw [toList_idText]
  constructor
  · rintro ⟨h, hb⟩
    obtain ⟨rfl, rfl⟩ := Model.last_dash_unique (dash_not_mem_natChars n) hb h
    exact ⟨rfl, rfl⟩
  · rintro ⟨rfl, rfl⟩
    exact ⟨rfl, dash_not_mem_natChars n⟩

theorem idStem_injective {kind kind' : Kind} (h : kind.idStem = kind'.idStem) : kind = kind' := by
  have hkind : ∀ k : Kind, Kind.ofStem? k.idStem = some k := fun k => by cases k <;> decide
  exact Option.some.inj ((hkind kind).symm.trans (h ▸ hkind kind'))

theorem idText_inj {kind kind' : Kind} {n n' : ℕ} : idText kind n = idText kind' n' ↔ kind = kind' ∧ n = n' := by
  constructor
  · intro h
    obtain ⟨hstem, hnumeral⟩ := (idText_cut kind n).mp
      ⟨(congrArg String.toList h).trans (toList_idText kind' n'), dash_not_mem_natChars n'⟩
    refine ⟨idStem_injective (String.toList_injective hstem.symm), ?_⟩
    rw [← Decimal.readDigits_natChars n, ← hnumeral, Decimal.readDigits_natChars]
  · rintro ⟨rfl, rfl⟩
    rfl

/-- Past the numbers of a model its ids are free, also where its other ids end in no number that counts. -/
theorem idText_not_mem {m : Model} {n : ℕ} (h : m.highestIdNumber < n) (hn : n ≤ last) (kind : Kind) :
    idText kind n ∉ m.ids := by
  intro hmem
  obtain ⟨p, hp, hid⟩ := List.mem_map.mp hmem
  have hle := Model.highestIdNumber_le.mp (Nat.le_refl _) p hp n (hid ▸ idNumber?_idText kind hn)
  omega

end IdCounter

namespace Session

/-- The counter of a loaded session is past all numbers of its model. -/
theorem highestIdNumber_lt_of_load {bytes : ByteArray} {settings : Settings} {s : Session}
    (h : load bytes settings = .ok s) : s.model.highestIdNumber < s.ids.next := by
  obtain ⟨-, text, d, -, -, hsession⟩ := load_eq_ok.mp h
  obtain ⟨-, -, ids, hids, rfl⟩ := Saved.session_eq_ok.mp hsession
  obtain ⟨-, rfl⟩ := Saved.freshIds_eq_ok.mp hids
  exact Nat.lt_of_succ_le (Nat.le_max_right _ _)

/-- An id that is given out falls at its last dash into the stem of the kind and a numeral that reads as the number of
the counter, and no two ids of different kinds or numbers are the same. None with a number past those of a model is an
id of it, and so neither is any that the counter of a loaded session gives out from then on. -/
theorem ids_tell_kind_and_number :
    (∀ (ids : IdCounter) (solid : Solid),
      (∃ p next, ids.issue solid = .ok (p, next)) ↔ ids.next < IdCounter.last ∧ solid.check = .ok ()) ∧
      (∀ (ids next : IdCounter) (solid : Solid) (p : Primitive), ids.issue solid = .ok (p, next) →
        ∃ b, Decimal.readNat? IdCounter.last b = some ids.next ∧
          ∀ a c, (p.id.toList = a ++ '-' :: c ∧ '-' ∉ c) ↔ a = solid.kind.idStem.toList ∧ c = b) ∧
      (∀ (kind kind' : Kind) (n n' : ℕ),
        IdCounter.idText kind n = IdCounter.idText kind' n' ↔ kind = kind' ∧ n = n') ∧
      (∀ (m : Model) (n : ℕ), m.highestIdNumber < n → n ≤ IdCounter.last →
        ∀ kind, IdCounter.idText kind n ∉ m.ids) ∧
      ∀ (bytes : ByteArray) (settings : Settings) (s : Session), load bytes settings = .ok s →
        ∀ n, s.ids.next ≤ n → n ≤ IdCounter.last → ∀ kind, IdCounter.idText kind n ∉ s.model.ids := by
  refine ⟨fun ids solid => ⟨?_, ?_⟩, ?_, fun _ _ _ _ => IdCounter.idText_inj, fun m n h hn kind => ?_, ?_⟩
  · rintro ⟨p, next, hissue⟩
    obtain ⟨hlt, hcheck, -, -⟩ := IdCounter.issue_eq_ok.mp hissue
    exact ⟨hlt, hcheck⟩
  · rintro ⟨hlt, hcheck⟩
    exact ⟨_, _, IdCounter.issue_eq_ok.mpr ⟨hlt, hcheck, rfl, rfl⟩⟩
  · intro ids next solid p hissue
    obtain ⟨hlt, -, rfl, -⟩ := IdCounter.issue_eq_ok.mp hissue
    exact ⟨Decimal.natChars ids.next, Decimal.readNat?_natChars (Nat.le_of_lt hlt), fun a c =>
      IdCounter.idText_cut solid.kind ids.next⟩
  · exact IdCounter.idText_not_mem h hn kind
  · intro bytes settings s hload n hnext hn kind
    exact IdCounter.idText_not_mem (Nat.lt_of_lt_of_le (highestIdNumber_lt_of_load hload) hnext) hn kind

/-- Ids of other hands, with two dashes, a sign and zeros, a number that is too great and no dash at all, and a counter
that lags behind them. -/
def foreign : Saved :=
  let ball (id : String) : Primitive := ⟨id, .sphere 1, .origin⟩
  ⟨⟨1, [ball "a-b-7", ball "box-+006", ball "box-18446744073709551616", ball "box"], [], 256⟩, ⟨0⟩⟩

theorem load_foreign :
    load (String.ofList (foreign.toRon.print 0)).toUTF8 .standard = .ok ⟨foreign.model, ⟨8⟩, .standard⟩ := by
  have hvalid : foreign.Valid := by
    refine ⟨fun p hp => ?_, by decide⟩
    have hall : ∀ p ∈ foreign.model.primitives, p.solid.check = .ok () ∧ p.position.isFinite = true := by decide
    exact ⟨(hall p hp).1, (hall p hp).2⟩
  have htext := Saved.ofText_save (d := foreign) (by decide) hvalid
  refine load_eq_ok.mpr ⟨by decide, _, _, Text.decode_toUTF8 _, htext, ?_⟩
  exact Saved.session_eq_ok.mpr ⟨by decide, by decide, ⟨8⟩, by decide, rfl⟩

/-- The last number but one is given out, and the lagging counter is moved past the number after the two dashes. -/
theorem ids_tell_kind_and_number_foreign :
    (IdCounter.last - 1 < IdCounter.last ∧ Solid.check (.cube 1) = .ok () ∧
      ∃ p next, IdCounter.issue ⟨IdCounter.last - 1⟩ (.cube 1) = .ok (p, next) ∧
        ∀ a c, (p.id.toList = a ++ '-' :: c ∧ '-' ∉ c) ↔ a = "box".toList ∧ c = "18446744073709551614".toList) ∧
      (foreign.model.highestIdNumber = 7 ∧ ∀ kind, IdCounter.idText kind 8 ∉ foreign.model.ids) ∧
      ∃ s, load (String.ofList (foreign.toRon.print 0)).toUTF8 .standard = .ok s ∧ s.ids.next = 8 ∧
        s.model.ids = foreign.model.ids ∧
        ∀ n, 8 ≤ n → n ≤ IdCounter.last → ∀ kind, IdCounter.idText kind n ∉ s.model.ids := by
  obtain ⟨hissued, hcut, -, hmodel, hload⟩ := ids_tell_kind_and_number
  have hhighest : foreign.model.highestIdNumber = 7 := by decide
  obtain ⟨p, next, hissue⟩ := (hissued ⟨IdCounter.last - 1⟩ (.cube 1)).mpr ⟨by decide, by decide⟩
  obtain ⟨b, -, hcut⟩ := hcut _ _ _ p hissue
  have hid : p.id.toList = "box".toList ++ '-' :: "18446744073709551614".toList := by
    obtain ⟨-, -, rfl, -⟩ := IdCounter.issue_eq_ok.mp hissue
    decide
  obtain ⟨-, rfl⟩ := (hcut _ _).mp ⟨hid, by decide⟩
  exact ⟨⟨by decide, by decide, p, next, hissue, hcut⟩,
    ⟨hhighest, hmodel _ 8 (by rw [hhighest]; decide) (by decide)⟩, _, load_foreign, rfl, rfl, hload _ _ _ load_foreign⟩

end Session

end PromptCad
