import PromptCad.Model
import PromptCad.Proofs.Decimal.Numeral
import PromptCad.Proofs.Except

/-! What the checks of solids, primitives and models decide, and what the number at the end of an id is. -/

namespace PromptCad

/-- A primitive as it may be held by a model: each measure of an admitted size, and centred at a finite point. -/
structure Primitive.Valid (p : Primitive) : Prop where
  sized : p.solid.check = .ok ()
  placed : p.position.isFinite = true

namespace Primitive

theorem find?_toList_eq_none {position : Point} :
    position.toList.find? (!Float.isFinite ·) = none ↔ position.isFinite = true := by
  simp [Vec3.toList, Point.isFinite, and_assoc]

theorem make_eq_ok {id : String} {solid : Solid} {p : Primitive} :
    make id solid = .ok p ↔ solid.check = .ok () ∧ p = ⟨id, solid, .origin⟩ := by
  rw [make, check_bind_eq_ok]
  simp [pure, Except.pure, eq_comm]

theorem place_eq_ok {id : String} {solid : Solid} {position : Point} {p : Primitive} :
    place id solid position = .ok p ↔
      solid.check = .ok () ∧ position.isFinite = true ∧ p = ⟨id, solid, position⟩ := by
  unfold place
  rw [bind_eq_ok]
  constructor
  · rintro ⟨q, hq, h⟩
    obtain ⟨hs, rfl⟩ := make_eq_ok.mp hq
    split at h
    · cases h
    · next hf =>
      cases h
      exact ⟨hs, find?_toList_eq_none.mp hf, rfl⟩
  · rintro ⟨hs, hp, rfl⟩
    refine ⟨_, make_eq_ok.mpr ⟨hs, rfl⟩, ?_⟩
    rw [find?_toList_eq_none.mpr hp]
    rfl

theorem isFinite_origin : Point.origin.isFinite = true := by decide

theorem valid_of_place {id : String} {solid : Solid} {position : Point} {p : Primitive}
    (h : place id solid position = .ok p) : p.Valid := by
  obtain ⟨hs, hp, rfl⟩ := place_eq_ok.mp h
  exact ⟨hs, hp⟩

end Primitive

namespace Model

theorem firstRepeat?_eq_none {before ids : List String} :
    firstRepeat? before ids = none ↔ ids.Nodup ∧ ∀ id ∈ ids, id ∉ before := by
  induction ids generalizing before with
  | nil => simp [firstRepeat?]
  | cons id rest ih =>
    rw [firstRepeat?, List.nodup_cons]
    split
    · next h => simp [h]
    · next h =>
      rw [ih]
      constructor
      · rintro ⟨hn, hr⟩
        have hid : id ∉ rest := fun hm => hr id hm List.mem_cons_self
        refine ⟨⟨hid, hn⟩, List.forall_mem_cons.mpr ⟨h, fun i hi hb => hr i hi (List.mem_cons_of_mem _ hb)⟩⟩
      · rintro ⟨⟨hid, hn⟩, hr⟩
        refine ⟨hn, fun i hi hb => ?_⟩
        rcases List.mem_cons.mp hb with rfl | hb
        · exact hid hi
        · exact hr i (List.mem_cons_of_mem _ hi) hb

theorem firstRepeat?_eq_some {before ids : List String} {id : String} :
    firstRepeat? before ids = some id ↔
      ∃ front back, ids = front ++ id :: back ∧ firstRepeat? before front = none ∧ (id ∈ before ∨ id ∈ front) := by
  induction ids generalizing before with
  | nil => simp [firstRepeat?]
  | cons i rest ih =>
    rw [firstRepeat?]
    split
    · next hi =>
      constructor
      · rintro ⟨⟩
        exact ⟨[], rest, rfl, rfl, .inl hi⟩
      · rintro ⟨front, back, hsplit, hnone, -⟩
        cases front with
        | nil => rw [(List.cons.inj hsplit).1]
        | cons j front =>
          obtain ⟨rfl, -⟩ := List.cons.inj hsplit
          rw [firstRepeat?, if_pos hi] at hnone
          cases hnone
    · next hi =>
      rw [ih]
      constructor
      · rintro ⟨front, back, rfl, hnone, hid⟩
        refine ⟨i :: front, back, rfl, by rw [firstRepeat?, if_neg hi, hnone], ?_⟩
        rw [List.mem_cons] at hid ⊢
        tauto
      · rintro ⟨front, back, hsplit, hnone, hid⟩
        cases front with
        | nil =>
          obtain ⟨rfl, -⟩ := List.cons.inj hsplit
          exact absurd (hid.resolve_right List.not_mem_nil) hi
        | cons j front =>
          obtain ⟨rfl, rfl⟩ := List.cons.inj hsplit
          rw [firstRepeat?, if_neg hi] at hnone
          refine ⟨front, back, rfl, hnone, ?_⟩
          rw [List.mem_cons] at hid ⊢
          tauto

theorem find?_missing_eq_none {m : Model} :
    (m.operations.flatMap (·.operands)).find? (· ∉ m.ids) = none ↔
      ∀ o ∈ m.operations, ∀ id ∈ o.operands, id ∈ m.ids := by
  simp only [List.find?_eq_none, List.mem_flatMap, decide_eq_true_eq, Classical.not_not]
  exact ⟨fun h o ho id hid => h id ⟨o, ho, hid⟩, fun h id ⟨o, ho, hid⟩ => h o ho id hid⟩

/-- The check of a model decides its soundness: a version that is known, ids that differ, operands that exist. -/
theorem check_eq_ok {m : Model} :
    m.check = .ok () ↔
      m.version = currentVersion ∧ m.ids.Nodup ∧ ∀ o ∈ m.operations, ∀ id ∈ o.operands, id ∈ m.ids := by
  have hrep : firstRepeat? [] m.ids = none ↔ m.ids.Nodup := by simp [firstRepeat?_eq_none]
  rw [← find?_missing_eq_none, ← hrep, check]
  split
  · next hv => simp [hv]
  · next hv =>
    cases firstRepeat? [] m.ids with
    | some id => simp
    | none =>
      cases (m.operations.flatMap (·.operands)).find? (· ∉ m.ids) with
      | some id => simp
      | none => simpa using hv

theorem get?_isNone {m : Model} {id : String} : (m.get? id).isNone = true ↔ id ∉ m.ids := by
  simp [get?, ids]

theorem pushOperation_eq_ok {m n : Model} {o : Operation} :
    m.pushOperation o = .ok n ↔ (∀ id ∈ o.operands, id ∈ m.ids) ∧ n = { m with operations := m.operations ++ [o] } := by
  have hfind : (o.operands.find? fun id => (m.get? id).isNone) = none ↔ ∀ id ∈ o.operands, id ∈ m.ids := by
    simp only [List.find?_eq_none, get?_isNone, Classical.not_not]
  rw [← hfind, pushOperation]
  cases o.operands.find? fun id => (m.get? id).isNone with
  | some id => simp
  | none => simp [eq_comm]

theorem takeWhile_ne_append_cons {c : Char} {b : List Char} (h : c ∉ b) (a : List Char) :
    (b ++ c :: a).takeWhile (· ≠ c) = b := by
  rw [List.takeWhile_append_of_pos (by simpa using fun x hx (he : x = c) => h (he ▸ hx))]
  simp

theorem afterLastDash?_eq_some {id b : List Char} :
    afterLastDash? id = some b ↔ ∃ a, id = a ++ '-' :: b ∧ '-' ∉ b := by
  unfold afterLastDash?
  constructor
  · intro h
    split at h
    · next hm =>
      obtain rfl := Option.some.inj h
      obtain ⟨a, c, hid, ha⟩ := List.eq_append_cons_of_mem (List.mem_reverse.mpr hm)
      refine ⟨c.reverse, ?_, ?_⟩
      · rw [hid, takeWhile_ne_append_cons ha, ← List.reverse_reverse id, hid]
        simp
      · rw [hid, takeWhile_ne_append_cons ha, List.mem_reverse]
        exact ha
    · cases h
  · rintro ⟨a, rfl, hb⟩
    have hrev : (a ++ '-' :: b).reverse = b.reverse ++ '-' :: a.reverse := by simp
    rw [if_pos (by simp), hrev, takeWhile_ne_append_cons (by simpa using hb), List.reverse_reverse]

/-- The number of an id is what the text after its last dash spells in at most 64 bits. -/
theorem idNumber?_eq_some {id : String} {n : Nat} :
    idNumber? id = some n ↔
      ∃ a b, id.toList = a ++ '-' :: b ∧ '-' ∉ b ∧ Decimal.readNat? (2 ^ 64 - 1) b = some n := by
  unfold idNumber?
  rw [Option.bind_eq_some_iff]
  constructor
  · rintro ⟨b, hb, hn⟩
    obtain ⟨a, ha, hd⟩ := afterLastDash?_eq_some.mp hb
    exact ⟨a, b, ha, hd, hn⟩
  · rintro ⟨a, b, ha, hd, hn⟩
    exact ⟨b, afterLastDash?_eq_some.mpr ⟨a, ha, hd⟩, hn⟩

theorem foldl_max_le {ns : List Nat} {start bound : Nat} :
    ns.foldl max start ≤ bound ↔ start ≤ bound ∧ ∀ n ∈ ns, n ≤ bound := by
  induction ns generalizing start with
  | nil => simp
  | cons n ns ih => rw [List.foldl_cons, ih, List.forall_mem_cons, Nat.max_le, and_assoc]

theorem highestIdNumber_le {m : Model} {bound : Nat} :
    m.highestIdNumber ≤ bound ↔ ∀ p ∈ m.primitives, ∀ n, idNumber? p.id = some n → n ≤ bound := by
  unfold highestIdNumber
  rw [foldl_max_le]
  simp only [Nat.zero_le, true_and, List.mem_filterMap, ids, List.mem_map]
  constructor
  · intro h p hp n hn
    exact h n ⟨p.id, ⟨p, hp, rfl⟩, hn⟩
  · rintro h n ⟨id, ⟨p, hp, rfl⟩, hn⟩
    exact h p hp n hn

end Model

end PromptCad
