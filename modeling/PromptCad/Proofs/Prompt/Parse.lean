import PromptCad.Prompt.Action
import PromptCad.Proofs.Except
import PromptCad.Proofs.Model.Check

/-! What a parsed prompt is: the word that clears, or a primitive that the counter has just given its next id. -/

namespace PromptCad

namespace IdCounter

theorem toList_idText (kind : Kind) (n : Nat) :
    (idText kind n).toList = kind.idStem.toList ++ '-' :: Decimal.natChars n := by
  simp [idText, Decimal.natText]

theorem dash_not_mem_natChars (n : Nat) : '-' ∉ Decimal.natChars n := by
  intro hm
  exact absurd (Decimal.isDigit_of_mem_natChars '-' hm) (by decide)

theorem idNumber?_idText (kind : Kind) {n : Nat} (h : n ≤ last) : Model.idNumber? (idText kind n) = some n :=
  Model.idNumber?_eq_some.mpr ⟨kind.idStem.toList, Decimal.natChars n, toList_idText kind n, dash_not_mem_natChars n,
    Decimal.readNat?_natChars h⟩

/-- The counter gives its number to a valid primitive at the origin and moves on by one; it never gives out its last
number. -/
theorem issue_eq_ok {ids next : IdCounter} {solid : Solid} {p : Primitive} :
    ids.issue solid = .ok (p, next) ↔
      ids.next < last ∧ solid.check = .ok () ∧ p = ⟨idText solid.kind ids.next, solid, .origin⟩ ∧
        next = ⟨ids.next + 1⟩ := by
  unfold issue
  split
  · next h =>
    simp only [reduceCtorEq, false_iff]
    rintro ⟨hlt, -⟩
    omega
  · next h =>
    rw [bind_eq_ok]
    constructor
    · rintro ⟨q, hq, he⟩
      obtain ⟨hs, rfl⟩ := Primitive.make_eq_ok.mp hq
      cases he
      exact ⟨by omega, hs, rfl, rfl⟩
    · rintro ⟨-, hs, rfl, rfl⟩
      exact ⟨_, Primitive.make_eq_ok.mpr ⟨hs, rfl⟩, rfl⟩

theorem issue_of_last_le {ids : IdCounter} {solid : Solid} (h : last ≤ ids.next) :
    ids.issue solid = .error .idsExhausted := by
  rw [issue, if_pos h]

/-- The primitive is one that the counter gives out, and the other counter is the one after it. -/
def Issues (ids : IdCounter) (p : Primitive) (next : IdCounter) : Prop := ∃ solid, ids.issue solid = .ok (p, next)

namespace Issues

variable {ids next : IdCounter} {p : Primitive}

theorem lt_last (h : ids.Issues p next) : ids.next < last := by
  obtain ⟨solid, hs⟩ := h
  exact (issue_eq_ok.mp hs).1

theorem next_eq (h : ids.Issues p next) : next = ⟨ids.next + 1⟩ := by
  obtain ⟨solid, hs⟩ := h
  exact (issue_eq_ok.mp hs).2.2.2

theorem valid (h : ids.Issues p next) : p.Valid := by
  obtain ⟨solid, hs⟩ := h
  obtain ⟨-, hc, rfl, -⟩ := issue_eq_ok.mp hs
  exact ⟨hc, Primitive.isFinite_origin⟩

theorem id_eq (h : ids.Issues p next) : p.id = idText p.kind ids.next := by
  obtain ⟨solid, hs⟩ := h
  obtain ⟨-, -, rfl, -⟩ := issue_eq_ok.mp hs
  rfl

theorem idNumber? (h : ids.Issues p next) : Model.idNumber? p.id = some ids.next := by
  rw [h.id_eq]
  exact idNumber?_idText p.kind (Nat.le_of_lt h.lt_last)

end Issues

end IdCounter

namespace Prompt

theorem issues_of_build {text : List Char} {unsupported : String → PromptError} {ids next : IdCounter} {p : Primitive}
    (h : build text unsupported ids = .ok (p, next)) : ids.Issues p next := by
  obtain ⟨found, -, h⟩ := bind_eq_ok.mp h
  cases found with
  | none => cases h
  | some sentence =>
    obtain ⟨solid, -, h⟩ := bind_eq_ok.mp h
    exact ⟨solid, h⟩

/-- A prompt that is understood clears, leaving the counter alone, or names a primitive with the next id. -/
theorem parse_cases {text : String} {ids next : IdCounter} {action : Action}
    (h : parse text ids = .ok (action, next)) :
    (action = .clear ∧ next = ids) ∨ ∃ p, ids.Issues p next ∧ (action = .create p ∨ action = .add p) := by
  simp only [parse] at h
  split at h
  · cases h
  · split at h
    · cases h
      exact .inl ⟨rfl, rfl⟩
    · right
      split at h
      · next verb rest hv =>
        obtain ⟨⟨p, ids'⟩, hb, h⟩ := bind_eq_ok.mp h
        cases h
        refine ⟨p, issues_of_build hb, ?_⟩
        cases verb with
        | create => exact .inl rfl
        | add => exact .inr rfl
      · obtain ⟨⟨p, ids'⟩, hb, h⟩ := bind_eq_ok.mp h
        cases h
        exact ⟨p, issues_of_build hb, .inl rfl⟩

end Prompt

end PromptCad
