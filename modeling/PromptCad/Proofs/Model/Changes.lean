import Mathlib.Data.List.Nodup
import PromptCad.Proofs.Model.Check
import PromptCad.Proofs.Session.InPlace

/-! Models changed from outside, in any order and with primitives of any id. Operations are recorded between primitives
that are there, and no change takes a primitive away without the operations; a change that is refused does nothing. Only
ids that repeat have to be kept out by whoever makes the changes. -/

namespace PromptCad

namespace Model

inductive Change where
  | act (action : Action)
  | record (o : Operation)
  | setLimit (limit : Nat)

def change (m : Model) : Change → Except ModelError Model
  | .act action => m.apply action
  | .record o => m.pushOperation o
  | .setLimit limit => .ok { m with limit }

end Model

namespace InPlace

open Model (Change)

/-- Both operands are looked up before the operations are written. -/
def record (o : Operation) : InPlace Model ModelError Unit := do
  let m ← get
  match o.operands.find? fun id => (m.get? id).isNone with
  | some id => throw (.notFound id)
  | none => modify fun m => { m with operations := m.operations ++ [o] }

def change : Change → InPlace Model ModelError Unit
  | .act action => apply action
  | .record o => record o
  | .setLimit limit => modify fun m => { m with limit }

theorem perform_record (o : Operation) (m : Model) :
    (record o).perform m = settled m ((m.pushOperation o).map fun n => ((), n)) := by
  rw [record, perform_bind, perform_get, Model.pushOperation]
  dsimp only
  cases o.operands.find? fun id => (m.get? id).isNone with
  | some id => rfl
  | none => rfl

theorem perform_change (c : Change) (m : Model) :
    (change c).perform m = settled m ((m.change c).map fun n => ((), n)) := by
  cases c with
  | act action => exact perform_apply action m
  | record o => exact perform_record o m
  | setLimit limit => rfl

end InPlace

namespace Model

/-- A change that was asked of a model: what came of it, and the model after it. -/
structure Entry where
  before : Model
  change : Change
  outcome : Except ModelError Unit
  after : Model

/-- What comes of changes that are made in place, one after the other. -/
def history (m : Model) : List Change → List Entry
  | [] => []
  | c :: cs =>
    let done := (InPlace.change c).perform m
    ⟨m, c, done.1, done.2⟩ :: history done.2 cs

variable {m n : Model} {c : Change} {cs : List Change} {entry : Entry} {e : ModelError} {limit : Nat}

theorem map_change_history (m : Model) (cs : List Change) : (m.history cs).map (·.change) = cs := by
  induction cs generalizing m with
  | nil => rfl
  | cons c cs ih => exact congrArg (c :: ·) (ih _)

/-- Every entry is a change that was made, or one that was refused and did nothing. -/
theorem entry_cases (h : entry ∈ m.history cs) :
    (entry.outcome = .ok () ∧ entry.before.change entry.change = .ok entry.after) ∨
      ∃ e, entry.outcome = .error e ∧ entry.before.change entry.change = .error e ∧ entry.after = entry.before := by
  induction cs generalizing m with
  | nil => exact absurd h List.not_mem_nil
  | cons c cs ih =>
    rcases List.mem_cons.mp h with rfl | h
    · rw [InPlace.perform_change]
      dsimp only
      cases hc : m.change c with
      | ok n => exact .inl ⟨rfl, rfl⟩
      | error e => exact .inr ⟨e, rfl, rfl, rfl⟩
    · exact ih h

/-- What holds at first, and after an entry if it did before, holds after every entry. -/
theorem forall_history (I : Model → Prop) (hm : I m)
    (hkeep : ∀ entry ∈ m.history cs, I entry.before → I entry.after) : ∀ entry ∈ m.history cs, I entry.after := by
  induction cs generalizing m with
  | nil => exact fun entry h => absurd h List.not_mem_nil
  | cons c cs ih =>
    obtain ⟨hfirst, hrest⟩ := List.forall_mem_cons.mp hkeep
    exact List.forall_mem_cons.mpr ⟨hfirst hm, ih (hfirst hm) hrest⟩

theorem change_cases (h : m.change c = .ok n) :
    (c = .act .clear ∧ n = m.clear) ∨ (∃ p, c = .act (.create p) ∧ n = m.create p) ∨
      (∃ p, c = .act (.add p) ∧ m.primitives.length < m.limit ∧ n = { m with primitives := m.primitives ++ [p] }) ∨
      (∃ o, c = .record o ∧ (∀ id ∈ o.operands, id ∈ m.ids) ∧ n = { m with operations := m.operations ++ [o] }) ∨
      ∃ limit, c = .setLimit limit ∧ n = { m with limit } := by
  cases c with
  | act action => cases action with
    | clear => exact .inl ⟨rfl, (Except.ok.inj h).symm⟩
    | create p => exact .inr (.inl ⟨p, rfl, (Except.ok.inj h).symm⟩)
    | add p => exact .inr (.inr (.inl ⟨p, rfl, add_eq_ok.mp h⟩))
  | record o => exact .inr (.inr (.inr (.inl ⟨o, rfl, pushOperation_eq_ok.mp h⟩)))
  | setLimit limit => exact .inr (.inr (.inr (.inr ⟨limit, rfl, (Except.ok.inj h).symm⟩)))

/-- Every operand is the id of a primitive, and the version is the current one. -/
structure Consistent (m : Model) : Prop where
  version : m.version = currentVersion
  operands : ∀ o ∈ m.operations, ∀ id ∈ o.operands, id ∈ m.ids

theorem consistent_withLimit (limit : Nat) : (withLimit limit).Consistent :=
  ⟨rfl, fun _ ho => absurd ho List.not_mem_nil⟩

theorem Consistent.change (h : m.Consistent) (hc : m.change c = .ok n) : n.Consistent := by
  obtain ⟨-, rfl⟩ | ⟨p, -, rfl⟩ | ⟨p, -, -, rfl⟩ | ⟨o, -, hoperands, rfl⟩ | ⟨limit, -, rfl⟩ := change_cases hc
  · exact ⟨h.version, fun o ho => absurd ho List.not_mem_nil⟩
  · exact ⟨h.version, fun o ho => absurd ho List.not_mem_nil⟩
  · refine ⟨h.version, fun o ho id hid => ?_⟩
    rw [ids, List.map_append]
    exact List.mem_append_left _ (h.operands o ho id hid)
  · refine ⟨h.version, fun q hq => ?_⟩
    rcases List.mem_append.mp hq with hq | hq
    · exact h.operands q hq
    · exact List.mem_singleton.mp hq ▸ hoperands
  · exact ⟨h.version, h.operands⟩

theorem nodup_change (h : m.ids.Nodup) (hfresh : ∀ p, c = .act (.add p) → p.id ∉ m.ids) (hc : m.change c = .ok n) :
    n.ids.Nodup := by
  obtain ⟨-, rfl⟩ | ⟨p, -, rfl⟩ | ⟨p, hp, -, rfl⟩ | ⟨o, -, -, rfl⟩ | ⟨limit, -, rfl⟩ := change_cases hc
  · exact List.nodup_nil
  · exact List.nodup_singleton _
  · rw [ids, List.map_append]
    exact List.nodup_append_comm.mp (List.nodup_cons.mpr ⟨hfresh p hp, h⟩)
  · exact h
  · exact h

theorem length_change (h : m.limit = limit ∧ m.primitives.length ≤ limit) (hpos : 1 ≤ limit)
    (hlimit : ∀ k, c = .setLimit k → k = limit) (hc : m.change c = .ok n) :
    n.limit = limit ∧ n.primitives.length ≤ limit := by
  obtain ⟨rfl, hle⟩ := h
  obtain ⟨-, rfl⟩ | ⟨p, -, rfl⟩ | ⟨p, -, hlt, rfl⟩ | ⟨o, -, -, rfl⟩ | ⟨k, hk, rfl⟩ := change_cases hc
  · exact ⟨rfl, Nat.zero_le _⟩
  · exact ⟨rfl, hpos⟩
  · exact ⟨rfl, by rw [List.length_append]; exact hlt⟩
  · exact ⟨rfl, hle⟩
  · exact ⟨hlimit k hk, hle⟩

theorem Consistent.history (h : m.Consistent) (cs : List Change) : ∀ entry ∈ m.history cs, entry.after.Consistent := by
  refine forall_history Consistent h fun entry hentry hbefore => ?_
  rcases entry_cases hentry with ⟨-, hc⟩ | ⟨e, -, -, hafter⟩
  · exact hbefore.change hc
  · exact hafter ▸ hbefore

theorem nodup_history (h : m.ids.Nodup)
    (hfresh : ∀ entry ∈ m.history cs, ∀ p, entry.change = .act (.add p) → p.id ∉ entry.before.ids) :
    ∀ entry ∈ m.history cs, entry.after.ids.Nodup := by
  refine forall_history (·.ids.Nodup) h fun entry hentry hbefore => ?_
  rcases entry_cases hentry with ⟨-, hc⟩ | ⟨e, -, -, hafter⟩
  · exact nodup_change hbefore (hfresh entry hentry) hc
  · exact hafter ▸ hbefore

theorem length_history (h : m.limit = limit ∧ m.primitives.length ≤ limit) (hpos : 1 ≤ limit)
    (hlimit : ∀ k, .setLimit k ∈ cs → k = limit) :
    ∀ entry ∈ m.history cs, entry.after.limit = limit ∧ entry.after.primitives.length ≤ limit := by
  refine forall_history (fun m => m.limit = limit ∧ m.primitives.length ≤ limit) h fun entry hentry hbefore => ?_
  rcases entry_cases hentry with ⟨-, hc⟩ | ⟨e, -, -, hafter⟩
  · refine length_change hbefore hpos (fun k hk => hlimit k ?_) hc
    rw [← map_change_history m cs]
    exact List.mem_map.mpr ⟨entry, hentry, hk⟩
  · exact hafter ▸ hbefore

/-- Whatever is asked of a model that starts out empty, after each change every operand is the id of a primitive, and a
change that is refused leaves the model as it was. While no id is added that is there, the model passes its check; while
the limit stays as it is and allows for a primitive, it holds. -/
theorem changes_keep_integrity (limit : Nat) (cs : List Change) :
    let entries := (withLimit limit).history cs
    entries.map (·.change) = cs ∧
      (∀ entry ∈ entries,
        (entry.outcome.map fun _ => entry.after) = entry.before.change entry.change ∧
          (∀ e, entry.outcome = .error e → entry.after = entry.before) ∧
          ∀ o ∈ entry.after.operations, ∀ id ∈ o.operands, ∃ p ∈ entry.after.primitives, p.id = id) ∧
      ((∀ entry ∈ entries, ∀ p, entry.change = .act (.add p) → p.id ∉ entry.before.ids) →
        ∀ entry ∈ entries, entry.after.check = .ok ()) ∧
      (1 ≤ limit → (∀ k, .setLimit k ∈ cs → k = limit) → ∀ entry ∈ entries, entry.after.primitives.length ≤ limit) := by
  intro entries
  have hconsistent := (consistent_withLimit limit).history cs
  refine ⟨map_change_history _ cs, fun entry hentry => ⟨?_, ?_, ?_⟩, fun hfresh entry hentry => ?_,
    fun hpos hlimit entry hentry => ?_⟩
  · rcases entry_cases hentry with ⟨hok, hc⟩ | ⟨e, herror, hc, -⟩
    · rw [hok, hc]
      rfl
    · rw [herror, hc]
      rfl
  · intro e he
    rcases entry_cases hentry with ⟨hok, -⟩ | ⟨-, -, -, hafter⟩
    · cases hok.symm.trans he
    · exact hafter
  · intro o ho id hid
    exact List.mem_map.mp ((hconsistent entry hentry).operands o ho id hid)
  · have hempty : (withLimit limit).ids.Nodup := List.nodup_nil
    have hnodup := nodup_history hempty hfresh entry hentry
    exact check_eq_ok.mpr ⟨(hconsistent entry hentry).version, hnodup, (hconsistent entry hentry).operands⟩
  · exact (length_history ⟨rfl, Nat.zero_le _⟩ hpos hlimit entry hentry).2

/-- A pin comes into the model again after it and the operations on it are gone. In between, a third primitive and an
operation on it are refused. -/
def repinned : List Change :=
  let pin : Primitive := ⟨"pin", .cylinder 1 2, .origin⟩
  let ball : Primitive := ⟨"ball", .sphere 1, .origin⟩
  [.act (.add pin), .record ⟨.union, "pin", "pin"⟩, .act (.add ball), .act (.add ⟨"cube", .cube 1, .origin⟩),
    .record ⟨.difference, "pin", "cube"⟩, .act (.create ball), .setLimit 2, .act (.add pin)]

theorem changes_keep_integrity_repinned :
    let entries := (withLimit 2).history repinned
    entries.map (·.outcome) =
        [.ok (), .ok (), .ok (), .error (.full 2), .error (.notFound "cube"), .ok (), .ok (), .ok ()] ∧
      (∀ entry ∈ entries, ∀ p, entry.change = .act (.add p) → p.id ∉ entry.before.ids) ∧
      (∀ k, .setLimit k ∈ repinned → k = 2) ∧
      ∀ entry ∈ entries, entry.after.check = .ok () ∧ entry.after.primitives.length ≤ 2 := by
  intro entries
  obtain ⟨-, -, hchecked, hheld⟩ := changes_keep_integrity 2 repinned
  have hadded : (entries.all fun entry => match entry.change with
      | .act (.add p) => p.id ∉ entry.before.ids
      | _ => true) = true := by decide
  have hfresh : ∀ entry ∈ entries, ∀ p, entry.change = .act (.add p) → p.id ∉ entry.before.ids := by
    intro entry hentry p hp
    have hnew := List.all_eq_true.mp hadded entry hentry
    rw [hp] at hnew
    exact of_decide_eq_true hnew
  have hlimit : ∀ k, .setLimit k ∈ repinned → k = 2 := by
    intro k hk
    simpa [repinned] using hk
  refine ⟨by rfl, hfresh, hlimit, fun entry hentry => ?_⟩
  exact ⟨hchecked hfresh entry hentry, hheld (by decide) hlimit entry hentry⟩

end Model

end PromptCad
