import PromptCad.Model.Parts
import PromptCad.Ron.Number
import PromptCad.Ron.Reader

/-! What a reader returns, whatever text it is given. A property of the value goes through binds and loops, so that
what has been read piece by piece is known to be sound as a whole. -/

namespace PromptCad

namespace Reader

variable {α β : Type} {P : α → Prop} {Q : β → Prop}

/-- Every value that the reader returns has the property. -/
def Gives (r : Reader α) (P : α → Prop) : Prop := ∀ s a rest, r.run s = .ok (a, rest) → P a

theorem gives_true (r : Reader α) : r.Gives fun _ => True := fun _ _ _ _ => trivial

theorem gives_pure {a : α} (h : P a) : (pure a : Reader α).Gives P := by
  intro s b rest hr
  cases hr
  exact h

theorem gives_throw (e : ReadError) : (throw e : Reader α).Gives P := by
  intro s a rest hr
  cases hr

theorem gives_fail : (fail : Reader α).Gives P := gives_throw .malformed

theorem run_bind_eq_ok {r : Reader α} {f : α → Reader β} {s rest : List Char} {b : β}
    (h : (r >>= f).run s = .ok (b, rest)) : ∃ a t, r.run s = .ok (a, t) ∧ (f a).run t = .ok (b, rest) := by
  rw [StateT.run_bind] at h
  cases hr : r.run s with
  | error e => rw [hr] at h; cases h
  | ok p => rw [hr] at h; exact ⟨p.1, p.2, rfl, h⟩

theorem gives_bind {r : Reader α} {f : α → Reader β} (hr : r.Gives P) (hf : ∀ a, P a → (f a).Gives Q) :
    (r >>= f).Gives Q := by
  intro s b rest h
  obtain ⟨a, t, ha, hb⟩ := run_bind_eq_ok h
  exact hf a (hr s a t ha) t b rest hb

theorem gives_bind_right {r : Reader α} {f : α → Reader β} (hf : ∀ a, (f a).Gives Q) : (r >>= f).Gives Q :=
  gives_bind (gives_true r) fun a _ => hf a

theorem gives_ite {c : Prop} [Decidable c] {r t : Reader α} (hr : c → r.Gives P) (ht : ¬c → t.Gives P) :
    (if c then r else t).Gives P := by
  split
  · next h => exact hr h
  · next h => exact ht h

theorem gives_need {o : Option α} (h : ∀ a ∈ o, P a) : (need o).Gives P := by
  cases o with
  | none => exact gives_fail
  | some a => exact gives_pure (h a rfl)

theorem gives_ofSplit {split : List Char → Option (α × List Char)} (h : ∀ s a rest, split s = some (a, rest) → P a) :
    (ofSplit split).Gives P := by
  apply gives_bind_right
  intro s
  have hneed : (need (split s)).Gives fun p => P p.1 := gives_need fun p hp => h s p.1 p.2 hp
  exact gives_bind hneed fun p hp => gives_bind_right fun _ => gives_pure hp

theorem gives_once {part : Option α} {r : Reader α} (h : r.Gives P) :
    (once part r).Gives fun o => ∀ a ∈ o, P a := by
  refine gives_ite (fun _ => gives_fail) fun _ => ?_
  rw [map_eq_pure_bind]
  refine gives_bind h fun a ha => gives_pure ?_
  intro b hb
  cases hb
  exact ha

end Reader

namespace Ron

open Reader

variable {α σ : Type} {P : α → Prop} {Inv : σ → Prop}

theorem gives_natural (bound : Nat) : (natural bound).Gives (· ≤ bound) := by
  apply gives_ofSplit
  intro s n rest h
  simp only [natural?, Option.bind_eq_bind] at h
  split at h
  · cases h
  · obtain ⟨m, -, hm⟩ := Option.bind_eq_some_iff.mp h
    split at hm
    · next hle => cases hm; exact hle
    · cases hm

theorem gives_items {item : Reader α} (h : item.Gives P) (fuel : Nat) (comma : Bool) :
    (items item fuel comma).Gives fun as => ∀ a ∈ as, P a := by
  induction fuel generalizing comma with
  | zero => exact gives_fail
  | succ fuel ih =>
    refine gives_bind_right fun going => gives_ite (fun _ => ?_) fun _ => ?_
    · refine gives_bind h fun a ha => gives_bind_right fun comma => gives_bind (ih comma) fun as has => ?_
      exact gives_pure (List.forall_mem_cons.mpr ⟨ha, has⟩)
    · exact gives_bind_right fun _ => gives_pure (by simp)

theorem gives_list {item : Reader α} (h : item.Gives P) (fuel : Nat) : (list fuel item).Gives fun as => ∀ a ∈ as, P a :=
  gives_bind_right fun _ => gives_items h fuel true

/-- What holds of the parts before a field and is kept by every field holds of the parts at the end. -/
theorem gives_fields {closing : Char} {field : String → σ → Reader σ}
    (h : ∀ key known, Inv known → (field key known).Gives Inv) (fuel : Nat) (comma : Bool) {known : σ}
    (hk : Inv known) : (fields closing field fuel comma known).Gives Inv := by
  induction fuel generalizing comma known with
  | zero => exact gives_fail
  | succ fuel ih =>
    refine gives_bind_right fun going => gives_ite (fun _ => ?_) fun _ => ?_
    · refine gives_bind_right fun key => gives_bind_right fun _ => gives_bind (h key known hk) fun known' hk' => ?_
      exact gives_bind_right fun comma => ih comma hk'
    · exact gives_bind_right fun _ => gives_pure hk

theorem gives_record {expected : String} {field : String → σ → Reader σ}
    (h : ∀ key known, Inv known → (field key known).Gives Inv) (fuel : Nat) {start : σ} (hs : Inv start) :
    (record fuel expected field start).Gives Inv :=
  gives_bind_right fun _ => gives_bind_right fun _ => gives_bind_right fun _ => gives_fields h fuel true hs

theorem readAll_gives {r : Nat → Scope → Reader α} (h : ∀ fuel scope, (r fuel scope).Gives P) {s : List Char} {a : α}
    (ha : readAll r s = .ok a) : P a := by
  have hwhole : (do
      let asked ← attributes (s.length + 1)
      let a ← r (s.length + 1) ⟨greatestDepth, asked.contains bareSomeExtension⟩
      blanks
      return a : Reader α).Gives P :=
    gives_bind_right fun _ => gives_bind (h _ _) fun a ha => gives_bind_right fun _ => gives_pure ha
  simp only [readAll, Reader.readAll, bind, Except.bind] at ha
  split at ha
  · cases ha
  · next p hp =>
    split at ha
    · cases ha
      exact hwhole s p.1 p.2 hp
    · cases ha

end Ron

end PromptCad
