import Mathlib.Data.Nat.Notation

/-! Decoders take values off the front of a list of lines or bytes. -/

namespace PromptCad.Stl

variable {τ α β ι : Type}

/-- What reads a value off the front of a list, or refuses it. -/
abbrev Decoder (τ α : Type) := StateT (List τ) Option α

namespace Decoder

def next : Decoder τ τ := fun
  | [] => none
  | t :: ts => some (t, ts)

def repeated (d : Decoder τ α) : ℕ → Decoder τ (List α)
  | 0 => pure []
  | n + 1 => do return (← d) :: (← repeated d n)

/-- Values for as long as there are any, but no more than a bound. -/
def many (d : Decoder τ α) : ℕ → Decoder τ (List α)
  | 0 => pure []
  | n + 1 => (do return (← d) :: (← many d n)) <|> pure []

/-- A decoder takes just the tokens that are given, whatever stands after them. -/
def Takes (d : Decoder τ α) (ts : List τ) (a : α) : Prop := ∀ rest, d.run (ts ++ rest) = some (a, rest)

variable {d : Decoder τ α} {f : α → Decoder τ β} {ts us : List τ} {a : α} {b : β}

theorem takes_next (t : τ) : Takes next [t] t := fun _ => rfl

theorem takes_pure (a : α) : Takes (pure a : Decoder τ α) [] a := fun _ => rfl

theorem Takes.bind (hd : Takes d ts a) (hf : Takes (f a) us b) : Takes (d >>= f) (ts ++ us) b := by
  intro rest
  rw [StateT.run_bind, List.append_assoc, hd]
  exact hf rest

theorem Takes.map (hd : Takes d ts a) (g : α → β) : Takes (g <$> d) ts (g a) := by
  intro rest
  rw [StateT.run_map, hd]
  rfl

theorem takes_repeated {write : ι → List τ} {value : ι → α} (h : ∀ i, Takes d (write i) (value i)) (l : List ι) :
    Takes (repeated d l.length) (l.flatMap write) (l.map value) := by
  induction l with
  | nil => exact takes_pure []
  | cons i l ih => exact (h i).bind (ih.map (value i :: ·))

theorem run_many_succ (d : Decoder τ α) (n : ℕ) (ts : List τ) :
    (many d (n + 1)).run ts = ((do return (← d) :: (← many d n) : Decoder τ (List α)).run ts <|> some ([], ts)) := rfl

theorem run_many {write : ι → List τ} {value : ι → α} (h : ∀ i, Takes d (write i) (value i)) {rest : List τ}
    (hstop : d.run rest = none) {n : ℕ} (l : List ι) (hn : l.length ≤ n) :
    (many d n).run (l.flatMap write ++ rest) = some (l.map value, rest) := by
  induction l generalizing n with
  | nil => cases n with
    | zero => rfl
    | succ n =>
      rw [run_many_succ, StateT.run_bind, List.flatMap_nil, List.nil_append, hstop]
      rfl
  | cons i l ih =>
    obtain ⟨n, rfl⟩ := Nat.exists_eq_add_of_le' hn
    have hrest := ih (Nat.le_add_left l.length n)
    rw [List.length_cons, ← Nat.add_assoc, run_many_succ, StateT.run_bind, List.flatMap_cons, List.append_assoc, h i]
    show ((many d (n + l.length) >>= fun as => pure (value i :: as)).run _ <|> _) = _
    rw [StateT.run_bind, hrest]
    rfl

end Decoder

end PromptCad.Stl
