import Mathlib.Data.List.TakeWhile
import PromptCad.Model.Parts

/-! How the small readers run on a text whose front is known. -/

namespace PromptCad.Reader

variable {α β : Type}

theorem run_bind_of {r : Reader α} {f : α → Reader β} {s t : List Char} {a : α} (h : r.run s = .ok (a, t)) :
    (r >>= f).run s = (f a).run t := by
  rw [StateT.run_bind, h]
  rfl

theorem run_pure_eq (a : α) (s : List Char) : (pure a : Reader α).run s = .ok (a, s) := rfl

theorem run_get_bind (f : List Char → Reader β) (s : List Char) : (get >>= f).run s = (f s).run s := rfl

theorem run_peek (s : List Char) : peek.run s = .ok (s.head?, s) := rfl

theorem run_accept_self (word s : List Char) : (accept word).run (word ++ s) = .ok (true, s) := by
  have hprefix : word.isPrefixOf (word ++ s) = true := List.isPrefixOf_iff_prefix.mpr (List.prefix_append word s)
  rw [accept, run_get_bind, if_pos hprefix]
  have hdrop : (drop word.length).run (word ++ s) = .ok ((), s) := by
    show Except.ok ((), (word ++ s).drop word.length) = _
    rw [List.drop_left]
  rw [run_bind_of hdrop, run_pure_eq]

theorem run_accept_of_not_prefix {word s : List Char} (h : ¬word <+: s) : (accept word).run s = .ok (false, s) := by
  rw [accept, run_get_bind, if_neg (by rwa [List.isPrefixOf_iff_prefix]), run_pure_eq]

theorem run_acceptChar_self (c : Char) (s : List Char) : (acceptChar c).run (c :: s) = .ok (true, s) :=
  run_accept_self [c] s

theorem run_acceptChar_of_ne {c : Char} {s : List Char} (h : s.head? ≠ some c) :
    (acceptChar c).run s = .ok (false, s) := by
  refine run_accept_of_not_prefix fun hp => h ?_
  obtain ⟨t, rfl⟩ := hp
  rfl

theorem run_expectChar (c : Char) (s : List Char) : (expectChar c).run (c :: s) = .ok ((), s) := by
  have haccept : (accept [c]).run (c :: s) = .ok (true, s) := run_acceptChar_self c s
  rw [expectChar, expect, run_bind_of haccept]
  rfl

theorem takeWhile_append_of_stop {p : Char → Bool} {t rest : List Char} (ht : ∀ c ∈ t, p c = true)
    (hrest : ∀ c ∈ rest.head?, p c = false) :
    (t ++ rest).takeWhile p = t ∧ (t ++ rest).dropWhile p = rest := by
  rw [List.takeWhile_append_of_pos ht, List.dropWhile_append_of_pos ht]
  cases rest with
  | nil => simp
  | cons c rest =>
    have hc : ¬p c = true := by simp [hrest c rfl]
    rw [List.takeWhile_cons_of_neg hc, List.dropWhile_cons_of_neg hc]
    simp

theorem run_takeWhile {p : Char → Bool} {t rest : List Char} (ht : ∀ c ∈ t, p c = true)
    (hrest : ∀ c ∈ rest.head?, p c = false) : (takeWhile p).run (t ++ rest) = .ok (t, rest) := by
  obtain ⟨htake, hdrop⟩ := takeWhile_append_of_stop ht hrest
  show Except.ok ((t ++ rest).takeWhile p, (t ++ rest).dropWhile p) = _
  rw [htake, hdrop]

theorem run_need (a : α) (s : List Char) : (need (some a)).run s = .ok (a, s) := rfl

theorem run_ofSplit {split : List Char → Option (α × List Char)} {s rest : List Char} {a : α}
    (h : split s = some (a, rest)) : (ofSplit split).run s = .ok (a, rest) := by
  rw [ofSplit, run_get_bind, h]
  rfl

theorem readAll_of_run {r : Reader α} {s : List Char} {a : α} (h : r.run s = .ok (a, [])) :
    readAll r s = .ok a := by
  rw [readAll, h]
  rfl

theorem run_once {r : Reader α} {s rest : List Char} {a : α} (h : r.run s = .ok (a, rest)) :
    (once none r).run s = .ok (some a, rest) := by
  show (some <$> r).run s = _
  rw [map_eq_pure_bind, run_bind_of h, run_pure_eq]

end PromptCad.Reader
