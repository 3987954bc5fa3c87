import PromptCad.Proofs.Session.InPlace
import PromptCad.Session.Saved

/-! Prompts that are refused leave no trace. One of them changes nothing, wherever it fails; so of a list of prompts
those that were refused can be left out, and the others are accepted again with the same session after each. -/

namespace PromptCad.Session

variable {s t : Session} {text : String} {texts : List String} {e : Error} {u : Unit}

theorem perform_submit_eq_ok : (InPlace.submit text).perform s = (.ok u, t) ↔ s.submit text = .ok t := by
  rw [InPlace.perform_submit]
  cases s.submit text with
  | error e => simp [InPlace.settled, Except.map]
  | ok t => simp [InPlace.settled, Except.map]

theorem perform_submit_eq_error :
    (InPlace.submit text).perform s = (.error e, t) ↔ s.submit text = .error e ∧ t = s := by
  rw [InPlace.perform_submit]
  cases s.submit text with
  | error e => simp [InPlace.settled, Except.map, eq_comm]
  | ok t => simp [InPlace.settled, Except.map]

theorem step_of_error (h : s.submit text = .error e) : s.step text = s := by rw [step, h]

/-- What each prompt of a list gives, with the session that it leaves, when they are carried out in place. -/
def history (s : Session) : List String → List (Except Error Unit × Session)
  | [] => []
  | text :: texts =>
    (InPlace.submit text).perform s :: history ((InPlace.submit text).perform s).2 texts

def accepted (s : Session) (texts : List String) : List String :=
  ((texts.zip (s.history texts)).filter (·.2.1.isOk)).map (·.1)

theorem history_of_ok (h : s.submit text = .ok t) : s.history (text :: texts) = (.ok (), t) :: t.history texts := by
  rw [history, perform_submit_eq_ok.mpr h]

theorem history_of_error (h : s.submit text = .error e) :
    s.history (text :: texts) = (.error e, s) :: s.history texts := by
  rw [history, perform_submit_eq_error.mpr ⟨h, rfl⟩]

theorem accepted_of_ok (h : s.submit text = .ok t) : s.accepted (text :: texts) = text :: t.accepted texts := by
  rw [accepted, history_of_ok h]
  rfl

theorem accepted_of_error (h : s.submit text = .error e) : s.accepted (text :: texts) = s.accepted texts := by
  rw [accepted, history_of_error h]
  rfl

theorem accepted_sublist (s : Session) (texts : List String) : (s.accepted texts).Sublist texts := by
  induction texts generalizing s with
  | nil => exact .slnil
  | cons text texts ih => cases h : s.submit text with
    | ok t =>
      rw [accepted_of_ok h]
      exact (ih t).cons_cons text
    | error e =>
      rw [accepted_of_error h]
      exact (ih s).cons text

/-- The accepted prompts alone give what they gave among the others. -/
theorem history_accepted (s : Session) (texts : List String) :
    s.history (s.accepted texts) = (s.history texts).filter (·.1.isOk) := by
  induction texts generalizing s with
  | nil => rfl
  | cons text texts ih => cases h : s.submit text with
    | ok t =>
      rw [accepted_of_ok h, history_of_ok h, history_of_ok h, ih t]
      rfl
    | error e =>
      rw [accepted_of_error h, history_of_error h, ih s]
      rfl

theorem run_accepted (s : Session) (texts : List String) : s.run (s.accepted texts) = s.run texts := by
  induction texts generalizing s with
  | nil => rfl
  | cons text texts ih => cases h : s.submit text with
    | ok t => rw [accepted_of_ok h, run_cons, run_cons, step_of_submit h, ih t]
    | error e => rw [accepted_of_error h, run_cons, step_of_error h, ih s]

theorem getLastD_history (s : Session) (texts : List String) :
    ((s.history texts).map (·.2)).getLastD s = s.run texts := by
  induction texts generalizing s with
  | nil => rfl
  | cons text texts ih => cases h : s.submit text with
    | ok t => rw [history_of_ok h, List.map_cons, List.getLastD_cons, ih t, run_cons, step_of_submit h]
    | error e => rw [history_of_error h, List.map_cons, List.getLastD_cons, ih s, run_cons, step_of_error h]

/-- A refused prompt leaves the session as it was, though its parts are written one after the other. So the accepted
prompts of a list do alone what the whole list does: each of them is accepted again, with the same session after it,
and all that is made of the last session is the same. -/
theorem rejected_without_effect (s : Session) :
    (∀ text e t, (InPlace.submit text).perform s = (.error e, t) → t = s) ∧
      (∀ text t, (InPlace.submit text).perform s = (.ok (), t) ↔ s.submit text = .ok t) ∧
      ∀ texts, ((s.history texts).map (·.2)).getLastD s = s.run texts ∧
        (s.accepted texts).Sublist texts ∧
        s.history (s.accepted texts) = (s.history texts).filter (·.1.isOk) ∧
        s.run (s.accepted texts) = s.run texts ∧
        (∀ quality, (s.run (s.accepted texts)).mesh quality = (s.run texts).mesh quality) ∧
        (∀ format, (s.run (s.accepted texts)).encode format = (s.run texts).encode format) ∧
        (s.run (s.accepted texts)).save = (s.run texts).save := by
  refine ⟨fun text e t h => (perform_submit_eq_error.mp h).2, fun text t => perform_submit_eq_ok, fun texts => ?_⟩
  refine ⟨s.getLastD_history texts, s.accepted_sublist texts, s.history_accepted texts, s.run_accepted texts,
    fun quality => ?_, fun format => ?_, ?_⟩
  · rw [run_accepted]
  · rw [run_accepted]
  · rw [run_accepted]

end PromptCad.Session
