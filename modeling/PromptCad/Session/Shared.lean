import PromptCad.Session

/-! A session that several clients submit prompts to, one after the other. -/

namespace PromptCad

/-- What a client learns from an accepted prompt: the model after it, and a preview of just that model. -/
structure Response where
  model : Model
  mesh : Mesh

namespace Session

/-- Submits a prompt; an accepted one is answered. -/
def respond (s : Session) (text : String) : Except Error (Response × Session) := do
  let t ← s.submit text
  return (⟨t.model, t.mesh .preview⟩, t)

theorem respond_eq_ok {s t : Session} {text : String} {r : Response} :
    s.respond text = .ok (r, t) ↔ s.submit text = .ok t ∧ r = ⟨t.model, t.mesh .preview⟩ := by
  unfold respond
  cases h : s.submit text with
  | error e => simp [bind, Except.bind]
  | ok u =>
    simp only [bind, Except.bind, pure, Except.pure, Except.ok.injEq, Prod.mk.injEq]
    constructor
    · rintro ⟨rfl, rfl⟩; exact ⟨rfl, rfl⟩
    · rintro ⟨rfl, rfl⟩; exact ⟨rfl, rfl⟩

end Session

end PromptCad
