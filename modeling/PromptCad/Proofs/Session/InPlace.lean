import PromptCad.Session.Shared

/-! Prompts carried out in place. The parts of a session are written one after the other, each when its new value is
known, and what has been written stays written when a later step fails. Nothing undoes a write; a refused prompt leaves
the session as it was because no step that can fail comes after one. -/

namespace PromptCad

/-- Steps that read and write a state, and may fail. A failure keeps what has been written until then. -/
abbrev InPlace (σ ε α : Type) : Type := ExceptT ε (StateM σ) α

namespace InPlace

variable {σ τ ε δ α β : Type}

def perform (x : InPlace σ ε α) (s : σ) : Except ε α × σ := x.run.run s

def attempt (x : Except ε α) : InPlace σ ε α := ExceptT.mk (pure x)

def within (part : τ → σ) (put : σ → τ → τ) (lift : ε → δ) (x : InPlace σ ε α) : InPlace τ δ α :=
  ExceptT.mk fun t => ((x.perform (part t)).1.mapError lift, put (x.perform (part t)).2 t)

/-- The state is left alone by a failure, and is the new one after a success. -/
def settled (s : σ) : Except ε (α × σ) → Except ε α × σ
  | .ok (a, t) => (.ok a, t)
  | .error e => (.error e, s)

theorem perform_attempt (x : Except ε α) (s : σ) : (attempt x).perform s = (x, s) := rfl

theorem perform_get (s : σ) : (get : InPlace σ ε σ).perform s = (.ok s, s) := rfl

theorem perform_within (part : τ → σ) (put : σ → τ → τ) (lift : ε → δ) (x : InPlace σ ε α) (t : τ) :
    (within part put lift x).perform t = ((x.perform (part t)).1.mapError lift, put (x.perform (part t)).2 t) := rfl

theorem perform_bind (x : InPlace σ ε α) (f : α → InPlace σ ε β) (s : σ) :
    (x >>= f).perform s = match x.perform s with
      | (.ok a, t) => (f a).perform t
      | (.error e, t) => (.error e, t) := by
  show (ExceptT.bindCont f (x.perform s).1).run (x.perform s).2 = _
  rcases x.perform s with ⟨_ | _, t⟩
  · rfl
  · rfl

/-- A primitive with the next id; the counter is written last. -/
def issue (solid : Solid) : InPlace IdCounter PromptError Primitive := do
  let ids ← get
  if IdCounter.last ≤ ids.next then throw .idsExhausted
  else
    let p ← attempt (Primitive.make (IdCounter.idText solid.kind ids.next) solid)
    set (⟨ids.next + 1⟩ : IdCounter)
    return p

def build (text : List Char) (unsupported : String → PromptError) : InPlace IdCounter PromptError Primitive := do
  match ← attempt (Prompt.Sentence.ofLine (Prompt.normalizeChars text)) with
  | none => throw (unsupported (String.ofList text))
  | some sentence => issue (← attempt sentence.solid)

def parse (text : String) : InPlace IdCounter PromptError Action := do
  let line := Prompt.normalizeChars text.toList
  if line = [] then throw .emptyPrompt
  else if line = "clear".toList then return .clear
  else match Prompt.splitVerb? line with
    | some (verb, rest) => return verb.action (← build rest .unsupportedShape)
    | none => return .create (← build line .unsupportedCommand)

/-- The primitives are written before the operations. -/
def apply : Action → InPlace Model ModelError Unit
  | .clear => do
    modify fun m => { m with primitives := [] }
    modify fun m => { m with operations := [] }
  | .create p => do
    modify fun m => { m with primitives := [p] }
    modify fun m => { m with operations := [] }
  | .add p => do
    let m ← get
    if m.limit ≤ m.primitives.length then throw (.full m.limit)
    else modify fun m => { m with primitives := m.primitives ++ [p] }

/-- The counter is drawn from as a copy, which is written back after the model. -/
def submit (text : String) : InPlace Session Error Unit := do
  let s ← get
  match (parse text).perform s.ids with
  | (.error e, _) => throw (.prompt e)
  | (.ok action, ids) =>
    within Session.model (fun model s => { s with model }) Error.model (apply action)
    modify fun s => { s with ids }

/-- What a client gets for a prompt is read from the session as it is after the prompt. -/
def respond (text : String) : InPlace Session Error Response := do
  submit text
  let s ← get
  return ⟨s.model, s.mesh .preview⟩

theorem perform_issue (solid : Solid) (ids : IdCounter) :
    (issue solid).perform ids = settled ids (ids.issue solid) := by
  rw [issue, perform_bind, perform_get, IdCounter.issue]
  dsimp only
  split
  · rfl
  · rw [perform_bind, perform_attempt]
    cases Primitive.make (IdCounter.idText solid.kind ids.next) solid with
    | error e => rfl
    | ok p => rfl

theorem perform_build (text : List Char) (unsupported : String → PromptError) (ids : IdCounter) :
    (build text unsupported).perform ids = settled ids (Prompt.build text unsupported ids) := by
  rw [build, perform_bind, perform_attempt, Prompt.build]
  cases Prompt.Sentence.ofLine (Prompt.normalizeChars text) with
  | error e => rfl
  | ok found => cases found with
    | none => rfl
    | some sentence =>
      dsimp only
      rw [perform_bind, perform_attempt]
      show _ = settled ids (sentence.solid >>= ids.issue)
      cases sentence.solid with
      | error e => rfl
      | ok solid => exact perform_issue solid ids

theorem perform_map {x : InPlace σ ε α} {s : σ} {r : Except ε (α × σ)} (h : x.perform s = settled s r) (f : α → β) :
    (x >>= fun a => return f a).perform s = settled s (r >>= fun done => return (f done.1, done.2)) := by
  rw [perform_bind, h]
  cases r with
  | error e => rfl
  | ok done => rfl

theorem perform_parse (text : String) (ids : IdCounter) :
    (parse text).perform ids = settled ids (Prompt.parse text ids) := by
  simp only [parse, Prompt.parse]
  split
  · rfl
  · split
    · rfl
    · cases Prompt.splitVerb? (Prompt.normalizeChars text.toList) with
      | some found => exact perform_map (perform_build found.2 .unsupportedShape ids) found.1.action
      | none => exact perform_map (perform_build _ .unsupportedCommand ids) Action.create

theorem perform_apply (action : Action) (m : Model) :
    (apply action).perform m = settled m ((m.apply action).map fun n => ((), n)) := by
  cases action with
  | create p => rfl
  | clear => rfl
  | add p =>
    rw [apply, perform_bind, perform_get, Model.apply, Model.add]
    dsimp only
    split
    · rfl
    · rfl

theorem perform_submit (text : String) (s : Session) :
    (submit text).perform s = settled s ((s.submit text).map fun t => ((), t)) := by
  rw [submit, perform_bind, perform_get, Session.submit]
  dsimp only
  rw [perform_parse]
  cases Prompt.parse text s.ids with
  | error e => rfl
  | ok done =>
    obtain ⟨action, ids⟩ := done
    show (within Session.model (fun model s => { s with model }) Error.model (apply action) >>= fun _ =>
      modify fun s => { s with ids }).perform s = _
    rw [perform_bind, perform_within, perform_apply]
    dsimp only
    cases s.model.apply action with
    | error e => rfl
    | ok model => rfl

theorem perform_respond (text : String) (s : Session) :
    (respond text).perform s = settled s (s.respond text) := by
  rw [respond, perform_bind, perform_submit, Session.respond]
  cases s.submit text with
  | error e => rfl
  | ok t => rfl

end InPlace

end PromptCad
