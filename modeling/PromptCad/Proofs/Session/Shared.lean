import Mathlib.Logic.Function.Basic
import Mathlib.Logic.Relation
import PromptCad.Proofs.Session.InPlace
import PromptCad.Proofs.Session.Reachable

/-! A session that several clients share. Each of them submits its prompts in its own order; whose prompt comes next is
open, and one is carried out as a whole before the next. What the session holds is told by the calls that were accepted,
in the order in which they came. -/

namespace PromptCad

open Relation (ReflTransGen)

/-- A call of a client: the prompt, the action that it was read as, if any, and the answer. -/
structure Call (Client : Type) where
  client : Client
  text : String
  action : Option Action
  result : Except Error Response

/-- A session, the prompts that each client has yet to submit, and the calls until now. -/
structure Shared (Client : Type) where
  session : Session
  pending : Client → List String
  log : List (Call Client)

/-- What actions leave: the primitives that were added since the last other action, after the one that was created if
that is what it did. -/
inductive Leaves : List Action → List Primitive → Prop where
  | fromStart (added : List Primitive) : Leaves (added.map .add) added
  | fromClear (before : List Action) (added : List Primitive) : Leaves (before ++ .clear :: added.map .add) added
  | fromCreate (before : List Action) (p : Primitive) (added : List Primitive) :
      Leaves (before ++ .create p :: added.map .add) (p :: added)

namespace Leaves

variable {actions : List Action} {ps : List Primitive}

theorem clear (actions : List Action) : Leaves (actions ++ [.clear]) [] := fromClear actions []

theorem create (actions : List Action) (p : Primitive) : Leaves (actions ++ [.create p]) [p] := fromCreate actions p []

theorem add (h : Leaves actions ps) (p : Primitive) : Leaves (actions ++ [.add p]) (ps ++ [p]) := by
  cases h with
  | fromStart =>
    have h := fromStart (ps ++ [p])
    rwa [List.map_append] at h
  | fromClear before =>
    have h := fromClear before (ps ++ [p])
    rwa [List.map_append, ← List.cons_append, ← List.append_assoc] at h
  | fromCreate before q added =>
    have h := fromCreate before q (added ++ [p])
    rwa [List.map_append, ← List.cons_append, ← List.append_assoc] at h

end Leaves

namespace Session

inductive Fresh : Session → Prop where
  | standard : Fresh .standard
  | start {settings : Settings} {s : Session} : Session.start settings = .ok s → Fresh s

variable {s t : Session} {text : String} {r : Response} {e : Error}

theorem Fresh.reachable (h : s.Fresh) : s.Reachable := by
  cases h with
  | standard => exact .standard
  | start hs => exact .start hs

theorem Fresh.primitives_eq (h : s.Fresh) : s.model.primitives = [] := by
  cases h with
  | standard => rfl
  | @start settings _ hs =>
    unfold Session.start at hs
    split at hs
    · cases hs
    · cases hs
      rfl

theorem perform_respond_of_ok (h : s.submit text = .ok t) :
    (InPlace.respond text).perform s = (.ok ⟨t.model, t.mesh .preview⟩, t) := by
  rw [InPlace.perform_respond, respond_eq_ok.mpr ⟨h, rfl⟩, InPlace.settled]

theorem perform_respond_of_error (h : s.submit text = .error e) : (InPlace.respond text).perform s = (.error e, s) := by
  rw [InPlace.perform_respond, respond, h]
  rfl

/-- The model refuses only a primitive that is added when there is no room. -/
theorem submit_eq_model_error {e : ModelError} :
    s.submit text = .error (.model e) ↔
      ∃ p ids, Prompt.parse text s.ids = .ok (.add p, ids) ∧ s.model.limit ≤ s.model.primitives.length ∧
        e = .full s.model.limit := by
  rw [Session.submit]
  cases hp : Prompt.parse text s.ids with
  | error fault => simp
  | ok done =>
    obtain ⟨action, ids⟩ := done
    cases action with
    | create p => simp [Model.apply]
    | clear => simp [Model.apply]
    | add p =>
      by_cases hfull : s.model.limit ≤ s.model.primitives.length
      · simp [Model.apply, Model.add, hfull, eq_comm]
      · simp [Model.apply, Model.add, hfull]

end Session

namespace Shared

variable {Client : Type}

def start (s : Session) (todo : Client → List String) : Shared Client := ⟨s, todo, []⟩

def snapshot (sys : Shared Client) : Model := sys.session.model

def encode (sys : Shared Client) (format : Stl.Format) : Except Error ByteArray := sys.session.encode format

def actions (sys : Shared Client) : List Action := (sys.log.filter (·.result.isOk)).filterMap (·.action)

def call (sys : Shared Client) (c : Client) (text : String) : Call Client where
  client := c
  text := text
  action := (Prompt.parse text sys.session.ids).toOption.map (·.1)
  result := ((InPlace.respond text).perform sys.session).1

variable {s t : Session} {todo : Client → List String} {sys : Shared Client} {c : Client} {text : String} {e : Error}

theorem action_eq_some {action : Action} :
    (sys.call c text).action = some action ↔ ∃ ids, Prompt.parse text sys.session.ids = .ok (action, ids) := by
  rw [call]
  cases Prompt.parse text sys.session.ids with
  | error e => simp [Except.toOption]
  | ok done => simp [Except.toOption, Prod.ext_iff]

theorem result_eq_error : (sys.call c text).result = .error e ↔ sys.session.submit text = .error e := by
  cases h : sys.session.submit text with
  | error e => simp [call, Session.perform_respond_of_error h]
  | ok t => simp [call, Session.perform_respond_of_ok h]

theorem result_eq_ok {r : Response} :
    (sys.call c text).result = .ok r ↔
      ∃ t, sys.session.submit text = .ok t ∧ r = ⟨t.model, t.mesh .preview⟩ := by
  cases h : sys.session.submit text with
  | error e => simp [call, Session.perform_respond_of_error h]
  | ok t => simp [call, Session.perform_respond_of_ok h, eq_comm]

variable [DecidableEq Client]

/-- The first prompt of a client is carried out. -/
def serve (sys : Shared Client) (c : Client) (text : String) : Shared Client where
  session := ((InPlace.respond text).perform sys.session).2
  pending := Function.update sys.pending c (sys.pending c).tail
  log := sys.log ++ [sys.call c text]

/-- Any client may be the next. -/
inductive Step : Shared Client → Shared Client → Prop where
  | serve {sys : Shared Client} {c : Client} {text : String} :
      (sys.pending c).head? = some text → Step sys (sys.serve c text)

def submitted (sys : Shared Client) (c : Client) : List String := (sys.log.filter (·.client = c)).map (·.text)

theorem serve_of_ok (h : sys.session.submit text = .ok t) : (sys.serve c text).session = t := by
  rw [serve, Session.perform_respond_of_ok h]

theorem serve_of_error (h : sys.session.submit text = .error e) : (sys.serve c text).session = sys.session := by
  rw [serve, Session.perform_respond_of_error h]

theorem actions_of_ok {action : Action} {ids : IdCounter} (h : sys.session.submit text = .ok t)
    (hp : Prompt.parse text sys.session.ids = .ok (action, ids)) :
    (sys.serve c text).actions = sys.actions ++ [action] := by
  have hcall : sys.call c text = ⟨c, text, some action, .ok ⟨t.model, t.mesh .preview⟩⟩ := by
    rw [call, hp, Session.perform_respond_of_ok h]
    rfl
  rw [actions, serve, hcall, List.filter_append, List.filterMap_append]
  rfl

theorem actions_of_error (h : sys.session.submit text = .error e) : (sys.serve c text).actions = sys.actions := by
  have hresult : (sys.call c text).result = .error e := by rw [call, Session.perform_respond_of_error h]
  rw [actions, serve, List.filter_append, List.filter_cons_of_neg (by rw [hresult]; exact Bool.false_ne_true)]
  rw [List.filter_nil, List.append_nil]
  rfl

theorem pending_serve_self : (sys.serve c text).pending c = (sys.pending c).tail := Function.update_self ..

theorem pending_serve_of_ne {d : Client} (h : d ≠ c) : (sys.serve c text).pending d = sys.pending d :=
  Function.update_of_ne h ..

theorem submitted_serve_self : (sys.serve c text).submitted c = sys.submitted c ++ [text] := by
  simp [submitted, serve, call]

theorem submitted_serve_of_ne {d : Client} (h : d ≠ c) : (sys.serve c text).submitted d = sys.submitted d := by
  simp [submitted, serve, call, h.symm]

/-- What holds while clients share a session that was `s` at first, with `todo` for the clients to submit. -/
structure Served (s : Session) (todo : Client → List String) (sys : Shared Client) : Prop where
  sound : sys.session.Sound
  settings : sys.session.settings = s.settings
  leaves : Leaves sys.actions sys.snapshot.primitives
  order : ∀ c, sys.submitted c ++ sys.pending c = todo c

theorem served_start (h : s.Fresh) : Served s todo (start s todo) where
  sound := h.reachable.sound
  settings := rfl
  leaves := h.primitives_eq.symm ▸ .fromStart []
  order := fun _ => rfl

namespace Served

theorem leaves_serve (h : Served s todo sys) :
    Leaves (sys.serve c text).actions (sys.serve c text).snapshot.primitives := by
  cases ht : sys.session.submit text with
  | error e =>
    rw [actions_of_error ht, snapshot, serve_of_error ht]
    exact h.leaves
  | ok t =>
    rw [snapshot, serve_of_ok ht]
    obtain ⟨hp, rfl⟩ | ⟨p, ids, -, ⟨hp, rfl⟩ | ⟨hp, -, rfl⟩⟩ := Session.submit_cases ht
    · rw [actions_of_ok ht hp]
      exact .clear sys.actions
    · rw [actions_of_ok ht hp]
      exact .create sys.actions p
    · rw [actions_of_ok ht hp]
      exact h.leaves.add p

theorem order_serve (h : Served s todo sys) (htext : (sys.pending c).head? = some text) (d : Client) :
    (sys.serve c text).submitted d ++ (sys.serve c text).pending d = todo d := by
  by_cases hd : d = c
  · subst hd
    obtain ⟨rest, hrest⟩ := List.head?_eq_some_iff.mp htext
    rw [submitted_serve_self, pending_serve_self, ← h.order d, hrest, List.append_assoc]
    rfl
  · rw [submitted_serve_of_ne hd, pending_serve_of_ne hd, h.order d]

theorem serve (h : Served s todo sys) (htext : (sys.pending c).head? = some text) :
    Served s todo (sys.serve c text) := by
  refine ⟨?_, ?_, h.leaves_serve, h.order_serve htext⟩
  · cases ht : sys.session.submit text with
    | error e => exact serve_of_error (c := c) ht ▸ h.sound
    | ok t => exact serve_of_ok (c := c) ht ▸ h.sound.submit ht
  · cases ht : sys.session.submit text with
    | error e => rw [serve_of_error ht, h.settings]
    | ok t => rw [serve_of_ok ht, Session.settings_submit ht, h.settings]

end Served

theorem served_of_run (hs : s.Fresh) (hrun : ReflTransGen Step (start s todo) sys) : Served s todo sys := by
  induction hrun with
  | refl => exact served_start hs
  | tail _ hstep ih =>
    cases hstep with
    | serve htext => exact ih.serve htext

/-- An addition is refused just when there is no room for it; nothing else is refused for that. -/
theorem Served.result_eq_full (h : Served s todo sys) {limit : Nat} :
    (sys.call c text).result = .error (.model (.full limit)) ↔
      (∃ p, (sys.call c text).action = some (.add p)) ∧ sys.snapshot.primitives.length = limit ∧
        limit = s.settings.primitiveLimit := by
  have hlimit : sys.session.model.limit = s.settings.primitiveLimit := by rw [h.sound.limit, h.settings]
  have hfits := h.sound.fits
  simp only [result_eq_error, Session.submit_eq_model_error, action_eq_some, hlimit, snapshot, ModelError.full.injEq]
  constructor
  · rintro ⟨p, ids, hp, hfull, rfl⟩
    exact ⟨⟨p, ids, hp⟩, by omega, rfl⟩
  · rintro ⟨⟨p, ids, hp⟩, hfull, rfl⟩
    exact ⟨p, ids, hp, by omega, rfl⟩

theorem Served.response (h : Served s todo sys) {r : Response} (hr : (sys.call c text).result = .ok r) :
    (∃ action, (sys.call c text).action = some action ∧ sys.snapshot.apply action = .ok r.model) ∧
      r.model = (sys.serve c text).snapshot ∧ r.mesh = r.model.mesh (s.settings.resolution .preview) := by
  obtain ⟨t, ht, rfl⟩ := result_eq_ok.mp hr
  have hsettings : t.settings = s.settings := by rw [Session.settings_submit ht, h.settings]
  refine ⟨?_, ?_, ?_⟩
  · obtain ⟨hp, rfl⟩ | ⟨p, ids, -, ⟨hp, rfl⟩ | ⟨hp, hlt, rfl⟩⟩ := Session.submit_cases ht
    · exact ⟨.clear, action_eq_some.mpr ⟨_, hp⟩, rfl⟩
    · exact ⟨.create p, action_eq_some.mpr ⟨_, hp⟩, rfl⟩
    · exact ⟨.add p, action_eq_some.mpr ⟨_, hp⟩, Model.add_eq_ok.mpr ⟨hlt, rfl⟩⟩
  · rw [snapshot, serve_of_ok ht]
  · rw [Session.mesh, hsettings]

/-- However the calls of the clients come to follow each other, each accepted one counts once and in its turn: the
session holds what was created last and all that was added since, under different ids. An addition is refused for want
of room just when the list is as long as the limit; an answer shows the session just after its own call; and a refused
call cannot be seen. -/
theorem calls_count_once (hs : s.Fresh) (hrun : ReflTransGen Step (start s todo) sys) :
    Leaves sys.actions sys.snapshot.primitives ∧ sys.snapshot.ids.Nodup ∧
      (∀ c, sys.submitted c ++ sys.pending c = todo c) ∧
      ∀ c text,
        (∀ limit, (sys.call c text).result = .error (.model (.full limit)) ↔
          (∃ p, (sys.call c text).action = some (.add p)) ∧ sys.snapshot.primitives.length = limit ∧
            limit = s.settings.primitiveLimit) ∧
        (∀ e, (sys.call c text).result = .error (.model e) → e = .full s.settings.primitiveLimit) ∧
        (∀ r, (sys.call c text).result = .ok r →
          (∃ action, (sys.call c text).action = some action ∧ sys.snapshot.apply action = .ok r.model) ∧
            r.model = (sys.serve c text).snapshot ∧ r.mesh = r.model.mesh (s.settings.resolution .preview)) ∧
        ∀ e, (sys.call c text).result = .error e →
          (sys.serve c text).snapshot = sys.snapshot ∧
            ∀ format, (sys.serve c text).encode format = sys.encode format := by
  have h := served_of_run hs hrun
  refine ⟨h.leaves, h.sound.distinct, h.order, fun c text => ?_⟩
  refine ⟨fun limit => h.result_eq_full, fun e he => ?_, fun r hr => h.response hr, fun e he => ?_⟩
  · obtain ⟨p, ids, -, -, rfl⟩ := Session.submit_eq_model_error.mp (result_eq_error.mp he)
    rw [h.sound.limit, h.settings]
  · have hsame := serve_of_error (c := c) (result_eq_error.mp he)
    exact ⟨congrArg Session.model hsame, fun format => congrArg (Session.encode · format) hsame⟩

def narrow : Session := ⟨.withLimit 1, {}, { Settings.standard with primitiveLimit := 1 }⟩

def rivals (first : Bool) : List String := if first then ["cube 2mm"] else ["add cube 2mm"]

def crowded : Shared Bool := (start narrow rivals).serve true "cube 2mm"

theorem calls_crowded :
    narrow.Fresh ∧
      ReflTransGen Step (start narrow rivals) crowded ∧
      Leaves [.create ⟨"box-1", .cube 2, .origin⟩] crowded.snapshot.primitives ∧
      crowded.submitted true ++ crowded.pending true = ["cube 2mm"] ∧
      (crowded.call false "add cube 2mm").result = .error (.model (.full 1)) ∧
      (crowded.serve false "add cube 2mm").snapshot = crowded.snapshot := by
  have hstart : Session.start { Settings.standard with primitiveLimit := 1 } = .ok narrow := rfl
  have hfresh : narrow.Fresh := .start hstart
  have hrun : ReflTransGen Step (start narrow rivals) crowded := .single (.serve rfl)
  obtain ⟨hleaves, -, horder, hcalls⟩ := calls_count_once hfresh hrun
  obtain ⟨hfull, -, -, hrefused⟩ := hcalls false "add cube 2mm"
  have hactions : crowded.actions = [.create ⟨"box-1", .cube 2, .origin⟩] := by decide +kernel
  have haction : (crowded.call false "add cube 2mm").action = some (.add ⟨"box-2", .cube 2, .origin⟩) := by
    decide +kernel
  have hlength : crowded.snapshot.primitives.length = 1 := by decide
  have hresult := (hfull 1).mpr ⟨⟨_, haction⟩, hlength, rfl⟩
  exact ⟨hfresh, hrun, hactions ▸ hleaves, horder true, hresult, (hrefused _ hresult).1⟩

end Shared

end PromptCad
