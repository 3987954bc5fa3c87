import PromptCad.CommandLine
import PromptCad.Proofs.CommandLine.Acts
import PromptCad.Proofs.Session.Export
import PromptCad.Proofs.Session.Rejected

/-! The work of a job as acts: what it says of each prompt, what it shows and what it writes. All of it tells of one
session, the one that the prompts make of the session it starts from. -/

namespace PromptCad

/-- Why prompts of a list are refused, in their order. -/
def Session.refusals (s : Session) (texts : List String) : List Error :=
  (s.history texts).filterMap fun result => match result.1 with
    | .ok _ => none
    | .error e => some e

namespace Session

variable {s t : Session} {text : String} {e : Error}

theorem refusals_of_ok (h : s.submit text = .ok t) (texts : List String) :
    s.refusals (text :: texts) = t.refusals texts := by
  rw [refusals, history_of_ok h]
  rfl

theorem refusals_of_error (h : s.submit text = .error e) (texts : List String) :
    s.refusals (text :: texts) = e :: s.refusals texts := by
  rw [refusals, history_of_error h]
  rfl

theorem refusals_append (s : Session) (before after : List String) :
    s.refusals (before ++ after) = s.refusals before ++ (s.run before).refusals after := by
  induction before generalizing s with
  | nil => rfl
  | cons text before ih => cases h : s.submit text with
    | ok t => rw [List.cons_append, refusals_of_ok h, refusals_of_ok h, ih t, run_cons, step_of_submit h]
    | error e =>
      rw [List.cons_append, refusals_of_error h, refusals_of_error h, ih s, run_cons, step_of_error h, List.cons_append]

theorem Sound.run (h : s.Sound) (texts : List String) : (s.run texts).Sound := by
  induction texts generalizing s with
  | nil => exact h
  | cons text texts ih => exact ih (h.step text)

def warnings (s : Session) : List String → List Event
  | [] => []
  | text :: texts => match s.submit text with
    | .ok t => t.warnings texts
    | .error _ => s.verdict text :: s.warnings texts

theorem not_usual_of_mem_buildEvents {line : List Char} {ids : IdCounter} {event : Event}
    (h : event ∈ Prompt.buildEvents line ids) : event.isUsual = false := by
  unfold Prompt.buildEvents at h
  dsimp only at h
  split at h
  · rcases List.mem_cons.mp h with rfl | h
    · rfl
    · split at h
      · rw [List.mem_singleton.mp h]
        rfl
      · cases h
  · cases h

theorem not_usual_of_mem_promptEvents {ids : IdCounter} {event : Event} (h : event ∈ Prompt.events text ids) :
    event.isUsual = false := by
  unfold Prompt.events at h
  dsimp only at h
  split at h
  · cases h
  · split at h <;> exact not_usual_of_mem_buildEvents h

theorem not_usual_verdict (h : s.submit text = .ok t) : (s.verdict text).isUsual = false := by
  unfold submit at h
  unfold verdict
  cases hparse : Prompt.parse text s.ids with
  | error e =>
    rw [hparse] at h
    cases h
  | ok read =>
    obtain ⟨action, ids⟩ := read
    rw [hparse] at h
    dsimp only at h ⊢
    cases happly : s.model.apply action with
    | error e =>
      rw [happly] at h
      cases h
    | ok model => rfl

theorem not_usual_of_mem_events (h : s.submit text = .ok t) {event : Event} (hmem : event ∈ s.events text) :
    event.isUsual = false := by
  rcases List.mem_append.mp hmem with hmem | hmem
  · exact not_usual_of_mem_promptEvents hmem
  · rw [List.mem_singleton.mp hmem]
    exact not_usual_verdict h

theorem not_usual_of_mem_exportEvents {format : Stl.Format} {event : Event} (h : event ∈ s.exportEvents format) :
    event.isUsual = false := by
  unfold exportEvents at h
  split at h
  · cases h
  · dsimp only at h
    rcases List.mem_append.mp h with h | h
    · split at h
      · cases h
      · rw [List.mem_singleton.mp h]
        rfl
    · rcases List.mem_cons.mp h with rfl | h
      · rfl
      · split at h
        · rw [List.mem_singleton.mp h]
          rfl
        · cases h

theorem Sound.encode_cases (h : s.Sound) (format : Stl.Format) :
    s.model.primitives = [] ∧ s.encode format = .error (.exporting .emptyModel) ∨
      s.model.primitives ≠ [] ∧ ∃ bytes, s.encode format = .ok bytes := by
  by_cases hnil : s.model.primitives = []
  · exact .inl ⟨hnil, by rw [encode, if_pos (by rw [hnil]; rfl)]⟩
  · obtain ⟨hpos, hlt⟩ := h.size_triangles_mesh hnil .exported
    obtain ⟨bytes, hbytes, -⟩ := Stl.encode_holds hpos hlt format s.settings.solidName
    exact .inr ⟨hnil, bytes, by rw [encode, if_neg (by simpa using hnil), hbytes]; rfl⟩

end Session

namespace Disk

variable {d : Disk} {path : String} {sink : Sink}

theorem run_bind_of {α β : Type} {x : StateM Disk α} {f : α → StateM Disk β} {d d' : Disk} {a : α}
    (h : x.run d = (a, d')) : (x >>= f).run d = (f a).run d' := by
  rw [StateT.run_bind, h]
  rfl

theorem run_write (h : d.sink? path = some sink) (bytes : ByteArray) :
    (store.write path bytes).run d = (.ok (), d.pour bytes sink) := by
  have hwrite : d.write path bytes = .ok (d.pour bytes sink) := write_eq_ok.mpr ⟨sink, h, rfl⟩
  have hrun : (store.write path bytes).run d = pure (.ok (), d.pour bytes sink) := by simp [store, hwrite]
  exact hrun

end Disk

namespace CommandLine

def promptActs (s : Session) (text : String) : List Act :=
  (s.events text).map .log ++ match s.submit text with
    | .ok _ => []
    | .error e => [.report (.error e)]

def submitActs (s : Session) : List String → List Act
  | [] => []
  | text :: rest => promptActs s text ++ submitActs (s.step text) rest

namespace Job

/-- The bytes of the mesh for the path that is to have them, unless there is no mesh to write. -/
def meshWrites (job : Job) (t : Session) : List (String × ByteArray) :=
  match job.output, t.encode job.format with
  | some path, .ok bytes => [(path, bytes)]
  | _, _ => []

def meshReports (job : Job) (t : Session) : List Report :=
  if job.output.isSome ∧ t.model.primitives = [] then [.error (.exporting .emptyModel)] else []

def saveWrites (job : Job) (t : Session) : List (String × ByteArray) := job.save.toList.map (·, t.save.toUTF8)

def writes (job : Job) (t : Session) : List (String × ByteArray) := job.meshWrites t ++ job.saveWrites t

/-- What a job reports, when all it needs can be read and written. -/
def reports (job : Job) (s : Session) (texts : List String) : List Report :=
  (s.refusals texts).map .error ++ job.meshReports (s.run texts)

def shown (job : Job) (t : Session) : List String := if job.dump then [t.model.jsonText ++ "\n"] else []

def showActs (job : Job) (t : Session) : List Act := (job.shown t).map .display

def meshActs (job : Job) (t : Session) : List Act :=
  match job.output with
  | none => []
  | some path => (t.exportEvents job.format).map .log ++ match t.encode job.format with
    | .error e => [.report (.error e)]
    | .ok bytes => [.write path bytes, .log (.wrote path bytes.size)]

def saveActs (job : Job) (t : Session) : List Act :=
  match job.save with
  | none => []
  | some path => [.write path t.save.toUTF8, .log (.saved path)]

def talkActs (job : Job) (s : Session) (texts : List String) : List Act :=
  .log (.processing texts.length) :: (submitActs s texts ++ job.showActs (s.run texts))

def fileActs (job : Job) (t : Session) : List Act := job.meshActs t ++ job.saveActs t

def endActs (reports : List Report) : List Act := if reports = [] then [] else [.log (.failed reports.length)]

/-- What the program does for a job, once it has read what it needs. -/
def acts (job : Job) (s : Session) (texts : List String) : List Act :=
  job.talkActs s texts ++ (job.fileActs (s.run texts) ++ endActs (job.reports s texts))

end Job

/-! ### The program does these acts -/

section

variable {logger : Disk.Logger} {job : Job} {d e : Disk} {s t : Session} {texts : List String}

theorem run_events (d : Disk) (events : List Event) :
    (events.forM (Disk.logging logger).log).run d = ((), d.performAll logger (events.map .log)) := by
  induction events generalizing d with
  | nil => rfl
  | cons event events ih =>
    have hfirst : ((Disk.logging logger).log event).run d = ((), d.perform logger (.log event)) := rfl
    exact (Disk.run_bind_of hfirst).trans (ih _)

theorem run_report (d : Disk) (r : Report) :
    ((Disk.logging logger).report r).run d = ((), d.perform logger (.report r)) := rfl

theorem run_submitAll (d : Disk) (s : Session) (texts : List String) :
    (submitAll (Disk.logging logger) s texts).run d =
      ((s.run texts, (s.refusals texts).length), d.performAll logger (submitActs s texts)) := by
  induction texts generalizing s d with
  | nil => rfl
  | cons text texts ih =>
    unfold submitAll
    rw [Disk.run_bind_of (run_events d _), submitActs, promptActs, Disk.performAll_append, Disk.performAll_append]
    cases h : s.submit text with
    | ok t =>
      dsimp only
      rw [ih, Session.refusals_of_ok h, Session.run_cons, Session.step_of_submit h]
      rfl
    | error fault =>
      dsimp only
      rw [Disk.run_bind_of (run_report _ _), Disk.run_bind_of (ih _ _), Session.refusals_of_error h, Session.run_cons,
        Session.step_of_error h]
      rfl

theorem run_showModel (d : Disk) (job : Job) (t : Session) :
    (job.showModel (Disk.logging logger) t).run d = ((), d.performAll logger (job.showActs t)) := by
  unfold Job.showModel Job.showActs Job.shown
  cases job.dump <;> rfl

theorem run_writeMesh (h : d.Keeps e) (ht : t.Sound) (hout : ∀ path ∈ job.output, (d.sink? path).isSome) :
    (job.writeMesh Disk.store (Disk.logging logger) t).run e =
      (.ok (job.meshReports t).length, e.performAll logger (job.meshActs t)) := by
  unfold Job.writeMesh Job.meshReports Job.meshActs
  cases hpath : job.output with
  | none => rfl
  | some path =>
    dsimp only
    rw [Disk.run_bind_of (run_events e _), Disk.performAll_append]
    rcases ht.encode_cases job.format with ⟨hnil, herror⟩ | ⟨hne, bytes, hbytes⟩
    · rw [herror, if_pos ⟨rfl, hnil⟩]
      rfl
    · obtain ⟨sink, hsink⟩ := Option.isSome_iff_exists.mp (hout path hpath)
      have hnow := (h.performAll logger ((t.exportEvents job.format).map .log)).sink hsink
      rw [hbytes, if_neg fun h => hne h.2]
      dsimp only
      rw [Disk.run_bind_of (Disk.run_write hnow bytes), ← Disk.perform_write hnow]
      rfl

theorem run_writeSession (h : d.Keeps e) (hsave : ∀ path ∈ job.save, (d.sink? path).isSome) :
    (job.writeSession Disk.store (Disk.logging logger) t).run e =
      (.ok (), e.performAll logger (job.saveActs t)) := by
  unfold Job.writeSession Job.saveActs
  cases hpath : job.save with
  | none => rfl
  | some path =>
    obtain ⟨sink, hsink⟩ := Option.isSome_iff_exists.mp (hsave path hpath)
    dsimp only
    rw [Disk.run_bind_of (Disk.run_write (h.sink hsink) _), ← Disk.perform_write (h.sink hsink)]
    rfl

theorem run_work (logger : Disk.Logger) (texts : List String) (hd : d.Sound) (hs : s.Sound)
    (hout : ∀ path ∈ job.output, (d.sink? path).isSome) (hsave : ∀ path ∈ job.save, (d.sink? path).isSome) :
    (job.work Disk.store (Disk.logging logger) s texts).run d =
      (.ok (job.reports s texts).length,
        d.performAll logger (job.talkActs s texts ++ job.fileActs (s.run texts))) := by
  have hfirst : ((Disk.logging logger).log (.processing texts.length)).run d =
    ((), d.perform logger (.log (.processing texts.length))) := rfl
  have hsubmitted := (hd.keeps.perform logger (.log (.processing texts.length))).performAll logger (submitActs s texts)
  have hshown := hsubmitted.performAll logger (job.showActs (s.run texts))
  have hmesh := hshown.performAll logger (job.meshActs (s.run texts))
  unfold Job.work
  rw [Disk.run_bind_of hfirst, Disk.run_bind_of (run_submitAll _ _ _)]
  dsimp only
  rw [Disk.run_bind_of (run_showModel _ _ _), Disk.run_bind_of (run_writeMesh hshown (hs.run texts) hout)]
  dsimp only
  rw [Disk.run_bind_of (run_writeSession hmesh hsave), Job.talkActs, Job.fileActs, Disk.performAll_append,
    Disk.performAll_cons, Disk.performAll_append, Disk.performAll_append, Job.reports, List.length_append,
    List.length_map]
  rfl

end

/-! ### What the acts come to -/

section

variable {logger : Disk.Logger} {job : Job} {d : Disk} {s t : Session} {text : String} {texts : List String}

theorem promptActs_of_ok (h : s.submit text = .ok t) : promptActs s text = (s.events text).map .log := by
  rw [promptActs, h]
  exact List.append_nil _

theorem promptActs_of_error {e : Error} (h : s.submit text = .error e) :
    promptActs s text = (s.events text).map .log ++ [.report (.error e)] := by rw [promptActs, h]

theorem yields_submitActs (s : Session) (texts : List String) :
    Act.Yields (submitActs s texts) ((s.refusals texts).map .error) [] [] := by
  induction texts generalizing s with
  | nil => exact Act.yields_nil
  | cons text texts ih => cases h : s.submit text with
    | ok t =>
      rw [submitActs, promptActs_of_ok h, Session.refusals_of_ok h, Session.step_of_submit h]
      exact (Act.yields_events _).append (ih t)
    | error e =>
      rw [submitActs, promptActs_of_error h, Session.refusals_of_error h, Session.step_of_error h]
      exact ((Act.yields_events _).append ⟨rfl, rfl, rfl⟩).append (ih s)

theorem yields_showActs (job : Job) (t : Session) : Act.Yields (job.showActs t) [] (job.shown t) [] := by
  unfold Job.showActs
  constructor <;> simp [List.filterMap_map, Function.comp_def, Act.report?, Act.display?, Act.write?]

theorem yields_meshActs (ht : t.Sound) (job : Job) :
    Act.Yields (job.meshActs t) (job.meshReports t) [] (job.meshWrites t) := by
  unfold Job.meshActs Job.meshReports Job.meshWrites
  cases job.output with
  | none => exact Act.yields_nil
  | some path =>
    rcases ht.encode_cases job.format with ⟨hnil, herror⟩ | ⟨hne, bytes, hbytes⟩
    · rw [herror, if_pos ⟨rfl, hnil⟩]
      exact (Act.yields_events _).append ⟨rfl, rfl, rfl⟩
    · rw [hbytes, if_neg fun h => hne h.2]
      exact (Act.yields_events _).append ⟨rfl, rfl, rfl⟩

theorem yields_saveActs (job : Job) (t : Session) : Act.Yields (job.saveActs t) [] [] (job.saveWrites t) := by
  unfold Job.saveActs Job.saveWrites
  cases job.save with
  | none => exact Act.yields_nil
  | some path => exact ⟨rfl, rfl, rfl⟩

theorem yields_endActs (reports : List Report) : Act.Yields (Job.endActs reports) [] [] [] := by
  unfold Job.endActs
  split
  · exact Act.yields_nil
  · exact ⟨rfl, rfl, rfl⟩

theorem yields_talkActs (job : Job) (s : Session) (texts : List String) :
    Act.Yields (job.talkActs s texts) ((s.refusals texts).map .error) (job.shown (s.run texts)) [] := by
  have h := (Act.yields_events [.processing texts.length]).append
    ((yields_submitActs s texts).append (yields_showActs job (s.run texts)))
  simp only [List.append_nil] at h
  exact h

theorem yields_fileActs (ht : t.Sound) (job : Job) :
    Act.Yields (job.fileActs t) (job.meshReports t) [] (job.writes t) := by
  have h := (yields_meshActs ht job).append (yields_saveActs job t)
  simp only [List.append_nil] at h
  exact h

theorem yields_acts (hs : s.Sound) (job : Job) (texts : List String) :
    Act.Yields (job.acts s texts) (job.reports s texts) (job.shown (s.run texts)) (job.writes (s.run texts)) := by
  have h := (yields_talkActs job s texts).append
    ((yields_fileActs (hs.run texts) job).append (yields_endActs (job.reports s texts)))
  simp only [List.append_nil] at h
  exact h

theorem Job.writable (hout : ∀ path ∈ job.output, (d.sink? path).isSome)
    (hsave : ∀ path ∈ job.save, (d.sink? path).isSome) {w : String × ByteArray} (hw : w ∈ job.writes t) :
    (d.sink? w.1).isSome := by
  rcases List.mem_append.mp hw with hw | hw
  · unfold Job.meshWrites at hw
    split at hw
    · next path _ hpath _ =>
      cases List.mem_singleton.mp hw
      exact hout _ hpath
    · cases hw
  · obtain ⟨path, hpath, rfl⟩ := List.mem_map.mp hw
    exact hsave path (Option.mem_toList.mp hpath)

/-- A job shows its texts before it writes to any path. -/
theorem outAfter_acts (hs : s.Sound) (hacts : d.Writable (job.acts s texts)) (out : Stream) :
    (job.acts s texts).foldl d.outAfter out =
      Disk.streamed .output ((job.shown (s.run texts)).foldl (fun s text => s.print text.toUTF8) out)
        (d.deliveries (job.writes (s.run texts))) := by
  have hlate := (yields_fileActs (hs.run texts) job).append (yields_endActs (job.reports s texts))
  have hwritable : d.Writable (job.fileActs (s.run texts) ++ Job.endActs (job.reports s texts)) :=
    fun path bytes hmem => hacts path bytes (List.mem_append_right _ hmem)
  have hwrites := hlate.writes
  rw [List.append_nil] at hwrites
  rw [Job.acts, List.foldl_append, Disk.outAfter_of_no_writes (yields_talkActs job s texts).writes,
    Disk.outAfter_of_no_displays hwritable hlate.texts, (yields_talkActs job s texts).texts, hwrites]

/-- In front of each report of a refusal, the acts say what the log has to say of it. -/
theorem exists_warnings (hlogger : logger.Usual) (d : Disk) (s : Session) (texts : List String) :
    ∃ warnings : List ByteArray, List.Forall₂ (fun w event => ∃ now, w = logger now event) warnings (s.warnings texts) ∧
      warnings.length = (s.refusals texts).length ∧
      d.saidAll logger (submitActs s texts) = Report.warned warnings ((s.refusals texts).map .error) := by
  induction texts generalizing d s with
  | nil => exact ⟨[], .nil, rfl, rfl⟩
  | cons text texts ih => cases h : s.submit text with
    | ok t =>
      obtain ⟨warnings, hwarnings, hlength, hsaid⟩ := ih (d.performAll logger ((s.events text).map .log)) t
      refine ⟨warnings, ?_, ?_, ?_⟩
      · rwa [Session.warnings, h]
      · rwa [Session.refusals_of_ok h]
      · rw [submitActs, promptActs_of_ok h, Disk.saidAll_append,
          Disk.saidAll_events hlogger fun _ hmem => Session.not_usual_of_mem_events h hmem, ByteArray.empty_append,
          Session.step_of_submit h, hsaid, Session.refusals_of_ok h]
    | error e =>
      -- the last event of a prompt is the one that tells of its refusal
      have hevents : (s.events text).map Act.log =
          (Prompt.events text s.ids).map Act.log ++ [Act.log (s.verdict text)] := List.map_append
      obtain ⟨warnings, hwarnings, hlength, hsaid⟩ := ih (d.performAll logger (promptActs s text)) s
      refine
        ⟨logger (d.performAll logger ((Prompt.events text s.ids).map .log)) (s.verdict text) :: warnings, ?_, ?_, ?_⟩
      · rw [Session.warnings, h]
        exact .cons ⟨_, rfl⟩ hwarnings
      · rw [Session.refusals_of_error h, List.length_cons, List.length_cons, hlength]
      · rw [submitActs, Disk.saidAll_append, Session.step_of_error h, hsaid, promptActs_of_error h, hevents,
          Disk.saidAll_append, Disk.saidAll_append,
          Disk.saidAll_events hlogger fun _ hmem => Session.not_usual_of_mem_promptEvents hmem, ByteArray.empty_append,
          Session.refusals_of_error h, List.map_cons, Report.warned]
        simp only [Disk.saidAll, Disk.said, ByteArray.append_empty]

theorem not_usual_of_mem_fileActs {event : Event} (h : Act.log event ∈ job.fileActs t) : event.isUsual = false := by
  rcases List.mem_append.mp h with h | h
  · unfold Job.meshActs at h
    split at h
    · cases h
    · rcases List.mem_append.mp h with h | h
      · obtain ⟨e, he, heq⟩ := List.mem_map.mp h
        cases heq
        exact Session.not_usual_of_mem_exportEvents he
      · split at h
        · simp at h
        · obtain rfl : event = _ := by simpa using h
          rfl
  · unfold Job.saveActs at h
    split at h
    · cases h
    · obtain rfl : event = _ := by simpa using h
      rfl

theorem not_usual_of_mem_endActs {reports : List Report} {event : Event} (h : Act.log event ∈ Job.endActs reports) :
    event.isUsual = false := by
  unfold Job.endActs at h
  split at h
  · cases h
  · obtain rfl : event = _ := by simpa using h
    rfl

theorem saidAll_acts_silent (hs : s.Sound) (d : Disk) (job : Job) (texts : List String) :
    d.saidAll .silent (job.acts s texts) = Report.text (job.reports s texts) := by
  have hunheard : ∀ event, Act.log event ∈ job.acts s texts → ∀ now, Disk.Logger.silent now event = .empty :=
    fun _ _ _ => rfl
  rw [Disk.saidAll_of_unheard hunheard, (yields_acts hs job texts).reports]

theorem saidAll_acts_usual (hlogger : logger.Usual) (hs : s.Sound) (d : Disk) (job : Job) (texts : List String) :
    ∃ warnings : List ByteArray, List.Forall₂ (fun w event => ∃ now, w = logger now event) warnings (s.warnings texts) ∧
      warnings.length = (s.refusals texts).length ∧
      d.saidAll logger (job.acts s texts) = Report.warned warnings (job.reports s texts) := by
  obtain ⟨warnings, hwarnings, hlength, hsaid⟩ :=
    exists_warnings hlogger (d.perform logger (.log (.processing texts.length))) s texts
  have hlate : ∀ event, Act.log event ∈ job.fileActs (s.run texts) ++ Job.endActs (job.reports s texts) →
      ∀ now, logger now event = .empty := by
    intro event hmem
    rcases List.mem_append.mp hmem with hmem | hmem
    · exact hlogger event (not_usual_of_mem_fileActs hmem)
    · exact hlogger event (not_usual_of_mem_endActs hmem)
  have hshow : ∀ event, Act.log event ∈ job.showActs (s.run texts) → ∀ now, logger now event = .empty := by
    intro event hmem
    obtain ⟨text, -, heq⟩ := List.mem_map.mp hmem
    cases heq
  have hreports := ((yields_fileActs (hs.run texts) job).append (yields_endActs (job.reports s texts))).reports
  rw [List.append_nil] at hreports
  have htalk : d.saidAll logger (job.talkActs s texts) = Report.warned warnings ((s.refusals texts).map .error) := by
    rw [Job.talkActs, Disk.saidAll, Disk.said, hlogger _ rfl, ByteArray.empty_append, Disk.saidAll_append, hsaid,
      Disk.saidAll_of_unheard hshow, (yields_showActs job _).reports]
    exact ByteArray.append_empty
  refine ⟨warnings, hwarnings, hlength, ?_⟩
  rw [Job.acts, Disk.saidAll_append, htalk, Disk.saidAll_of_unheard hlate, hreports, Job.reports,
    Report.warned_append (by rw [hlength, List.length_map])]

end

end CommandLine

end PromptCad
