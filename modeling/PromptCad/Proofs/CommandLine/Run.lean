import PromptCad.CommandLine
import PromptCad.Proofs.CommandLine.Work

/-! What a run of the program computes. Everything that a run says and writes is accounted for: its reports, the model
that it shows and its files all tell of one session, and what the log says of the work stands between the reports. -/

namespace PromptCad.CommandLine

namespace Job

variable {job : Job} {d₀ d₁ : Disk}

/-- The lines that a job reads: those of its script. Without a script and without prompts as arguments it reads those of
the input. -/
def lines (job : Job) : StateM Disk (Except FileFault (List (List Char))) := do
  match job.script with
  | some path => return ((← Disk.store.read path).bind textOf).map fun text => linesOf text.toList
  | none =>
    if job.prompts.isEmpty then return ((← Disk.console.input).bind textOf).map fun text => linesOf text.toList
    else return .ok []

theorem promptLines_append (a b : List (List Char)) : promptLines (a ++ b) = promptLines a ++ promptLines b := by
  simp [promptLines]

theorem promptsOfFile_of_lines {file : Except FileFault ByteArray} {found : List (List Char)}
    (h : ((file.bind textOf).map fun text => linesOf text.toList) = .ok found) :
    promptsOfFile file = .ok (promptLines found) := by
  unfold promptsOfFile
  cases htext : file.bind textOf with
  | error fault =>
    rw [htext] at h
    cases h
  | ok text =>
    rw [htext] at h
    cases h
    rfl

theorem collect_of_lines {found : List (List Char)} (h : job.lines.run d₀ = (.ok found, d₁)) :
    (job.collect Disk.store Disk.console).run d₀ =
      (.ok (promptLines (found ++ job.prompts.map String.toList)), d₁) := by
  rw [promptLines_append]
  unfold lines at h
  unfold collect
  cases hscript : job.script with
  | some path =>
    rw [hscript] at h
    rcases hrun : (Disk.store.read path).run d₀ with ⟨file, d'⟩
    rw [Disk.run_bind_of hrun] at h ⊢
    obtain ⟨hlines, rfl⟩ := Prod.mk.inj h
    rw [promptsOfFile_of_lines hlines]
    rfl
  | none =>
    rw [hscript] at h
    by_cases hprompts : job.prompts.isEmpty
    · simp only [hprompts, if_true] at h ⊢
      rcases hrun : Disk.console.input.run d₀ with ⟨file, d'⟩
      rw [Disk.run_bind_of hrun] at h ⊢
      obtain ⟨hlines, rfl⟩ := Prod.mk.inj h
      rw [promptsOfFile_of_lines hlines, List.isEmpty_iff.mp hprompts]
      simp only [List.map_nil, promptLines, List.filter_nil, List.append_nil]
      rfl
    · simp only [hprompts] at h ⊢
      cases h
      rfl

end Job

theorem onlyReads_settings (job : Job) : Disk.OnlyReads (job.settings Disk.store) := by
  unfold Job.settings
  cases job.config with
  | none => exact Disk.onlyReads_pure _
  | some path =>
    exact Disk.onlyReads_bind (Disk.onlyReads_read path) fun file => Disk.onlyReads_pure _

theorem onlyReads_session (job : Job) : Disk.OnlyReads (job.session Disk.store) := by
  refine Disk.onlyReads_bind (onlyReads_settings job) fun found => ?_
  cases found with
  | error e => exact Disk.onlyReads_pure _
  | ok settings => cases job.load with
    | none => exact Disk.onlyReads_pure _
    | some path => exact Disk.onlyReads_bind (Disk.onlyReads_read path) fun file => Disk.onlyReads_pure _

theorem onlyReads_collect (job : Job) : Disk.OnlyReads (job.collect Disk.store Disk.console) := by
  unfold Job.collect
  cases job.script with
  | some path => exact Disk.onlyReads_bind (Disk.onlyReads_read path) fun file => Disk.onlyReads_pure _
  | none =>
    dsimp only
    split
    · exact Disk.onlyReads_bind Disk.onlyReads_input fun file => Disk.onlyReads_pure _
    · exact Disk.onlyReads_pure _

/-- The session that a job starts from is new or has been loaded, with the settings in force. -/
theorem session_cases {job : Job} {d d₀ : Disk} {s : Session}
    (h : (job.session Disk.store).run d = (.ok s, d₀)) :
    ∃ settings d', (job.settings Disk.store).run d = (.ok settings, d') ∧
      ((job.load = none ∧ Session.start settings = .ok s ∧ d₀ = d') ∨
        ∃ path bytes, job.load = some path ∧ (Disk.store.read path).run d' = (.ok bytes, d₀) ∧
          Session.load bytes settings = .ok s) := by
  unfold Job.session at h
  rcases hsettings : (job.settings Disk.store).run d with ⟨found, d'⟩
  rw [Disk.run_bind_of hsettings] at h
  cases found with
  | error e => cases h
  | ok settings =>
    refine ⟨settings, d', rfl, ?_⟩
    cases hload : job.load with
    | none =>
      rw [hload] at h
      obtain ⟨hstart, hd⟩ := Prod.mk.inj h
      exact .inl ⟨rfl, hstart, hd.symm⟩
    | some path =>
      rw [hload] at h
      rcases hread : (Disk.store.read path).run d' with ⟨file, e⟩
      rw [Disk.run_bind_of hread] at h
      cases file with
      | error fault => cases h
      | ok bytes =>
        obtain ⟨hs, rfl⟩ := Prod.mk.inj h
        exact .inr ⟨path, bytes, rfl, hread, hs⟩

theorem reachable_of_session {job : Job} {d d₀ : Disk} {s : Session}
    (h : (job.session Disk.store).run d = (.ok s, d₀)) : s.Reachable := by
  obtain ⟨settings, d', -, ⟨-, hstart, -⟩ | ⟨path, bytes, -, -, hload⟩⟩ := session_cases h
  · exact .start hstart
  · exact .load hload

theorem run_keeps {α : Type} {x : StateM Disk α} {d d' : Disk} {a : α} (hx : Disk.OnlyReads x)
    (h : x.run d = (a, d')) : ∃ i, d' = { d with input := i } := by
  obtain ⟨i, hi⟩ := hx d
  rw [h] at hi
  exact ⟨i, hi⟩

/-- The session and the prompts that a job starts from, and the disk when it has read all that it reads. -/
def Job.Opens (job : Job) (d : Disk) (s : Session) (texts : List String) (d' : Disk) : Prop :=
  ∃ d₀, (job.session Disk.store).run d = (.ok s, d₀) ∧
    (job.collect Disk.store Disk.console).run d₀ = (.ok texts, d')

namespace Job.Opens

variable {job : Job} {d d' : Disk} {s : Session} {texts : List String}

theorem reachable (h : job.Opens d s texts d') : s.Reachable := by
  obtain ⟨d₀, hsession, -⟩ := h
  exact reachable_of_session hsession

theorem keeps (h : job.Opens d s texts d') : ∃ i, d' = { d with input := i } := by
  obtain ⟨d₀, hsession, hcollect⟩ := h
  obtain ⟨i, rfl⟩ := run_keeps (onlyReads_session job) hsession
  obtain ⟨i', rfl⟩ := run_keeps (onlyReads_collect job) hcollect
  exact ⟨i', rfl⟩

theorem run {args : List String} (h : job.Opens d s texts d') (logger : Disk.Logger) (hd : d.Sound)
    (hargs : parse args = .ok job) (hout : ∀ path ∈ job.output, (d.sink? path).isSome)
    (hsave : ∀ path ∈ job.save, (d.sink? path).isSome) :
    (CommandLine.run args Disk.store (Disk.logging logger)).run d =
      (if job.reports s texts = [] then 0 else failureStatus, d'.performAll logger (job.acts s texts)) := by
  have hs := h.reachable.sound
  have hd' : d'.Sound ∧ ∀ path, d'.sink? path = d.sink? path := by
    obtain ⟨i, rfl⟩ := h.keeps
    exact ⟨hd.withInput i, fun path => rfl⟩
  obtain ⟨d₀, hsession, hcollect⟩ := h
  have hwork := run_work logger texts hd'.1 hs (fun path hpath => by rw [hd'.2]; exact hout path hpath)
    fun path hpath => by rw [hd'.2]; exact hsave path hpath
  have hjob : (job.run Disk.store (Disk.logging logger)).run d =
      (.ok (job.reports s texts).length,
        d'.performAll logger (job.talkActs s texts ++ job.fileActs (s.run texts))) := by
    unfold Job.run
    rw [Disk.run_bind_of hsession]
    dsimp only
    rw [Disk.run_bind_of (show (job.collect Disk.store (Disk.logging logger)).run d₀ = _ from hcollect)]
    exact hwork
  have hacts : d'.performAll logger (job.acts s texts) =
      (d'.performAll logger (job.talkActs s texts ++ job.fileActs (s.run texts))).performAll logger
        (endActs (job.reports s texts)) := by
    rw [acts, ← List.append_assoc, Disk.performAll_append]
  unfold CommandLine.run
  rw [hargs]
  dsimp only
  rw [Disk.run_bind_of hjob, hacts]
  cases job.reports s texts <;> rfl

theorem disk_keeps (h : job.Opens d s texts d') (hd : d.Sound) : d.Keeps d' := by
  obtain ⟨i, rfl⟩ := h.keeps
  exact ⟨hd.withInput i, id⟩

section

variable {logger : Disk.Logger} (h : job.Opens d s texts d') (hd : d.Sound)
  (hout : ∀ path ∈ job.output, (d.sink? path).isSome) (hsave : ∀ path ∈ job.save, (d.sink? path).isSome)

include h hout hsave

theorem writable_acts : d.Writable (job.acts s texts) :=
  Disk.writable_of_yields (yields_acts h.reachable.sound job texts) fun _ => Job.writable hout hsave

include hd

theorem out_acts : (d'.performAll logger (job.acts s texts)).out =
    Disk.streamed .output ((job.shown (s.run texts)).foldl (fun s text => s.print text.toUTF8) d.out)
      (d.deliveries (job.writes (s.run texts))) := by
  have hwritable := h.writable_acts hout hsave
  rw [(h.disk_keeps hd).out_performAll hwritable, outAfter_acts h.reachable.sound hwritable]
  obtain ⟨i, rfl⟩ := h.keeps
  rfl

theorem entryAt_acts (place : List String) : (d'.performAll logger (job.acts s texts)).entryAt place =
    ((Disk.lastAt place (d.deliveries (job.writes (s.run texts)))).map Entry.file).or (d.entryAt place) := by
  rw [(h.disk_keeps hd).entryAt_performAll (h.writable_acts hout hsave),
    (yields_acts h.reachable.sound job texts).writes]
  obtain ⟨i, rfl⟩ := h.keeps
  rfl

theorem err_acts (hsent : ∀ e ∈ d.deliveries (job.writes (s.run texts)), e.1 ≠ .errors) :
    (d'.performAll logger (job.acts s texts)).err = d.err.print (d'.saidAll logger (job.acts s texts)) := by
  have hapart := Disk.apart_of_yields (yields_acts h.reachable.sound job texts) hsent
  rw [(h.disk_keeps hd).err_performAll (h.writable_acts hout hsave) hapart]
  obtain ⟨i, rfl⟩ := h.keeps
  rfl

end

end Job.Opens

/-- What a run says and leaves, when what it reads can be read and its paths can be written to. The prompts are applied
in their order to the session that it starts from. It reports each one that is refused, and after them the lack of a
mesh; it shows and writes the last session, and ends well if it had nothing to report. Its reports are all that it says
where failures are reported, but for what the log says of the work: with the usual log, that is a warning in front of
the report of each refusal. Its own streams are among the sinks that its paths may lead to. -/
theorem run_computes (logger : Disk.Logger) {args : List String} {job : Job} {d d₀ d₁ : Disk} {s : Session}
    {lines : List (List Char)} (hd : d.Sound) (hargs : parse args = .ok job)
    (hsession : (job.session Disk.store).run d = (.ok s, d₀)) (hlines : job.lines.run d₀ = (.ok lines, d₁))
    (hout : ∀ path ∈ job.output, (d.sink? path).isSome) (hsave : ∀ path ∈ job.save, (d.sink? path).isSome) :
    let texts := promptLines (lines ++ job.prompts.map String.toList)
    let t := s.run texts
    let reports := (s.refusals texts).map Report.error ++
      if job.output.isSome ∧ t.model.primitives = [] then [.error (.exporting .emptyModel)] else []
    let acts := job.acts s texts
    let sent := d.deliveries (job.writes t)
    ∃ d', (run args Disk.store (Disk.logging logger)).run d = (if reports = [] then 0 else failureStatus, d') ∧
      d' = d₁.performAll logger acts ∧ acts.filterMap Act.report? = reports ∧
      ((∀ e ∈ sent, e.1 ≠ .errors) → d'.err = d.err.print (d₁.saidAll logger acts)) ∧
      d₁.saidAll .silent acts = Report.text reports ∧
      (logger.Usual → ∃ warnings : List ByteArray,
        List.Forall₂ (fun w event => ∃ now, w = logger now event) warnings (s.warnings texts) ∧
        warnings.length = (s.refusals texts).length ∧ d₁.saidAll logger acts = Report.warned warnings reports) ∧
      d'.out =
        Disk.streamed .output (d.out.print (if job.dump then (t.model.jsonText ++ "\n").toUTF8 else .empty)) sent ∧
      ∀ place, d'.entryAt place = ((Disk.lastAt place sent).map Entry.file).or (d.entryAt place) := by
  intro texts t reports acts sent
  have hopens : job.Opens d s texts d₁ := ⟨d₀, hsession, Job.collect_of_lines hlines⟩
  have hs : s.Sound := hopens.reachable.sound
  have hshown : (job.shown t).foldl (fun s text => s.print text.toUTF8) d.out =
      d.out.print (if job.dump then (t.model.jsonText ++ "\n").toUTF8 else .empty) := by
    unfold Job.shown
    by_cases hdump : job.dump
    · rw [if_pos hdump, if_pos hdump, List.foldl_cons, List.foldl_nil]
    · rw [if_neg hdump, if_neg hdump, List.foldl_nil, Stream.print_empty]
  exact ⟨_, hopens.run logger hd hargs hout hsave, rfl, (yields_acts hs job texts).reports,
    hopens.err_acts hd hout hsave, saidAll_acts_silent hs _ job texts,
    fun hlogger => saidAll_acts_usual hlogger hs _ job texts, hshown ▸ hopens.out_acts hd hout hsave,
    hopens.entryAt_acts hd hout hsave⟩

theorem textOf_toUTF8 (text : String) : textOf text.toUTF8 = .ok text := by rw [textOf, Text.fromUTF8?_toUTF8]

def tourText : String := "# a comment\n\n  cube 1mm\n"

def tour : Disk := Disk.blank.put ["tmp", "work", "tour.txt"] tourText.toUTF8

def tourArgs : List String := ["--script", "tour.txt", "-o", "tour.stl", "--dump-ir", "--save=tour.ron", "pyramid 2mm"]

/-- The script, a prompt that no shape comes of, and every kind of output. -/
def tourJob : Job where
  prompts := ["pyramid 2mm"]
  script := some "tour.txt"
  output := some "tour.stl"
  dump := true
  save := some "tour.ron"

theorem lines_tour : tourJob.lines.run tour = (.ok (linesOf tourText.toList), tour) := by
  have hnone : Disk.blank.entryAt ["tmp", "work", "tour.txt"] = none := Option.isNone_iff_eq_none.mp (by decide)
  have htakes : Disk.blank.Takes ["tmp", "work", "tour.txt"] :=
    ⟨Disk.stands_iff.mpr (by decide), fun e he => by rw [hnone] at he; cases he⟩
  have htarget : Disk.blank.target? "tour.txt" = some ["tmp", "work", "tour.txt"] := by decide +kernel
  have hread : (Disk.store.read "tour.txt").run tour = (.ok tourText.toUTF8, tour) :=
    Disk.run_read_of_ok (Disk.read_of_file (htakes.target?_put htarget) (Disk.entryAt_put ..))
  refine (Disk.run_bind_of hread).trans ?_
  rw [show (Except.ok tourText.toUTF8).bind textOf = .ok tourText from textOf_toUTF8 tourText]
  rfl

def toured : Session := Session.standard.run ["cube 1mm", "pyramid 2mm"]

theorem sound_toured : toured.Sound := Session.sound_standard.run _

theorem primitives_toured : toured.model.primitives ≠ [] := by decide +kernel

theorem deliveries_tour : ∃ bytes, toured.encode .ascii = .ok bytes ∧
    tour.deliveries (tourJob.writes toured) =
      [(.file ["tmp", "work", "tour.stl"], bytes), (.file ["tmp", "work", "tour.ron"], toured.save.toUTF8)] := by
  have hmesh : tour.sink? "tour.stl" = some (.file ["tmp", "work", "tour.stl"]) := by decide +kernel
  have hsession : tour.sink? "tour.ron" = some (.file ["tmp", "work", "tour.ron"]) := by decide +kernel
  rcases sound_toured.encode_cases .ascii with ⟨hnil, -⟩ | ⟨-, bytes, hbytes⟩
  · exact absurd hnil primitives_toured
  · refine ⟨bytes, hbytes, ?_⟩
    rw [Job.writes, Job.meshWrites, show toured.encode tourJob.format = .ok bytes from hbytes]
    show tour.deliveries [("tour.stl", bytes), ("tour.ron", toured.save.toUTF8)] = _
    simp [Disk.deliveries, hmesh, hsession]

theorem texts_tour : promptLines (linesOf tourText.toList ++ tourJob.prompts.map String.toList) =
    ["cube 1mm", "pyramid 2mm"] := by rfl

theorem reports_tour : (Session.standard.refusals ["cube 1mm", "pyramid 2mm"]).map Report.error ++
    (if tourJob.output.isSome ∧ toured.model.primitives = [] then [.error (.exporting .emptyModel)] else []) =
    [.error (.prompt (.unsupportedCommand "pyramid 2mm"))] := by
  have hrefusals : Session.standard.refusals ["cube 1mm", "pyramid 2mm"] =
      [.prompt (.unsupportedCommand "pyramid 2mm")] := by decide +kernel
  rw [if_neg fun h => primitives_toured h.2, hrefusals]
  rfl

/-- A log that warns of each refusal, without a word of why. -/
def warner : Disk.Logger := fun _ event => if event.isUsual then "WARN\n".toUTF8 else .empty

theorem usual_warner : warner.Usual := fun event h now => by rw [warner, h]; rfl

/-- A tour through every kind of input and output, on which one of two prompts is refused. -/
theorem run_computes_tour :
    tour.Sound ∧ parse tourArgs = .ok tourJob ∧ (tourJob.session Disk.store).run tour = (.ok .standard, tour) ∧
      tourJob.lines.run tour = (.ok (linesOf tourText.toList), tour) ∧
      (∀ path ∈ tourJob.output, (tour.sink? path).isSome) ∧ (∀ path ∈ tourJob.save, (tour.sink? path).isSome) ∧
      warner.Usual ∧
      ∃ bytes d', toured.encode .ascii = .ok bytes ∧
        (run tourArgs Disk.store (Disk.logging warner)).run tour = (1, d') ∧
        d'.errors = "WARN\n".toUTF8 ++ Report.text [.error (.prompt (.unsupportedCommand "pyramid 2mm"))] ∧
        d'.output = (toured.model.jsonText ++ "\n").toUTF8 ∧
        d'.entryAt ["tmp", "work", "tour.stl"] = some (.file bytes) ∧
        d'.entryAt ["tmp", "work", "tour.ron"] = some (.file toured.save.toUTF8) := by
  have hargs : parse tourArgs = .ok tourJob := rfl
  have hsession : (tourJob.session Disk.store).run tour = (.ok .standard, tour) := rfl
  have hout : ∀ path ∈ tourJob.output, (tour.sink? path).isSome := by decide +kernel
  have hsave : ∀ path ∈ tourJob.save, (tour.sink? path).isSome := by decide +kernel
  have hd : tour.Sound := Disk.sound_blank.put _ _
  refine ⟨hd, hargs, hsession, lines_tour, hout, hsave, usual_warner, ?_⟩
  obtain ⟨bytes, hbytes, hsent⟩ := deliveries_tour
  obtain ⟨d', hrun, -, -, herr, -, hwarned, houtput, hplaces⟩ :=
    run_computes warner hd hargs hsession lines_tour hout hsave
  have husual : (Session.standard.warnings ["cube 1mm", "pyramid 2mm"]).map Event.isUsual = [true] := by decide +kernel
  have hplace : ∀ place, d'.entryAt place =
      ((Disk.lastAt place (tour.deliveries (tourJob.writes toured))).map Entry.file).or (tour.entryAt place) :=
    fun place => by rw [hplaces, texts_tour]; rfl
  rw [texts_tour, ← toured] at hrun herr houtput hwarned
  rw [reports_tour] at hrun hwarned
  rw [hsent] at herr houtput hplace
  obtain ⟨warnings, hwarnings, -, hsaid⟩ := hwarned usual_warner
  obtain ⟨event, hevent, htrue⟩ := List.map_eq_singleton_iff.mp husual
  rw [hevent] at hwarnings
  obtain ⟨w, rfl, now, rfl⟩ : ∃ w, warnings = [w] ∧ ∃ now, w = warner now event := by
    cases hwarnings with
    | cons hw hrest =>
      cases hrest
      exact ⟨_, rfl, hw⟩
  have hfiles : ∀ e ∈ [(Disk.Sink.file ["tmp", "work", "tour.stl"], bytes),
      (Disk.Sink.file ["tmp", "work", "tour.ron"], toured.save.toUTF8)], e.1 ≠ .errors ∧ e.1 ≠ .output := by simp
  refine ⟨bytes, d', hbytes, hrun, ?_, ?_, hplace _, hplace _⟩
  · rw [Disk.errors, herr fun e he => (hfiles e he).1, hsaid, show tour.err = {} from rfl, Stream.bytes_print_new,
      warner, htrue]
    rfl
  · rw [Disk.output, houtput, Disk.streamed_of_forall_ne fun e he => (hfiles e he).2,
      if_pos (show tourJob.dump = true from rfl), show tour.out = {} from rfl, Stream.bytes_print_new]

theorem save_ne_empty (s : Session) : s.save.toUTF8 ≠ .empty := by
  intro h
  have hempty : s.save = "" := String.toByteArray_inj.mp h
  obtain ⟨rest, hrest⟩ : ∃ rest, (Saved.toRon ⟨s.model, s.ids⟩).print 0 = '(' :: rest := ⟨_, rfl⟩
  rw [Session.save, hrest] at hempty
  exact absurd (congrArg String.toList hempty) (by rw [String.toList_ofList]; exact List.cons_ne_nil _ _)

def asideJob : Job where
  prompts := ["clear"]
  save := some "/dev/stderr"

/-- A run may say more than its reports: a path can lead to the stream that they go to. -/
theorem run_says_more :
    parse ["--save", "/dev/stderr", "clear"] = .ok asideJob ∧
      (asideJob.session Disk.store).run .blank = (.ok .standard, .blank) ∧
      (asideJob.collect Disk.store Disk.console).run .blank = (.ok ["clear"], .blank) ∧
      Session.standard.refusals ["clear"] = [] ∧
      ∃ d', (run ["--save", "/dev/stderr", "clear"] Disk.store Disk.console).run .blank = (0, d') ∧
        d'.errors ≠ .empty := by
  have hargs : parse ["--save", "/dev/stderr", "clear"] = .ok asideJob := rfl
  have hsession : (asideJob.session Disk.store).run .blank = (.ok .standard, .blank) := rfl
  have htexts : promptLines ["clear".toList] = ["clear"] := by decide +kernel
  have hcollect : (asideJob.collect Disk.store Disk.console).run .blank = (.ok ["clear"], .blank) := by
    rw [← htexts]
    rfl
  have hsink : Disk.blank.sink? "/dev/stderr" = some .errors := by decide +kernel
  have hrefusals : Session.standard.refusals ["clear"] = [] := by decide
  have hreports : asideJob.reports .standard ["clear"] = [] := by
    rw [Job.reports, hrefusals]
    rfl
  have hsaved : ∀ path ∈ asideJob.save, (Disk.blank.sink? path).isSome := by
    rintro path ⟨⟩
    rw [hsink]
    rfl
  have hopens : asideJob.Opens .blank .standard ["clear"] .blank := ⟨.blank, hsession, hcollect⟩
  have hshown : ∀ path ∈ asideJob.output, (Disk.blank.sink? path).isSome := fun path hpath => by cases hpath
  have hrun := hopens.run .silent Disk.sound_blank hargs hshown hsaved
  rw [hreports] at hrun
  refine ⟨hargs, hsession, hcollect, hrefusals, _, hrun, fun hempty => ?_⟩
  generalize ht : Session.standard.run ["clear"] = t at *
  have hacts : asideJob.acts .standard ["clear"] = asideJob.talkActs .standard ["clear"] ++
      [.write "/dev/stderr" t.save.toUTF8, .log (.saved "/dev/stderr")] := by
    rw [Job.acts, hreports, ht]
    rfl
  have hkept := Disk.sound_blank.keeps.performAll .silent (asideJob.talkActs .standard ["clear"])
  rw [hacts, Disk.performAll_append, Disk.performAll_cons, Disk.perform_write (hkept.sink hsink)] at hempty
  generalize Disk.performAll .silent .blank (asideJob.talkActs .standard ["clear"]) = said at hempty
  exact Stream.bytes_write_ne_empty said.err (save_ne_empty t) hempty

end PromptCad.CommandLine
