import PromptCad.Proofs.CommandLine.Run

/-! A job cut in two. One run takes the first prompts and saves its session; another one loads it, takes the other
prompts and goes on as the whole job would have gone on. Nothing that the second run needs is lost in the file between
them: the settings are not in it, but both runs take them from the same place. -/

namespace PromptCad

namespace Disk

/-- The disk as a new run finds it: with new streams of the same kinds, and a new input. -/
def handed (d : Disk) (input : ByteArray) : Disk := { d with input, out := d.out.renewed, err := d.err.renewed }

variable {d : Disk} {path : String} {place : List String} {sink : Sink}

theorem Sound.handed (hd : d.Sound) (input : ByteArray) : (d.handed input).Sound := ⟨hd.here, hd.links⟩

/-- A new run sees nothing of acts that write to no path. -/
theorem handed_performAll {logger : Logger} {acts : List Act} (h : acts.filterMap Act.write? = []) (d : Disk)
    (i : ByteArray) : (d.performAll logger acts).handed i = d.handed i := by
  induction acts generalizing d with
  | nil => rfl
  | cons a acts ih => cases a with
    | log | report =>
      rw [performAll_cons, ih h]
      simp only [Disk.handed, perform, printError, Stream.renewed_print]
    | display =>
      rw [performAll_cons, ih h]
      simp only [Disk.handed, perform, print, Stream.renewed_print]
    | write => cases h

theorem target?_of_sink (h : d.sink? path = some (.file place)) : d.target? path = some place := by
  obtain ⟨target, htarget, h⟩ := Option.bind_eq_some_iff.mp h
  split at h
  · cases h
  · next device _ => cases device <;> cases h
  · split at h
    · cases h
    · cases h
      exact htarget

theorem Takes.deliveries_put (ht : d.Takes place) (bytes : ByteArray) {writes : List (String × ByteArray)}
    (h : ∀ w ∈ writes, (d.sink? w.1).isSome) : (d.put place bytes).deliveries writes = d.deliveries writes := by
  refine deliveries_congr fun w hw => ?_
  obtain ⟨sink, hsink⟩ := Option.isSome_iff_exists.mp (h w hw)
  rw [hsink, ht.sink?_put hsink]

theorem lastAt_isSome {sent : List (Sink × ByteArray)} {bytes : ByteArray} (h : (.file place, bytes) ∈ sent) :
    (lastAt place sent).isSome := by
  induction sent with
  | nil => cases h
  | cons e sent ih =>
    rw [lastAt, Option.isSome_or]
    rcases List.mem_cons.mp h with rfl | h
    · simp
    · rw [ih h, Bool.true_or]

/-- A file that is written once more does not show what it held before. -/
theorem Takes.lastAt_or_entryAt_put (ht : d.Takes place) {sent : List (Sink × ByteArray)} {p : List String}
    (hp : (lastAt p sent).isSome ∨ p ≠ place) (bytes : ByteArray) :
    ((lastAt p sent).map Entry.file).or ((d.put place bytes).entryAt p) =
      ((lastAt p sent).map Entry.file).or (d.entryAt p) := by
  rcases hp with hsome | hne
  · obtain ⟨last, hlast⟩ := Option.isSome_iff_exists.mp hsome
    rw [hlast]
    rfl
  · rw [ht.entryAt_put, if_neg hne]

end Disk

theorem Session.settings_run (s : Session) (texts : List String) : (s.run texts).settings = s.settings := by
  induction texts generalizing s with
  | nil => rfl
  | cons text texts ih =>
    rw [run_cons, ih]
    cases h : s.submit text with
    | ok t => rw [step_of_submit h, settings_submit h]
    | error e => rw [step_of_error h]

namespace CommandLine

namespace Job

def prompting (job : Job) (prompts : List String) (script : Option String) : Job := { job with prompts, script }

/-- The job that only saves the session that its prompts lead to. -/
def upTo (job : Job) (path : String) : Job := { job with output := none, dump := false, save := some path }

/-- The job from a saved session on. -/
def after (job : Job) (path : String) : Job := { job with load := some path }

variable {job : Job} {d d' : Disk} {s t : Session} {texts : List String} {path : String} {place : List String}

theorem reports_upTo (job : Job) (path : String) (s : Session) (texts : List String) :
    (job.upTo path).reports s texts = (s.refusals texts).map .error := by
  have hreports : (job.upTo path).meshReports (s.run texts) = [] := if_neg fun h => Bool.false_ne_true h.1
  rw [reports, hreports, List.append_nil]

/-- A new run sees nothing of such a job but the file with the session. -/
theorem handed_upTo {logger : Disk.Logger} (hd : d.Sound) (hpath : d.sink? path = some (.file place)) (job : Job)
    (s : Session) (texts : List String) (i : ByteArray) :
    (d.performAll logger ((job.upTo path).acts s texts)).handed i =
      (d.put place (s.run texts).save.toUTF8).handed i := by
  have htalk := (yields_talkActs (job.upTo path) s texts).writes
  have hnow := (hd.keeps.performAll logger ((job.upTo path).talkActs s texts)).sink hpath
  have hlate : (Act.log (.saved path) :: endActs ((job.upTo path).reports s texts)).filterMap Act.write? = [] :=
    (yields_endActs _).writes
  have hacts : (job.upTo path).acts s texts = (job.upTo path).talkActs s texts ++
      .write path (s.run texts).save.toUTF8 :: .log (.saved path) :: endActs ((job.upTo path).reports s texts) := rfl
  rw [hacts, Disk.performAll_append, Disk.performAll_cons, Disk.perform_write hnow, Disk.handed_performAll hlate]
  show (Disk.handed _ i).put place _ = (d.handed i).put place _
  rw [Disk.handed_performAll htalk]

/-- A job that loads what was saved starts from the session that was saved. -/
theorem opens_after {e e' : Disk} (hs : s.Sound) (ht : d.Takes place) (hpath : d.target? path = some place)
    (hsettings : (job.settings Disk.store).run (d.put place s.save.toUTF8) = (.ok s.settings, e))
    (hcollect : (job.collect Disk.store Disk.console).run e = (.ok texts, e')) :
    (job.after path).Opens (d.put place s.save.toUTF8) s texts e' := by
  refine ⟨e, ?_, hcollect⟩
  obtain ⟨i, rfl⟩ := run_keeps (onlyReads_settings job) hsettings
  have hread : (Disk.store.read path).run { d.put place s.save.toUTF8 with input := i } =
      (.ok s.save.toUTF8, { d.put place s.save.toUTF8 with input := i }) := by
    have hkept : Disk.Takes { d with input := i } place := ⟨ht.dir, ht.entry⟩
    exact Disk.run_read_of_ok (Disk.read_of_file (hkept.target?_put hpath) (Disk.entryAt_put ..))
  have hlimit : s.model.limit = s.settings.primitiveLimit := hs.limit
  have hload : Session.load s.save.toUTF8 s.settings = .ok s := by
    rw [hs.load_toUTF8 (Settings.check_eq_ok.mpr hs.settings) (hlimit ▸ hs.fits), ← hlimit]
  unfold session
  rw [Disk.run_bind_of (show ((job.after path).settings Disk.store).run _ = _ from hsettings)]
  show StateT.run (do return Session.ofFile (← Disk.store.read path) s.settings : StateM Disk _) _ = _
  rw [Disk.run_bind_of hread, Session.ofFile, hload]
  rfl

/-- A configuration that is in an ordinary file says the same after any other file has been written. -/
theorem settings_put (ht : d.Takes place) (hconfig : ∀ path ∈ job.config, ∃ p content, d.target? path = some p ∧
    p ≠ place ∧ d.entryAt p = some (.file content)) (bytes i i' : ByteArray) :
    (job.settings Disk.store).run ((d.put place bytes).handed i') =
      (((job.settings Disk.store).run (d.handed i)).1, (d.put place bytes).handed i') := by
  unfold settings
  cases hpath : job.config with
  | none => rfl
  | some path =>
    obtain ⟨p, content, htarget, hne, hfile⟩ := hconfig path hpath
    have hread : (Disk.store.read path).run (d.handed i) = (.ok content, d.handed i) :=
      Disk.run_read_of_ok (Disk.read_of_file htarget hfile)
    have hagain : (Disk.store.read path).run ((d.put place bytes).handed i') =
        (.ok content, (d.put place bytes).handed i') := by
      have hput : (d.put place bytes).entryAt p = some (.file content) := by rw [ht.entryAt_put, if_neg hne, hfile]
      exact Disk.run_read_of_ok (Disk.read_of_file (ht.target?_put htarget) hput)
    dsimp only
    rw [Disk.run_bind_of hread, Disk.run_bind_of hagain]
    rfl

theorem reports_append (job : Job) (s : Session) (before after : List String) :
    job.reports s (before ++ after) = (s.refusals before).map .error ++ job.reports (s.run before) after := by
  rw [reports, reports, Session.refusals_append, Session.run_append, List.map_append, List.append_assoc]

end Job

theorem status_eq_zero {reports : List Report} : (if reports = [] then 0 else failureStatus) = 0 ↔ reports = [] := by
  simp [failureStatus]

/-- One run of a job does what two runs do between them, of which the first one saves its session and the second one
loads it. The first part of the prompts goes to the one and the rest to the other, and the settings are the same for
both. -/
theorem split_runs (logger logger₁ logger₂ : Disk.Logger) {args args₁ args₂ : List String} {job : Job}
    {prompts₁ prompts₂ : List String} {script₁ script₂ : Option String} {path : String} {place : List String}
    {before after : List String} {d d₀ d₁ e e' : Disk} {s : Session} {i i₁ i₂ : ByteArray} (hd : d.Sound)
    (hargs : parse args = .ok job) (hargs₁ : parse args₁ = .ok ((job.prompting prompts₁ script₁).upTo path))
    (hargs₂ : parse args₂ = .ok ((job.prompting prompts₂ script₂).after path))
    (hout : ∀ path ∈ job.output, (d.sink? path).isSome) (hsave : ∀ path ∈ job.save, (d.sink? path).isSome)
    (hpath : d.sink? path = some (.file place))
    (hopens : job.Opens (d.handed i) s (before ++ after) d₀)
    (hopens₁ : ((job.prompting prompts₁ script₁).upTo path).Opens (d.handed i₁) s before d₁)
    (hsettings : (job.settings Disk.store).run ((d.put place (s.run before).save.toUTF8).handed i₂) =
      (.ok s.settings, e))
    (hcollect : ((job.prompting prompts₂ script₂).collect Disk.store Disk.console).run e = (.ok after, e')) :
    ∃ status d' status₁ d₁' status₂ d₂',
      (run args Disk.store (Disk.logging logger)).run (d.handed i) = (status, d') ∧
      (run args₁ Disk.store (Disk.logging logger₁)).run (d.handed i₁) = (status₁, d₁') ∧
      (run args₂ Disk.store (Disk.logging logger₂)).run (d₁'.handed i₂) = (status₂, d₂') ∧
      ((job.prompting prompts₂ script₂).after path).Opens (d₁'.handed i₂) (s.run before) after e' ∧
      (s.refusals (before ++ after)).length =
        (s.refusals before).length + ((s.run before).refusals after).length ∧
      job.reports s (before ++ after) = ((job.prompting prompts₁ script₁).upTo path).reports s before ++
        ((job.prompting prompts₂ script₂).after path).reports (s.run before) after ∧
      d'.output = d₂'.output ∧ (status = 0 ↔ status₁ = 0 ∧ status₂ = 0) ∧
      (∀ p, p ≠ place → d'.entryAt p = d₂'.entryAt p) ∧
      ∀ w ∈ job.writes (s.run (before ++ after)), ∀ p, d.sink? w.1 = some (.file p) → d'.entryAt p = d₂'.entryAt p := by
  have hs : s.Sound := hopens.reachable.sound
  have ht : d.Takes place := hd.takes_of_sink hpath
  have hput : (d.put place (s.run before).save.toUTF8).Sound := hd.put place _
  have hkept : ∀ {other}, (d.sink? other).isSome → ((d.put place (s.run before).save.toUTF8).sink? other).isSome := by
    intro other h
    obtain ⟨sink, hsink⟩ := Option.isSome_iff_exists.mp h
    rw [ht.sink?_put hsink]
    rfl
  have hopens₂ : ((job.prompting prompts₂ script₂).after path).Opens
      ((d.put place (s.run before).save.toUTF8).handed i₂) (s.run before) after e' := by
    refine Job.opens_after (d := d.handed i₂) (hs.run before) ⟨ht.dir, ht.entry⟩ (Disk.target?_of_sink hpath) ?_
      hcollect
    rw [Session.settings_run]
    exact hsettings
  have hsave₁ : ∀ other ∈ some path, (d.sink? other).isSome := by
    rintro _ ⟨⟩
    exact Option.isSome_iff_exists.mpr ⟨_, hpath⟩
  have hout₂ := fun other (h : other ∈ job.output) => hkept (hout other h)
  have hsave₂ := fun other (h : other ∈ job.save) => hkept (hsave other h)
  have hrun := hopens.run logger (hd.handed i) hargs hout hsave
  have hrun₁ := hopens₁.run logger₁ (hd.handed i₁) hargs₁ nofun hsave₁
  have hrun₂ := hopens₂.run logger₂ (hput.handed i₂) hargs₂ hout₂ hsave₂
  have hnext : (d₁.performAll logger₁ (((job.prompting prompts₁ script₁).upTo path).acts s before)).handed i₂ =
      (d.put place (s.run before).save.toUTF8).handed i₂ := by
    obtain ⟨j, rfl⟩ := hopens₁.keeps
    rw [Job.handed_upTo ((hd.handed i₁).withInput j) hpath]
    simp only [Disk.handed, Disk.put, Stream.renewed_renewed]
  -- both write the same to the same sinks
  have hlast : (s.run before).run after = s.run (before ++ after) := (Session.run_append s before after).symm
  have hsent : (d.put place (s.run before).save.toUTF8).deliveries (job.writes (s.run (before ++ after))) =
      d.deliveries (job.writes (s.run (before ++ after))) :=
    ht.deliveries_put _ fun _ => Job.writable hout hsave
  have hreports : job.reports s (before ++ after) = ((job.prompting prompts₁ script₁).upTo path).reports s before ++
      ((job.prompting prompts₂ script₂).after path).reports (s.run before) after := by
    rw [Job.reports_append, Job.reports_upTo]
    rfl
  have houtput : (d₀.performAll logger (job.acts s (before ++ after))).out =
      (e'.performAll logger₂ (((job.prompting prompts₂ script₂).after path).acts (s.run before) after)).out := by
    rw [hopens.out_acts (hd.handed i) hout hsave, hopens₂.out_acts (hput.handed i₂) hout₂ hsave₂, hlast]
    exact congrArg (Disk.streamed .output _) hsent.symm
  have hentry : ∀ p, (Disk.lastAt p (d.deliveries (job.writes (s.run (before ++ after))))).isSome ∨ p ≠ place →
      (d₀.performAll logger (job.acts s (before ++ after))).entryAt p =
        (e'.performAll logger₂
          (((job.prompting prompts₂ script₂).after path).acts (s.run before) after)).entryAt p := by
    intro p hp
    rw [hopens.entryAt_acts (hd.handed i) hout hsave, hopens₂.entryAt_acts (hput.handed i₂) hout₂ hsave₂, hlast]
    show ((Disk.lastAt p (d.deliveries (job.writes _))).map Entry.file).or (d.entryAt p) =
      ((Disk.lastAt p ((d.put place _).deliveries (job.writes _))).map Entry.file).or ((d.put place _).entryAt p)
    rw [hsent, ht.lastAt_or_entryAt_put hp]
  rw [← hnext] at hrun₂ hopens₂
  refine ⟨_, _, _, _, _, _, hrun, hrun₁, hrun₂, hopens₂, ?_, hreports, congrArg Stream.bytes houtput, ?_,
    fun p hp => hentry p (.inr hp), fun w hw p hp => ?_⟩
  · rw [Session.refusals_append, List.length_append]
  · rw [status_eq_zero, status_eq_zero, status_eq_zero, hreports, List.append_eq_nil_iff]
  · have hmem : (.file p, w.2) ∈ d.deliveries (job.writes (s.run (before ++ after))) :=
      List.mem_filterMap.mpr ⟨w, hw, by rw [hp]; rfl⟩
    exact hentry p (.inl (Disk.lastAt_isSome hmem))

theorem collect_arguments {job : Job} (hscript : job.script = none) (hprompts : job.prompts ≠ []) (d : Disk) :
    (job.collect Disk.store Disk.console).run d = (.ok (promptLines (job.prompts.map String.toList)), d) := by
  unfold Job.collect
  rw [hscript]
  dsimp only
  rw [if_neg (by simpa using hprompts)]
  rfl

/-- A disk that holds a configuration with room for two primitives. -/
def partDisk : Disk := Disk.blank.put ["tmp", "work", "part.cfg"] "(max_primitives: 2)".toUTF8

def partJob : Job where
  prompts := ["cube 1mm", " pyramid 2mm", "# then", "add sphere radius 2mm"]
  output := some "part.stl"
  name := some "part"
  config := some "part.cfg"
  dump := true
  save := some "part.ron"

def partArgs : List String :=
  ["cube 1mm", " pyramid 2mm", "--name", "part", "-cpart.cfg", "# then", "add sphere radius 2mm", "-opart.stl",
    "--dump-ir", "--save", "part.ron"]

def partArgs₁ : List String := ["cube 1mm", " pyramid 2mm", "--name", "part", "-cpart.cfg", "--save", "half.ron"]

def partArgs₂ : List String :=
  ["# then", "add sphere radius 2mm", "--name", "part", "-cpart.cfg", "--load", "half.ron", "-opart.stl", "--dump-ir",
    "--save", "part.ron"]

def partSession : Session := ⟨.withLimit 2, {}, { Settings.standard with primitiveLimit := 2, solidName := "part" }⟩

theorem config_part : partDisk.target? "part.cfg" = some ["tmp", "work", "part.cfg"] := by decide +kernel

theorem file_part : partDisk.entryAt ["tmp", "work", "part.cfg"] = some (.file "(max_primitives: 2)".toUTF8) :=
  Disk.entryAt_put ..

theorem settings_part (i : ByteArray) :
    (partJob.settings Disk.store).run (partDisk.handed i) = (.ok partSession.settings, partDisk.handed i) := by
  have hread : (Disk.store.read "part.cfg").run (partDisk.handed i) =
      (.ok "(max_primitives: 2)".toUTF8, partDisk.handed i) :=
    Disk.run_read_of_ok (Disk.read_of_file config_part file_part)
  have hfound : (Settings.ofText "(max_primitives: 2)").toOption =
      some { Settings.standard with primitiveLimit := 2 } := by decide +kernel
  have hfile : Settings.ofFile (.ok "(max_primitives: 2)".toUTF8) =
      .ok { Settings.standard with primitiveLimit := 2 } := by
    rw [Settings.ofFile, show (Except.ok _).bind textOf = .ok "(max_primitives: 2)" from textOf_toUTF8 _]
    exact toOption_eq_some.mp hfound
  refine (Disk.run_bind_of hread).trans ?_
  rw [hfile]
  rfl

theorem opens_part {job : Job} {texts : List String} (hconfig : job.config = partJob.config)
    (hname : job.name = partJob.name) (hload : job.load = none) (hscript : job.script = none)
    (hprompts : job.prompts ≠ []) (htexts : promptLines (job.prompts.map String.toList) = texts) (i : ByteArray) :
    job.Opens (partDisk.handed i) partSession texts (partDisk.handed i) := by
  refine ⟨partDisk.handed i, ?_, by rw [collect_arguments hscript hprompts, htexts]⟩
  have hsettings : job.settings Disk.store = partJob.settings Disk.store := by
    rw [Job.settings, hconfig, hname, Job.settings]
  unfold Job.session
  rw [hsettings, Disk.run_bind_of (settings_part i), hload]
  rfl

/-- A job in two halves, with a prompt that is refused in the first one and a comment in the second one. -/
theorem split_runs_part :
    partDisk.Sound ∧ parse partArgs = .ok partJob ∧
      parse partArgs₁ = .ok ((partJob.prompting ["cube 1mm", " pyramid 2mm"] none).upTo "half.ron") ∧
      parse partArgs₂ = .ok ((partJob.prompting ["# then", "add sphere radius 2mm"] none).after "half.ron") ∧
      (∀ path ∈ partJob.output, (partDisk.sink? path).isSome) ∧ (∀ path ∈ partJob.save, (partDisk.sink? path).isSome) ∧
      partDisk.sink? "half.ron" = some (.file ["tmp", "work", "half.ron"]) ∧
      ∃ status d' status₁ d₁' status₂ d₂',
        (run partArgs Disk.store (Disk.logging warner)).run (partDisk.handed .empty) = (status, d') ∧
        (run partArgs₁ Disk.store Disk.console).run (partDisk.handed .empty) = (status₁, d₁') ∧
        (run partArgs₂ Disk.store Disk.console).run (d₁'.handed .empty) = (status₂, d₂') ∧
        d'.output = d₂'.output ∧ (status = 0 ↔ status₁ = 0 ∧ status₂ = 0) ∧
        d'.entryAt ["tmp", "work", "part.stl"] = d₂'.entryAt ["tmp", "work", "part.stl"] ∧
        d'.entryAt ["tmp", "work", "part.ron"] = d₂'.entryAt ["tmp", "work", "part.ron"] := by
  have hd : partDisk.Sound := Disk.sound_blank.put _ _
  have hargs : parse partArgs = .ok partJob := rfl
  have hargs₁ : parse partArgs₁ = .ok ((partJob.prompting ["cube 1mm", " pyramid 2mm"] none).upTo "half.ron") := rfl
  have hargs₂ :
      parse partArgs₂ = .ok ((partJob.prompting ["# then", "add sphere radius 2mm"] none).after "half.ron") := rfl
  have hout : ∀ path ∈ partJob.output, (partDisk.sink? path).isSome := by decide +kernel
  have hsave : ∀ path ∈ partJob.save, (partDisk.sink? path).isSome := by decide +kernel
  have hpath : partDisk.sink? "half.ron" = some (.file ["tmp", "work", "half.ron"]) := by decide +kernel
  have hopens : ∀ i, partJob.Opens (partDisk.handed i) partSession
      (["cube 1mm", "pyramid 2mm"] ++ ["add sphere radius 2mm"]) (partDisk.handed i) :=
    opens_part rfl rfl rfl rfl (by decide) (by decide +kernel)
  have hopens₁ : ∀ i, ((partJob.prompting ["cube 1mm", " pyramid 2mm"] none).upTo "half.ron").Opens (partDisk.handed i)
      partSession ["cube 1mm", "pyramid 2mm"] (partDisk.handed i) :=
    opens_part rfl rfl rfl rfl (by decide) (by decide +kernel)
  have hconfig : ∀ path ∈ partJob.config, ∃ p content, partDisk.target? path = some p ∧
      p ≠ ["tmp", "work", "half.ron"] ∧ partDisk.entryAt p = some (.file content) := by
    rintro path ⟨⟩
    exact ⟨_, _, config_part, by decide, file_part⟩
  have hsettings := Job.settings_put (hd.takes_of_sink hpath) hconfig
    (partSession.run ["cube 1mm", "pyramid 2mm"]).save.toUTF8 .empty .empty
  rw [settings_part] at hsettings
  have htexts : promptLines ((partJob.prompting ["# then", "add sphere radius 2mm"] none).prompts.map String.toList) =
      ["add sphere radius 2mm"] := by decide +kernel
  have hcollect : ∀ d, ((partJob.prompting ["# then", "add sphere radius 2mm"] none).collect Disk.store
      Disk.console).run d = (.ok ["add sphere radius 2mm"], d) := fun d => by
    rw [collect_arguments rfl (by decide), htexts]
  obtain ⟨status, d', status₁, d₁', status₂, d₂', hrun, hrun₁, hrun₂, -, -, -, houtput, hstatus, hentry, -⟩ :=
    split_runs warner .silent .silent hd hargs hargs₁ hargs₂ hout hsave hpath (hopens .empty) (hopens₁ .empty) hsettings
      (hcollect _)
  exact ⟨hd, hargs, hargs₁, hargs₂, hout, hsave, hpath, status, d', status₁, d₁', status₂, d₂', hrun, hrun₁,
    hrun₂, houtput, hstatus, hentry _ (by decide), hentry _ (by decide)⟩

end CommandLine

end PromptCad
