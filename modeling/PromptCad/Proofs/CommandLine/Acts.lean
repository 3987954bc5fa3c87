import PromptCad.CommandLine.Memory
import PromptCad.Proofs.Files.Disk
import PromptCad.Proofs.Files.Stream

/-! What a program does to the world, act by act, and what comes of it: paths lead where they led, each file holds what
was last written to it, and a stream takes what is said through it and what is written to a path that leads there. -/

namespace PromptCad

namespace CommandLine.Report

def text (reports : List Report) : ByteArray := (String.join (reports.map line)).toUTF8

theorem text_cons (r : Report) (rest : List Report) : text (r :: rest) = r.line.toUTF8 ++ text rest := by
  rw [text, List.map_cons, String.join_cons]
  exact ByteArray.ext rfl

/-- Reports with a warning in front of each, for as long as there are warnings. -/
def warned : List ByteArray → List Report → ByteArray
  | w :: warnings, r :: reports => w ++ r.line.toUTF8 ++ warned warnings reports
  | _, reports => text reports

theorem warned_append {warnings : List ByteArray} {a : List Report} (h : warnings.length = a.length) (b : List Report) :
    warned warnings (a ++ b) = warned warnings a ++ text b := by
  induction warnings generalizing a with
  | nil =>
    rw [List.length_eq_zero_iff.mp h.symm]
    exact ByteArray.empty_append.symm
  | cons w warnings ih => cases a with
    | nil => cases h
    | cons r a => rw [List.cons_append, warned, ih (Nat.succ.inj h), warned, ByteArray.append_assoc (c := text b)]

end CommandLine.Report

open CommandLine (Report)

inductive Act where
  | log (e : Event)
  | report (r : Report)
  | display (text : String)
  | write (path : String) (bytes : ByteArray)

namespace Act

def report? : Act → Option Report
  | report r => some r
  | _ => none

def display? : Act → Option String
  | display text => some text
  | _ => none

def write? : Act → Option (String × ByteArray)
  | write path bytes => some (path, bytes)
  | _ => none

/-- What acts yield besides log lines: reports, texts that are shown, and writes. -/
structure Yields (acts : List Act) (reports : List Report) (texts : List String) (writes : List (String × ByteArray)) :
    Prop where
  reports : acts.filterMap report? = reports
  texts : acts.filterMap display? = texts
  writes : acts.filterMap write? = writes

theorem yields_nil : Yields [] [] [] [] := ⟨rfl, rfl, rfl⟩

theorem yields_events (events : List Event) : Yields (events.map .log) [] [] [] := by
  constructor <;> simp [List.filterMap_map, Function.comp_def, report?, display?, write?]

theorem Yields.append {acts more : List Act} {reports reports' : List Report} {texts texts' : List String}
    {writes writes' : List (String × ByteArray)} (h : Yields acts reports texts writes)
    (h' : Yields more reports' texts' writes') :
    Yields (acts ++ more) (reports ++ reports') (texts ++ texts') (writes ++ writes') :=
  ⟨by rw [List.filterMap_append, h.reports, h'.reports], by rw [List.filterMap_append, h.texts, h'.texts],
    by rw [List.filterMap_append, h.writes, h'.writes]⟩

end Act

namespace Disk

variable {logger : Logger} {d e : Disk} {a : Act} {acts more : List Act} {path : String} {sink : Sink}
  {bytes : ByteArray}

def perform (logger : Logger) (d : Disk) : Act → Disk
  | .log event => d.printError (logger d event)
  | .report r => d.printError r.line.toUTF8
  | .display text => d.print text.toUTF8
  | .write path bytes => (d.sink? path).elim d (d.pour bytes)

def performAll (logger : Logger) (d : Disk) (acts : List Act) : Disk := acts.foldl (perform logger) d

theorem performAll_cons : d.performAll logger (a :: acts) = (d.perform logger a).performAll logger acts := rfl

theorem performAll_append :
    d.performAll logger (acts ++ more) = (d.performAll logger acts).performAll logger more := List.foldl_append

theorem perform_write (h : d.sink? path = some sink) (bytes : ByteArray) :
    d.perform logger (.write path bytes) = d.pour bytes sink := by
  rw [perform, h]
  rfl

/-! ### Where paths lead -/

/-- What acts keep: a path that can be written to still leads where it led. -/
structure Keeps (d e : Disk) : Prop where
  sound : e.Sound
  sink : ∀ {path sink}, d.sink? path = some sink → e.sink? path = some sink

theorem Sound.keeps (hd : d.Sound) : d.Keeps d := ⟨hd, id⟩

theorem Keeps.pour (h : d.Keeps e) (hsink : e.sink? path = some sink) (bytes : ByteArray) :
    d.Keeps (e.pour bytes sink) :=
  ⟨h.sound.pour bytes sink, fun hnext => h.sound.sink?_pour hsink (h.sink hnext)⟩

theorem Keeps.perform (h : d.Keeps e) (logger : Logger) (a : Act) : d.Keeps (e.perform logger a) := by
  cases a with
  | log | report => exact ⟨h.sound.printError _, h.sink⟩
  | display => exact ⟨h.sound.print _, h.sink⟩
  | write path bytes =>
    cases hsink : e.sink? path with
    | none =>
      rw [Disk.perform, hsink]
      exact h
    | some sink =>
      rw [perform_write hsink]
      exact h.pour hsink bytes

theorem Keeps.performAll (h : d.Keeps e) (logger : Logger) (acts : List Act) : d.Keeps (e.performAll logger acts) := by
  induction acts generalizing e with
  | nil => exact h
  | cons a acts ih => exact ih (h.perform logger a)

def Writable (d : Disk) (acts : List Act) : Prop := ∀ path bytes, Act.write path bytes ∈ acts → (d.sink? path).isSome

theorem Writable.tail (h : d.Writable (a :: acts)) : d.Writable acts :=
  fun path bytes hmem => h path bytes (List.mem_cons_of_mem a hmem)

theorem writable_of_yields {reports : List Report} {texts : List String} {writes : List (String × ByteArray)}
    (h : Act.Yields acts reports texts writes) (hwrites : ∀ w ∈ writes, (d.sink? w.1).isSome) : d.Writable acts :=
  fun path bytes hmem => hwrites (path, bytes) (h.writes ▸ List.mem_filterMap.mpr ⟨_, hmem, rfl⟩)

theorem Keeps.write (h : d.Keeps e) (logger : Logger) (hacts : d.Writable (.write path bytes :: acts)) :
    ∃ sink, d.sink? path = some sink ∧ e.sink? path = some sink ∧
      e.perform logger (.write path bytes) = e.pour bytes sink := by
  obtain ⟨sink, hsink⟩ := Option.isSome_iff_exists.mp (hacts path bytes List.mem_cons_self)
  exact ⟨sink, hsink, h.sink hsink, perform_write (h.sink hsink) bytes⟩

/-! ### Files -/

/-- Where bytes go that are written to paths. -/
def deliveries (d : Disk) (writes : List (String × ByteArray)) : List (Sink × ByteArray) :=
  writes.filterMap fun w => (d.sink? w.1).map (·, w.2)

/-- The last that a file gets. -/
def lastAt (place : List String) : List (Sink × ByteArray) → Option ByteArray
  | [] => none
  | (sink, bytes) :: rest => (lastAt place rest).or (if sink = .file place then some bytes else none)

/-- A stream after bytes went to sinks, of which it is one. -/
def streamed (sink : Sink) (s : Stream) (sent : List (Sink × ByteArray)) : Stream :=
  sent.foldl (fun s e => if e.1 = sink then s.write e.2 else s) s

theorem streamed_of_forall_ne {sent : List (Sink × ByteArray)} (h : ∀ e ∈ sent, e.1 ≠ sink) (s : Stream) :
    streamed sink s sent = s := by
  induction sent with
  | nil => rfl
  | cons e sent ih =>
    rw [streamed, List.foldl_cons, if_neg (h e List.mem_cons_self)]
    exact ih fun e' he' => h e' (List.mem_cons_of_mem e he')

theorem deliveries_cons (h : d.sink? path = some sink) (bytes : ByteArray) (writes : List (String × ByteArray)) :
    d.deliveries ((path, bytes) :: writes) = (sink, bytes) :: d.deliveries writes := by simp [deliveries, h]

theorem deliveries_congr {d' : Disk} {writes : List (String × ByteArray)}
    (h : ∀ w ∈ writes, d'.sink? w.1 = d.sink? w.1) : d'.deliveries writes = d.deliveries writes :=
  List.filterMap_congr fun w hw => by rw [h w hw]

/-- Each file holds the last that was written to it, and every other place is as it was. -/
theorem Keeps.entryAt_performAll (h : d.Keeps e) (hacts : d.Writable acts) (place : List String) :
    (e.performAll logger acts).entryAt place =
      ((lastAt place (d.deliveries (acts.filterMap Act.write?))).map Entry.file).or (e.entryAt place) := by
  induction acts generalizing e with
  | nil => rfl
  | cons a acts ih =>
    rw [performAll_cons, ih (h.perform logger a) hacts.tail]
    cases a with
    | log | report | display => rfl
    | write path bytes =>
      obtain ⟨sink, hsink, hnow, hperform⟩ := h.write logger hacts
      have htakes : ∀ p, sink = .file p → e.Takes p := fun p hp => h.sound.takes_of_sink (hp ▸ hnow)
      have hfirst : d.deliveries ((Act.write path bytes :: acts).filterMap Act.write?) =
          (sink, bytes) :: d.deliveries (acts.filterMap Act.write?) := deliveries_cons hsink bytes _
      rw [hperform, entryAt_pour htakes, hfirst, lastAt]
      split <;> cases lastAt place _ <;> rfl

/-! ### The stream where things are shown -/

def outAfter (d : Disk) (s : Stream) : Act → Stream
  | .display text => s.print text.toUTF8
  | .write path bytes => if d.sink? path = some .output then s.write bytes else s
  | .log _ | .report _ => s

theorem out_pour (bytes : ByteArray) (sink : Sink) :
    (e.pour bytes sink).out = if sink = .output then e.out.write bytes else e.out := by
  cases sink <;> rfl

theorem Keeps.out_performAll (h : d.Keeps e) (hacts : d.Writable acts) :
    (e.performAll logger acts).out = acts.foldl d.outAfter e.out := by
  induction acts generalizing e with
  | nil => rfl
  | cons a acts ih =>
    rw [performAll_cons, ih (h.perform logger a) hacts.tail, List.foldl_cons]
    congr 1
    cases a with
    | log | report | display => rfl
    | write path bytes =>
      obtain ⟨sink, hsink, -, hperform⟩ := h.write logger hacts
      rw [hperform, out_pour, outAfter, hsink]
      simp only [Option.some.injEq]

theorem outAfter_of_no_writes (h : acts.filterMap Act.write? = []) (s : Stream) :
    acts.foldl d.outAfter s = (acts.filterMap Act.display?).foldl (fun s text => s.print text.toUTF8) s := by
  induction acts generalizing s with
  | nil => rfl
  | cons a acts ih => cases a with
    | log | report => exact ih h s
    | display text => exact ih h _
    | write path bytes => cases h

theorem outAfter_of_no_displays (hacts : d.Writable acts) (h : acts.filterMap Act.display? = []) (s : Stream) :
    acts.foldl d.outAfter s = streamed .output s (d.deliveries (acts.filterMap Act.write?)) := by
  induction acts generalizing s with
  | nil => rfl
  | cons a acts ih => cases a with
    | log | report => exact ih hacts.tail h s
    | display text => cases h
    | write path bytes =>
      obtain ⟨sink, hsink⟩ := Option.isSome_iff_exists.mp (hacts path bytes List.mem_cons_self)
      have hfirst : d.deliveries ((Act.write path bytes :: acts).filterMap Act.write?) =
          (sink, bytes) :: d.deliveries (acts.filterMap Act.write?) := deliveries_cons hsink bytes _
      rw [List.foldl_cons, ih hacts.tail h, outAfter, hsink, hfirst, streamed, streamed, List.foldl_cons]
      simp only [Option.some.injEq]

/-! ### The stream where failures are reported -/

/-- Nothing that the acts write comes to the stream. -/
def Apart (d : Disk) (acts : List Act) : Prop :=
  ∀ path bytes, Act.write path bytes ∈ acts → d.sink? path ≠ some .errors

theorem apart_of_yields {reports : List Report} {texts : List String} {writes : List (String × ByteArray)}
    (h : Act.Yields acts reports texts writes) (hsent : ∀ e ∈ d.deliveries writes, e.1 ≠ .errors) : d.Apart acts := by
  intro path bytes hmem hsink
  have hwrite : (path, bytes) ∈ writes := h.writes ▸ List.mem_filterMap.mpr ⟨_, hmem, rfl⟩
  exact hsent (.errors, bytes) (List.mem_filterMap.mpr ⟨_, hwrite, by rw [hsink]; rfl⟩) rfl

def said (logger : Logger) (d : Disk) : Act → ByteArray
  | .log event => logger d event
  | .report r => r.line.toUTF8
  | .display _ | .write _ _ => .empty

def saidAll (logger : Logger) (d : Disk) : List Act → ByteArray
  | [] => .empty
  | a :: acts => d.said logger a ++ (d.perform logger a).saidAll logger acts

theorem saidAll_append (d : Disk) (acts more : List Act) :
    d.saidAll logger (acts ++ more) =
      d.saidAll logger acts ++ (d.performAll logger acts).saidAll logger more := by
  induction acts generalizing d with
  | nil => exact ByteArray.empty_append.symm
  | cons a acts ih => rw [List.cons_append, saidAll, ih, saidAll, ByteArray.append_assoc, performAll_cons]

/-- The log says nothing of events that are not usually shown. -/
def Logger.Usual (logger : Logger) : Prop := ∀ event, event.isUsual = false → ∀ now, logger now event = .empty

/-- If the log says nothing of their events, acts say their reports. -/
theorem saidAll_of_unheard (h : ∀ event, Act.log event ∈ acts → ∀ now, logger now event = .empty) (d : Disk) :
    d.saidAll logger acts = Report.text (acts.filterMap Act.report?) := by
  induction acts generalizing d with
  | nil => rfl
  | cons a acts ih =>
    rw [saidAll, ih fun event hmem => h event (List.mem_cons_of_mem a hmem)]
    cases a with
    | report r => exact (Report.text_cons r _).symm
    | log event =>
      rw [said, h event List.mem_cons_self, ByteArray.empty_append]
      rfl
    | display | write => exact ByteArray.empty_append

theorem saidAll_events {events : List Event} (hlogger : logger.Usual) (h : ∀ event ∈ events, event.isUsual = false)
    (d : Disk) : d.saidAll logger (events.map .log) = .empty := by
  have hunheard : ∀ event, Act.log event ∈ events.map Act.log → ∀ now, logger now event = .empty := by
    intro event hmem
    obtain ⟨e, he, heq⟩ := List.mem_map.mp hmem
    cases heq
    exact hlogger event (h event he)
  rw [saidAll_of_unheard hunheard, (Act.yields_events events).reports]
  rfl

theorem err_pour (bytes : ByteArray) (h : sink ≠ .errors) : (e.pour bytes sink).err = e.err := by
  cases sink with
  | errors => exact absurd rfl h
  | file | output | nothing => rfl

theorem Keeps.err_performAll (h : d.Keeps e) (hacts : d.Writable acts) (hapart : d.Apart acts) :
    (e.performAll logger acts).err = e.err.print (e.saidAll logger acts) := by
  induction acts generalizing e with
  | nil => rfl
  | cons a acts ih =>
    have hrest : d.Apart acts := fun path bytes hmem => hapart path bytes (List.mem_cons_of_mem a hmem)
    rw [performAll_cons, ih (h.perform logger a) hacts.tail hrest, saidAll, ← Stream.print_print]
    congr 1
    cases a with
    | log | report | display => rfl
    | write path bytes =>
      obtain ⟨sink, hsink, -, hperform⟩ := h.write logger hacts
      have hother : sink ≠ .errors := fun herrors =>
        hapart path bytes List.mem_cons_self (hsink.trans (congrArg some herrors))
      rw [hperform, err_pour bytes hother]
      rfl

end Disk

end PromptCad
