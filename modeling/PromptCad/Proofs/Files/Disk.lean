import PromptCad.CommandLine.Memory
import PromptCad.Proofs.Except

/-! What reads and writes do to a disk. A write finds its way again after other writes: it could only go astray if a
directory came about where there was none, or if a link stopped being one. So a disk has to keep its links in order,
and every write keeps them so. -/

namespace PromptCad.Disk

variable {d : Disk} {path other : String} {place target : List String} {bytes content : ByteArray} {i : ByteArray}

/-- Something stands at a place or below it. -/
def Stands (d : Disk) (place : List String) : Prop := ∃ e ∈ d.entries, place <+: e.1

/-- The working directory is there, and links lead to what is there and is no link. -/
structure Sound (d : Disk) : Prop where
  here : d.Stands d.here
  links : ∀ place target, d.entryAt place = some (.link target) →
    d.Stands target ∧ ∀ next, d.entryAt target ≠ some (.link next)

theorem mem_of_lookup {l : List (List String × Entry)} {e : Entry} (h : l.lookup place = some e) :
    (place, e) ∈ l := by
  obtain ⟨a, b, rfl, -⟩ := List.lookup_eq_some_iff.mp h
  exact List.mem_append_right a List.mem_cons_self

theorem Stands.above (h : d.Stands target) (hp : place <+: target) : d.Stands place := by
  obtain ⟨e, he, hpre⟩ := h
  exact ⟨e, he, hp.trans hpre⟩

theorem any_eq_true : (d.entries.any fun e => place.isPrefixOf e.1) = true ↔ d.Stands place := by
  simp [Stands, List.any_eq_true, List.isPrefixOf_iff_prefix]

theorem entryAt_of_lookup {e : Entry} (h : d.entries.lookup place = some e) : d.entryAt place = some e := by
  rw [entryAt, h]

theorem entryAt_of_none (h : d.entries.lookup place = none) [Decidable (d.Stands place)] :
    d.entryAt place = if d.Stands place then some .directory else none := by
  rw [entryAt, h]
  simp only [any_eq_true]

theorem stands_iff : d.Stands place ↔ d.entryAt place ≠ none := by
  classical
  cases h : d.entries.lookup place with
  | none =>
    rw [entryAt_of_none h]
    split <;> simp_all
  | some e =>
    rw [entryAt_of_lookup h]
    exact ⟨fun _ => nofun, fun _ => ⟨_, mem_of_lookup h, List.prefix_refl place⟩⟩

theorem stands_of_entryAt {e : Entry} (h : d.entryAt place = some e) : d.Stands place :=
  stands_iff.mpr (by simp [h])

theorem lookup_of_link (h : d.entryAt place = some (.link target)) :
    d.entries.lookup place = some (.link target) := by
  classical
  cases hl : d.entries.lookup place with
  | some e => rw [← h, entryAt_of_lookup hl]
  | none =>
    rw [entryAt_of_none hl] at h
    split at h <;> simp at h

/-! ### Writing at a place -/

theorem stands_put : (d.put place bytes).Stands target ↔ d.Stands target ∨ target <+: place := by
  constructor
  · rintro ⟨e, he, hpre⟩
    rcases List.mem_cons.mp he with rfl | he
    · exact .inr hpre
    · exact .inl ⟨e, (List.mem_filter.mp he).1, hpre⟩
  · rintro (⟨e, he, hpre⟩ | hpre)
    · by_cases hplace : e.1 = place
      · exact ⟨_, List.mem_cons_self, hplace ▸ hpre⟩
      · exact ⟨e, List.mem_cons_of_mem _ (List.mem_filter.mpr ⟨he, by simpa using hplace⟩), hpre⟩
    · exact ⟨_, List.mem_cons_self, hpre⟩

theorem entryAt_put_of_ne (hdir : d.Stands place.dropLast) (hne : target ≠ place) :
    (d.put place bytes).entryAt target = d.entryAt target := by
  classical
  have hlookup : (d.put place bytes).entries.lookup target = d.entries.lookup target := by
    rw [lookup_put, if_neg hne]
  have hstands : (d.put place bytes).Stands target ↔ d.Stands target := by
    rw [stands_put, or_iff_left_of_imp]
    intro hpre
    rcases place.eq_nil_or_concat with rfl | ⟨front, last, rfl⟩
    · exact absurd (List.prefix_nil.mp hpre) hne
    · rw [List.concat_eq_append] at hpre hne hdir
      rw [List.dropLast_concat] at hdir
      exact hdir.above ((List.prefix_concat_iff.mp hpre).resolve_left hne)
  cases h : d.entries.lookup target with
  | some e => rw [entryAt_of_lookup h, entryAt_of_lookup (hlookup.trans h)]
  | none =>
    rw [entryAt_of_none h, entryAt_of_none (hlookup.trans h)]
    simp only [hstands]

theorem Sound.put (h : d.Sound) (place : List String) (bytes : ByteArray) : (d.put place bytes).Sound where
  here := stands_put.mpr (.inl h.here)
  links := by
    intro p target hlink
    have hlookup := lookup_of_link hlink
    rw [lookup_put] at hlookup
    split at hlookup
    · cases hlookup
    · obtain ⟨hstands, hnone⟩ := h.links p target (entryAt_of_lookup hlookup)
      refine ⟨stands_put.mpr (.inl hstands), fun next hnext => ?_⟩
      have htwice := lookup_of_link hnext
      rw [lookup_put] at htwice
      split at htwice
      · cases htwice
      · exact hnone next (entryAt_of_lookup htwice)

/-! ### Ways that lead to a place -/

theorem placeOf_eq_ok {name : String} (h : d.placeOf place name = .ok target) :
    d.entryAt (place ++ [name]) = some (.link target) ∨
      target = place ++ [name] ∧ ∀ next, d.entryAt (place ++ [name]) ≠ some (.link next) := by
  unfold placeOf at h
  split at h
  · cases h
  · split at h
    · next hlink =>
      cases h
      exact .inl hlink
    · next hnone =>
      cases h
      exact .inr ⟨rfl, hnone⟩

/-- No name means a link: what a link leads to is none. -/
theorem Sound.not_link_of_placeOf (hd : d.Sound) {name : String} (h : d.placeOf place name = .ok target)
    (next : List String) : d.entryAt target ≠ some (.link next) := by
  rcases placeOf_eq_ok h with hlink | ⟨rfl, hnone⟩
  · exact (hd.links _ _ hlink).2 next
  · exact hnone next

theorem Sound.stands_of_placeOf (hd : d.Sound) (hplace : d.Stands place) {name : String}
    (h : d.placeOf place name = .ok target) : d.Stands target.dropLast := by
  rcases placeOf_eq_ok h with hlink | ⟨rfl, -⟩
  · exact (hd.links _ _ hlink).1.above (List.dropLast_prefix target)
  · rwa [List.dropLast_concat]

theorem stands_of_enter {name : String} (hplace : d.Stands place) (h : d.enter place name = .ok target) :
    d.Stands target := by
  unfold enter at h
  split at h
  · cases h
    exact hplace.above (List.dropLast_prefix place)
  · obtain ⟨next, -, h⟩ := bind_eq_ok.mp h
    split at h
    · cases h
    · next hdir =>
      cases h
      exact stands_of_entryAt hdir
    · cases h

theorem stands_of_way {way : List String} (hplace : d.Stands place) (h : way.foldlM d.enter place = .ok target) :
    d.Stands target := by
  induction way generalizing place with
  | nil =>
    cases h
    exact hplace
  | cons name way ih =>
    rw [List.foldlM_cons] at h
    obtain ⟨next, hnext, h⟩ := bind_eq_ok.mp h
    exact ih (stands_of_enter hplace hnext) h

theorem follow_eq_ok {ending : PathEnd} :
    d.follow path = .ok (place, ending) ↔ path.utf8ByteSize ≤ greatestPath ∧ path ≠ "" ∧
      (Path.ofText path).way.foldlM d.enter (if (Path.ofText path).fromRoot then [] else d.here) = .ok place ∧
      (Path.ofText path).ending = ending := by
  by_cases hlong : greatestPath < path.utf8ByteSize
  · rw [follow, if_pos hlong]
    exact ⟨nofun, fun h => absurd h.1 (Nat.not_le.mpr hlong)⟩
  by_cases hempty : path = ""
  · rw [follow, if_neg hlong, if_pos hempty]
    exact ⟨nofun, fun h => absurd hempty h.2.1⟩
  rw [follow, if_neg hlong, if_neg hempty]
  refine ⟨fun hbind => ?_, fun ⟨_, _, hway, hending⟩ => ?_⟩
  · obtain ⟨found, hfound, hpure⟩ := bind_eq_ok.mp hbind
    cases hpure
    exact ⟨Nat.not_lt.mp hlong, hempty, hfound, rfl⟩
  · exact bind_eq_ok.mpr ⟨place, hway, by rw [hending]; rfl⟩

theorem Sound.stands_of_follow (hd : d.Sound) {ending : PathEnd} (h : d.follow path = .ok (place, ending)) :
    d.Stands place := by
  obtain ⟨-, -, hway, -⟩ := follow_eq_ok.mp h
  refine stands_of_way ?_ hway
  split
  · exact hd.here.above List.nil_prefix
  · exact hd.here

/-- The place that a path leads to, if it may be that of a file. -/
def target? (d : Disk) (path : String) : Option (List String) :=
  match d.follow path with
  | .ok (place, .name name false) => (d.placeOf place name).toOption
  | _ => none

theorem target?_eq_some : d.target? path = some target ↔
    ∃ place name, d.follow path = .ok (place, .name name false) ∧ d.placeOf place name = .ok target := by
  unfold target?
  constructor
  · split
    · next place name hfollow =>
      intro h
      exact ⟨place, name, hfollow, toOption_eq_some.mp h⟩
    · exact nofun
  · rintro ⟨place, name, hfollow, hplace⟩
    rw [hfollow]
    exact toOption_eq_some.mpr hplace

theorem Sound.stands_of_target (hd : d.Sound) (h : d.target? path = some target) : d.Stands target.dropLast := by
  obtain ⟨place, name, hfollow, hplace⟩ := target?_eq_some.mp h
  exact hd.stands_of_placeOf (hd.stands_of_follow hfollow) hplace

theorem Sound.not_link_of_target (hd : d.Sound) (h : d.target? path = some target) (next : List String) :
    d.entryAt target ≠ some (.link next) := by
  obtain ⟨place, name, -, hplace⟩ := target?_eq_some.mp h
  exact hd.not_link_of_placeOf hplace next

/-- A file may be put at a place: its directory is there, and nothing but a file at the place. -/
structure Takes (d : Disk) (place : List String) : Prop where
  dir : d.Stands place.dropLast
  entry : ∀ e, d.entryAt place = some e → ∃ content, e = .file content

namespace Takes

variable (ht : d.Takes place)

include ht

theorem entryAt_put (target : List String) :
    (d.put place bytes).entryAt target = if target = place then some (.file bytes) else d.entryAt target := by
  split
  · next h => rw [h, Disk.entryAt_put]
  · next h => exact entryAt_put_of_ne ht.dir h

theorem placeOf_put (p : List String) (name : String) : (d.put place bytes).placeOf p name = d.placeOf p name := by
  rw [placeOf, placeOf, ht.entryAt_put]
  by_cases h : p ++ [name] = place
  · rw [if_pos h, h]
    split
    · rfl
    · cases he : d.entryAt place with
      | none => rfl
      | some e =>
        obtain ⟨content, rfl⟩ := ht.entry e he
        rfl
  · rw [if_neg h]

/-- A way that could be gone can still be gone, for no directory on it has become a file. -/
theorem enter_put {p : List String} {name : String} (h : d.enter p name = .ok target) :
    (d.put place bytes).enter p name = .ok target := by
  by_cases habove : name = Path.above
  · rw [enter, if_pos habove] at h ⊢
    exact h
  · rw [enter, if_neg habove] at h ⊢
    rw [ht.placeOf_put]
    obtain ⟨next, hnext, h⟩ := bind_eq_ok.mp h
    refine bind_eq_ok.mpr ⟨next, hnext, ?_⟩
    by_cases hplace : next = place
    · subst hplace
      split at h
      · cases h
      · next hdir =>
        obtain ⟨content, hfile⟩ := ht.entry _ hdir
        cases hfile
      · cases h
    · rw [ht.entryAt_put, if_neg hplace]
      exact h

theorem way_put {way : List String} {p : List String} (h : way.foldlM d.enter p = .ok target) :
    way.foldlM (d.put place bytes).enter p = .ok target := by
  induction way generalizing p with
  | nil => exact h
  | cons name way ih =>
    rw [List.foldlM_cons] at h ⊢
    obtain ⟨next, hnext, h⟩ := bind_eq_ok.mp h
    exact bind_eq_ok.mpr ⟨next, ht.enter_put hnext, ih h⟩

theorem follow_put {ending : PathEnd} (h : d.follow path = .ok (target, ending)) :
    (d.put place bytes).follow path = .ok (target, ending) := by
  obtain ⟨hshort, hne, hway, hending⟩ := follow_eq_ok.mp h
  exact follow_eq_ok.mpr ⟨hshort, hne, ht.way_put hway, hending⟩

theorem target?_put (h : d.target? path = some target) : (d.put place bytes).target? path = some target := by
  obtain ⟨p, name, hfollow, hplace⟩ := target?_eq_some.mp h
  exact target?_eq_some.mpr ⟨p, name, ht.follow_put hfollow, (ht.placeOf_put p name).trans hplace⟩

end Takes

/-! ### Where written bytes go -/

/-- What takes the bytes that are written to a path. -/
inductive Sink where
  | file (place : List String)
  | output
  | errors
  /-- Takes everything and keeps nothing. -/
  | nothing
deriving DecidableEq

def Device.sink? : Device → Option Sink
  | .absent | .full => none
  | .output => some .output
  | .errors => some .errors
  | .null | .input => some .nothing

def sink? (d : Disk) (path : String) : Option Sink :=
  (d.target? path).bind fun place => match d.entryAt place with
    | some .directory => none
    | some (.device device) => Device.sink? device
    | _ => if isClosed place then none else some (.file place)

def pour (d : Disk) (bytes : ByteArray) : Sink → Disk
  | .file place => d.put place bytes
  | .output => { d with out := d.out.write bytes }
  | .errors => { d with err := d.err.write bytes }
  | .nothing => d

theorem send_eq_ok {device : Device} {d' : Disk} :
    d.send bytes device = .ok d' ↔ ∃ sink, Device.sink? device = some sink ∧ d' = d.pour bytes sink := by
  cases device <;> simp [send, Device.sink?, pour, eq_comm]

/-- What a write does where the path leads to, whatever stands there. -/
def deliver (d : Disk) (target : List String) (bytes : ByteArray) : Except FileFault Disk :=
  match d.entryAt target with
  | some .directory => throw .isDirectory
  | some (.device device) => d.send bytes device
  | _ => if isClosed target then throw .notFound else return d.put target bytes

theorem write_eq_ok_iff_deliver {d' : Disk} :
    d.write path bytes = .ok d' ↔ ∃ target, d.target? path = some target ∧ d.deliver target bytes = .ok d' := by
  rw [write, bind_eq_ok]
  constructor
  · rintro ⟨⟨p, ending⟩, hfollow, h⟩
    rcases ending with _ | ⟨name, _ | _⟩
    · cases h
    · obtain ⟨target, hplace, h⟩ := bind_eq_ok.mp h
      exact ⟨target, target?_eq_some.mpr ⟨p, name, hfollow, hplace⟩, h⟩
    · cases h
  · rintro ⟨target, htarget, h⟩
    obtain ⟨p, name, hfollow, hplace⟩ := target?_eq_some.mp htarget
    exact ⟨(p, .name name false), hfollow, bind_eq_ok.mpr ⟨target, hplace, h⟩⟩

theorem write_eq_ok {d' : Disk} :
    d.write path bytes = .ok d' ↔ ∃ sink, d.sink? path = some sink ∧ d' = d.pour bytes sink := by
  rw [write_eq_ok_iff_deliver, sink?]
  cases d.target? path with
  | none => exact ⟨fun ⟨_, h, _⟩ => (nomatch h), fun ⟨_, h, _⟩ => (nomatch h)⟩
  | some target =>
    simp only [Option.some.injEq, exists_eq_left', Option.bind_some, deliver]
    split
    · exact ⟨nofun, fun ⟨_, h, _⟩ => nomatch h⟩
    · exact send_eq_ok
    · split
      · exact ⟨nofun, fun ⟨_, h, _⟩ => nomatch h⟩
      · simp [pour, pure, Except.pure, eq_comm]

theorem Sound.takes_of_sink (hd : d.Sound) (h : d.sink? path = some (.file place)) : d.Takes place := by
  obtain ⟨target, htarget, h⟩ := Option.bind_eq_some_iff.mp h
  split at h
  · cases h
  · next device _ =>
    cases device <;> cases h
  · next hdirectory hdevice =>
    split at h
    · cases h
    · cases h
      refine ⟨hd.stands_of_target htarget, fun e he => ?_⟩
      cases e with
      | directory => exact absurd he hdirectory
      | file content => exact ⟨content, rfl⟩
      | device device => exact absurd he (hdevice device)
      | link next => exact absurd he (hd.not_link_of_target htarget next)

theorem Takes.sink?_put (ht : d.Takes place) {sink : Sink} (h : d.sink? path = some sink) :
    (d.put place bytes).sink? path = some sink := by
  obtain ⟨target, htarget, h⟩ := Option.bind_eq_some_iff.mp h
  refine Option.bind_eq_some_iff.mpr ⟨target, ht.target?_put htarget, ?_⟩
  rw [ht.entryAt_put]
  by_cases hplace : target = place
  · subst hplace
    rw [if_pos rfl]
    cases he : d.entryAt target with
    | none =>
      rw [he] at h
      exact h
    | some e =>
      obtain ⟨content, rfl⟩ := ht.entry e he
      rw [he] at h
      exact h
  · rw [if_neg hplace]
    exact h

/-- What can be written to can still be written to after any write, and is the same sink. -/
theorem Sound.sink?_pour (hd : d.Sound) {sink next : Sink} (hsink : d.sink? path = some sink)
    (hnext : d.sink? other = some next) : (d.pour bytes sink).sink? other = some next := by
  cases sink with
  | file place => exact (hd.takes_of_sink hsink).sink?_put hnext
  | output => exact hnext
  | errors => exact hnext
  | nothing => exact hnext

theorem Sound.print (hd : d.Sound) (bytes : ByteArray) : (d.print bytes).Sound := ⟨hd.here, hd.links⟩

theorem Sound.printError (hd : d.Sound) (bytes : ByteArray) : (d.printError bytes).Sound := ⟨hd.here, hd.links⟩

theorem Sound.withInput (hd : d.Sound) (i : ByteArray) : Sound { d with input := i } := ⟨hd.here, hd.links⟩

theorem Sound.pour (hd : d.Sound) (bytes : ByteArray) (sink : Sink) : (d.pour bytes sink).Sound := by
  cases sink with
  | file place => exact hd.put place bytes
  | output | errors => exact ⟨hd.here, hd.links⟩
  | nothing => exact hd

theorem entryAt_pour {sink : Sink} (h : ∀ p, sink = .file p → d.Takes p) (bytes : ByteArray) (place : List String) :
    (d.pour bytes sink).entryAt place = if sink = .file place then some (.file bytes) else d.entryAt place := by
  cases sink with
  | file q =>
    refine ((h q rfl).entryAt_put place).trans ?_
    simp only [Sink.file.injEq, eq_comm]
  | output | errors | nothing =>
    rw [if_neg nofun]
    rfl

/-! ### Reading -/

/-- Steps that change nothing of a disk but what is left of its input. -/
def OnlyReads {α : Type} (x : StateM Disk α) : Prop := ∀ d, ∃ i, (x.run d).2 = { d with input := i }

theorem onlyReads_pure {α : Type} (a : α) : OnlyReads (pure a) := fun d => ⟨d.input, rfl⟩

theorem onlyReads_bind {α β : Type} {x : StateM Disk α} {f : α → StateM Disk β} (hx : OnlyReads x)
    (hf : ∀ a, OnlyReads (f a)) : OnlyReads (x >>= f) := by
  intro d
  obtain ⟨i, hi⟩ := hx d
  obtain ⟨j, hj⟩ := hf (x.run d).1 (x.run d).2
  refine ⟨j, ?_⟩
  rw [hi] at hj
  rw [StateT.run_bind]
  show ((f (x.run d).1).run (x.run d).2).2 = _
  rw [hi, hj]

theorem receive_keeps {device : Device} {d' : Disk} (h : d.receive device = .ok (bytes, d')) :
    ∃ i, d' = { d with input := i } := by
  cases device with
  | absent => cases h
  | input =>
    cases h
    exact ⟨.empty, rfl⟩
  | null | full | output | errors =>
    cases h
    exact ⟨d.input, rfl⟩

theorem read_keeps {d' : Disk} (h : d.read path = .ok (bytes, d')) : ∃ i, d' = { d with input := i } := by
  obtain ⟨⟨p, ending⟩, -, h⟩ := bind_eq_ok.mp h
  rcases ending with _ | ⟨name, slashed⟩
  · cases h
  · obtain ⟨target, -, h⟩ := bind_eq_ok.mp h
    split at h
    · cases h
    · split at h
      · cases h
      · cases h
        exact ⟨d.input, rfl⟩
    · split at h
      · cases h
      · exact receive_keeps h
    · cases h

theorem run_read_of_ok {d' : Disk} (h : d.read path = .ok (bytes, d')) :
    (store.read path).run d = (.ok bytes, d') := by
  have hrun : (store.read path).run d = pure (.ok bytes, d') := by simp [store, h]
  exact hrun

theorem run_read_of_error {fault : FileFault} (h : d.read path = .error fault) :
    (store.read path).run d = (.error fault, d) := by
  have hrun : (store.read path).run d = pure (.error fault, d) := by simp [store, h]
  exact hrun

theorem onlyReads_read (path : String) : OnlyReads (store.read path) := by
  intro d
  cases h : d.read path with
  | error fault =>
    rw [run_read_of_error h]
    exact ⟨d.input, rfl⟩
  | ok found =>
    rw [run_read_of_ok h]
    exact read_keeps h

theorem onlyReads_input : OnlyReads console.input := fun _ => ⟨.empty, rfl⟩

theorem read_of_file (htarget : d.target? path = some place) (hfile : d.entryAt place = some (.file bytes)) :
    d.read path = .ok (bytes, d) := by
  obtain ⟨p, name, hfollow, hplace⟩ := target?_eq_some.mp htarget
  refine bind_eq_ok.mpr ⟨_, hfollow, bind_eq_ok.mpr ⟨place, hplace, ?_⟩⟩
  rw [hfile]
  rfl

/-! ### Disks as they come about -/

def Entry.isLink : Entry → Bool
  | .link _ => true
  | _ => false

theorem sound_blank : blank.Sound where
  here := ⟨(workplace, .directory), by simp [blank, usualDirectories], List.prefix_refl _⟩
  links := by
    intro place target hlink
    have hmem := mem_of_lookup (lookup_of_link hlink)
    obtain ⟨e, he, heq⟩ : ∃ e ∈ usualLinks, (e.1, Entry.link e.2) = (place, .link target) := by
      simpa [blank] using hmem
    cases heq
    have hall : ∀ e ∈ usualLinks, blank.entryAt e.2 ≠ none ∧
        (blank.entryAt e.2).any Entry.isLink = false := by decide
    obtain ⟨hstands, hnone⟩ := hall e he
    exact ⟨stands_iff.mpr hstands, fun next hnext => by rw [hnext] at hnone; cases hnone⟩

end PromptCad.Disk
