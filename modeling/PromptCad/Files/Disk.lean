import PromptCad.Files
import PromptCad.Files.Path
import PromptCad.Files.Stream

/-! A disk held in memory, with a working directory, the usual directories at its root, and some devices. Places are
lists of names that lead down from the root. A file behind a stream of the program stands on the disk as the device of
that stream, under each of its names. -/

namespace PromptCad

inductive Device where
  /-- Empty, and takes everything. -/
  | null
  /-- Takes nothing. -/
  | full
  /-- Is not there. -/
  | absent
  /-- What is handed to the program. -/
  | input
  /-- Where the program shows things. -/
  | output
  /-- Where the program reports failures. -/
  | errors

inductive Entry where
  | directory
  | file (bytes : ByteArray)
  | device (d : Device)
  /-- Another name for a place that is no link itself. -/
  | link (place : List String)

structure Disk where
  entries : List (List String × Entry)
  /-- The place of the working directory. -/
  here : List String
  /-- What has not been read yet of what is handed to the program. -/
  input : ByteArray
  /-- Where the program shows things. -/
  out : Stream
  /-- Where the program reports failures. -/
  err : Stream

namespace Disk

def greatestPath : Nat := 4095

def greatestName : Nat := 255

/-- What stands at a place. A directory also exists for as long as something stands in it. -/
def entryAt (d : Disk) (place : List String) : Option Entry :=
  match d.entries.lookup place with
  | some e => some e
  | none => if d.entries.any fun e => place.isPrefixOf e.1 then some .directory else none

def placeOf (d : Disk) (place : List String) (name : String) : Except FileFault (List String) :=
  if greatestName < name.utf8ByteSize then .error .nameTooLong
  else match d.entryAt (place ++ [name]) with
    | some (.link target) => .ok target
    | _ => .ok (place ++ [name])

/-- The directory that a name leads to from another one. The root is the directory above itself. -/
def enter (d : Disk) (place : List String) (name : String) : Except FileFault (List String) := do
  if name = Path.above then return place.dropLast
  let next ← d.placeOf place name
  match d.entryAt next with
  | none => throw .notFound
  | some .directory => return next
  | some _ => throw .notDirectory

/-- The last directory on the way of a path, and how the path ends. -/
def follow (d : Disk) (text : String) : Except FileFault (List String × PathEnd) := do
  if greatestPath < text.utf8ByteSize then throw .nameTooLong
  if text = "" then throw .notFound
  let path := Path.ofText text
  let place ← path.way.foldlM d.enter (if path.fromRoot then [] else d.here)
  return (place, path.ending)

def output (d : Disk) : ByteArray := d.out.bytes

def errors (d : Disk) : ByteArray := d.err.bytes

def print (d : Disk) (bytes : ByteArray) : Disk := { d with out := d.out.print bytes }

def printError (d : Disk) (bytes : ByteArray) : Disk := { d with err := d.err.print bytes }

def takeInput (d : Disk) : ByteArray × Disk := (d.input, { d with input := .empty })

def receive (d : Disk) : Device → Except FileFault (ByteArray × Disk)
  | .absent => .error .noDevice
  | .input => .ok d.takeInput
  | .output => .ok (d.out.contents, d)
  | .errors => .ok (d.err.contents, d)
  | .null | .full => .ok (.empty, d)

def send (d : Disk) (bytes : ByteArray) : Device → Except FileFault Disk
  | .absent => .error .noDevice
  | .full => .error .noSpace
  | .output => .ok { d with out := d.out.write bytes }
  | .errors => .ok { d with err := d.err.write bytes }
  | .null | .input => .ok d

def read (d : Disk) (path : String) : Except FileFault (ByteArray × Disk) := do
  match ← d.follow path with
  | (_, .directory) => throw .isDirectory
  | (place, .name name slashed) => match d.entryAt (← d.placeOf place name) with
    | some .directory => throw .isDirectory
    | some (.file bytes) => if slashed then throw .notDirectory else return (bytes, d)
    | some (.device device) => if slashed then throw .notDirectory else d.receive device
    | _ => throw .notFound

def put (d : Disk) (place : List String) (bytes : ByteArray) : Disk :=
  { d with entries := (place, .file bytes) :: d.entries.filter (·.1 ≠ place) }

/-- No file can be made among what the system tells of its processes. -/
def isClosed (place : List String) : Bool := ["proc"].isPrefixOf place

/-- Writes a file, which replaces one of its name. No file is made where a slash asks for a directory. -/
def write (d : Disk) (path : String) (bytes : ByteArray) : Except FileFault Disk := do
  match ← d.follow path with
  | (_, .directory) | (_, .name _ true) => throw .isDirectory
  | (place, .name name false) =>
    let target ← d.placeOf place name
    match d.entryAt target with
    | some .directory => throw .isDirectory
    | some (.device device) => d.send bytes device
    | _ => if isClosed target then throw .notFound else return d.put target bytes

def store : FileStore (StateM Disk) where
  read path := do
    match (← get).read path with
    | .error fault => return .error fault
    | .ok (bytes, d) =>
      set d
      return .ok bytes
  write path bytes := do
    match (← get).write path bytes with
    | .error fault => return .error fault
    | .ok d =>
      set d
      return .ok ()

def workplace : List String := ["tmp", "work"]

def usualDirectories : List (List String) :=
  workplace :: ["dev", "pts"] :: ["dev", "shm"] ::
    ["bin", "boot", "dev", "etc", "home", "lib", "lib64", "media", "mnt", "opt", "proc", "root", "run", "sbin", "srv",
      "sys", "tmp", "usr", "var"].map ([·])

/-- No run reads a device to its end that gives without end; so what counts of those is only that they take
everything. -/
def usualDevices : List (List String × Device) :=
  [(["dev", "null"], .null), (["dev", "zero"], .null), (["dev", "random"], .null), (["dev", "urandom"], .null),
    (["dev", "full"], .full), (["dev", "tty"], .absent),
    (["proc", "self", "fd", "0"], .input), (["proc", "self", "fd", "1"], .output),
    (["proc", "self", "fd", "2"], .errors)]

def usualLinks : List (List String × List String) :=
  [(["dev", "fd"], ["proc", "self", "fd"]), (["dev", "stdin"], ["proc", "self", "fd", "0"]),
    (["dev", "stdout"], ["proc", "self", "fd", "1"]), (["dev", "stderr"], ["proc", "self", "fd", "2"]),
    (["proc", "self", "cwd"], workplace), (["proc", "self", "root"], [])]

def blank : Disk where
  entries := usualDirectories.map (fun place => (place, .directory)) ++
    usualDevices.map (fun e => (e.1, .device e.2)) ++ usualLinks.map fun e => (e.1, .link e.2)
  here := workplace
  input := .empty
  out := {}
  err := {}

/-- A disk with files in its working directory, whose names may lead through further directories. -/
def ofFiles (files : List (String × ByteArray)) : Disk :=
  files.foldl (fun d f => d.put (d.here ++ Path.pieces f.1) f.2) blank

/-- The files in the working directory, by the names that lead to them. -/
def files (d : Disk) : List (String × ByteArray) :=
  d.entries.filterMap fun
    | (place, .file bytes) =>
      if d.here.isPrefixOf place then some ("/".intercalate (place.drop d.here.length), bytes) else none
    | _ => none

theorem lookup_filter_ne {place other : List String} (h : other ≠ place) (l : List (List String × Entry)) :
    (l.filter (·.1 ≠ place)).lookup other = l.lookup other := by
  have hb : (other == place) = false := beq_false_of_ne h
  induction l with
  | nil => rfl
  | cons e l ih =>
    obtain ⟨key, entry⟩ := e
    by_cases hk : key = place
    · subst hk
      rw [List.filter_cons_of_neg (by simp), ih, List.lookup_cons, hb]
    · rw [List.filter_cons_of_pos (by simpa using hk), List.lookup_cons, List.lookup_cons, ih]

theorem lookup_put (d : Disk) (place other : List String) (bytes : ByteArray) :
    (d.put place bytes).entries.lookup other =
      if other = place then some (.file bytes) else d.entries.lookup other := by
  by_cases h : other = place
  · simp [put, h]
  · have hb : (other == place) = false := beq_false_of_ne h
    rw [if_neg h, put, List.lookup_cons, hb, lookup_filter_ne h]

theorem entryAt_put (d : Disk) (place : List String) (bytes : ByteArray) :
    (d.put place bytes).entryAt place = some (.file bytes) := by
  rw [entryAt, lookup_put, if_pos rfl]

end Disk

end PromptCad
