/-! Where a program says things. Behind a stream there is a pipe or a terminal, which only takes what comes, or a file,
which can be reached by a path as well. -/

namespace PromptCad

inductive StreamKind where
  /-- A pipe or a terminal. -/
  | pipe
  /-- A file that is always written to at its end. -/
  | appended
  /-- A file that is written to from a place on. -/
  | fileAt (place : Nat)

structure Stream where
  kind : StreamKind := .pipe
  /-- What a pipe has taken or a file holds. -/
  bytes : ByteArray := .empty

namespace Stream

/-- The bytes in front of a place, with zeros for those that are missing. -/
def upTo (bytes : ByteArray) (place : Nat) : ByteArray :=
  bytes.extract 0 place ++ ⟨Array.replicate (place - bytes.size) 0⟩

/-- Bytes with others written over them from a place on. -/
def overlay (bytes : ByteArray) (place : Nat) (more : ByteArray) : ByteArray :=
  upTo bytes place ++ more ++ bytes.extract (place + more.size) bytes.size

def print (s : Stream) (more : ByteArray) : Stream :=
  if more.isEmpty then s
  else match s.kind with
    | .pipe | .appended => { s with bytes := s.bytes ++ more }
    | .fileAt place => ⟨.fileAt (place + more.size), overlay s.bytes place more⟩

/-- Bytes that are written to a path that leads to the stream. A file is emptied first, and the stream goes on from its
old place. -/
def write (s : Stream) (more : ByteArray) : Stream :=
  match s.kind with
  | .pipe => { s with bytes := s.bytes ++ more }
  | .appended | .fileAt _ => { s with bytes := more }

def contents (s : Stream) : ByteArray :=
  match s.kind with
  | .pipe => .empty
  | .appended | .fileAt _ => s.bytes

/-- A stream of the same kind through which nothing has come yet. -/
def renewed (s : Stream) : Stream :=
  match s.kind with
  | .pipe => ⟨.pipe, .empty⟩
  | .appended => ⟨.appended, .empty⟩
  | .fileAt _ => ⟨.fileAt 0, .empty⟩

end Stream

end PromptCad
