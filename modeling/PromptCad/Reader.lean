import PromptCad.Prompt.Error

/-! Readers of structured text. A reader takes what it needs from the front of a text and leaves the rest. -/

namespace PromptCad

inductive ReadError where
  | malformed
  /-- A primitive that is spelled well has measures or a place out of range. -/
  | refused (e : PromptError)
deriving DecidableEq

abbrev Reader := StateT (List Char) (Except ReadError)

namespace Reader

variable {α : Type}

def fail : Reader α := throw .malformed

def peek : Reader (Option Char) := do return (← get).head?

def drop (n : Nat) : Reader Unit := modify (·.drop n)

/-- Takes a text if it stands in front, and says whether it did. -/
def accept (word : List Char) : Reader Bool := do
  if word.isPrefixOf (← get) then
    drop word.length
    return true
  else return false

def acceptChar (c : Char) : Reader Bool := accept [c]

def expect (word : List Char) : Reader Unit := do
  if !(← accept word) then fail

def expectChar (c : Char) : Reader Unit := expect [c]

def takeWhile (p : Char → Bool) : Reader (List Char) := do
  let s ← get
  set (s.dropWhile p)
  return s.takeWhile p

def skipWhile (p : Char → Bool) : Reader Unit := modify (·.dropWhile p)

/-- The value of an option that has to be there. -/
def need : Option α → Reader α
  | some a => pure a
  | none => fail

/-- Takes what a function splits off the front of the text. -/
def ofSplit (split : List Char → Option (α × List Char)) : Reader α := do
  let (a, rest) ← need (split (← get))
  set rest
  return a

def readAll (r : Reader α) (s : List Char) : Except ReadError α := do
  let (a, rest) ← r.run s
  if rest = [] then return a else throw .malformed

end Reader

end PromptCad
