import PromptCad.Json.Value

/-! Reading JSON. Arrays and objects are read item by item, so that the first fault of a text is the one that is
told. Every loop is bounded by fuel, for which the length of the text is enough. -/

namespace PromptCad.Json

variable {α σ : Type}

def isBlank (c : Char) : Bool := c = ' ' || c = '\t' || c = '\n' || c = '\r'

def blanks : Reader Unit := Reader.skipWhile isBlank

/-- The next character that is not blank; it is not taken. -/
def next : Reader (Option Char) := do
  blanks
  Reader.peek

def mark (c : Char) : Reader Unit := do
  blanks
  Reader.expectChar c

/-- Whether a list goes on, up to its next item or past its closing bracket. Between two items there is one comma. -/
def more (closing : Char) (first : Bool) : Reader Bool := do
  blanks
  if ← Reader.acceptChar closing then return false
  else if first then return true
  else
    Reader.expectChar ','
    if (← next) = some closing then Reader.fail else return true

def text : Reader String := do
  mark '"'
  return String.ofList (← Reader.ofSplit unquote?)

/-- The items of an array after its opening bracket. -/
def items (item : Reader α) : Nat → Bool → Reader (List α)
  | 0, _ => Reader.fail
  | fuel + 1, first => do
    if ← more ']' first then
      let a ← item
      return a :: (← items item fuel false)
    else return []

/-- The members of an object after its opening brace. What is known so far goes through all of them. -/
def members (member : String → σ → Reader σ) : Nat → Bool → σ → Reader σ
  | 0, _, _ => Reader.fail
  | fuel + 1, first, known => do
    if ← more '}' first then
      let key ← text
      mark ':'
      members member fuel false (← member key known)
    else return known

def skipString : Reader Unit := Reader.ofSplit fun s => (afterString? s).map ((), ·)

mutual

/-- Takes a value that nobody wants to know. Its numbers may be of any size. -/
def skip : Nat → Reader Unit
  | 0 => Reader.fail
  | fuel + 1 => do
    match ← next with
    | some '"' => Reader.drop 1; skipString
    | some '[' => Reader.drop 1; skipItems fuel true
    | some '{' => Reader.drop 1; skipMembers fuel true
    | some 'n' => Reader.expect "null".toList
    | some 't' => Reader.expect "true".toList
    | some 'f' => Reader.expect "false".toList
    | _ => discard spelling

def skipItems : Nat → Bool → Reader Unit
  | 0, _ => Reader.fail
  | fuel + 1, first => do
    if ← more ']' first then
      skip fuel
      skipItems fuel false

def skipMembers : Nat → Bool → Reader Unit
  | 0, _ => Reader.fail
  | fuel + 1, first => do
    if ← more '}' first then
      mark '"'
      skipString
      mark ':'
      skip fuel
      skipMembers fuel false

end

mutual

/-- A value of any kind. Arrays and objects may be nested fewer than `depth` levels deep. -/
def value : Nat → Nat → Reader Value
  | 0, _ => Reader.fail
  | fuel + 1, depth => do
    match ← next with
    | some '"' => return .text (← text)
    | some '[' =>
      if depth ≤ 1 then Reader.fail
      Reader.drop 1
      return .list (← valueItems fuel (depth - 1) true)
    | some '{' =>
      if depth ≤ 1 then Reader.fail
      Reader.drop 1
      return .record (← valueMembers fuel (depth - 1) true)
    | some 'n' => Reader.expect "null".toList; return .null
    | some 't' => Reader.expect "true".toList; return .bool true
    | some 'f' => Reader.expect "false".toList; return .bool false
    | _ => return .number (← number)

def valueItems : Nat → Nat → Bool → Reader (List Value)
  | 0, _, _ => Reader.fail
  | fuel + 1, depth, first => do
    if ← more ']' first then
      let v ← value fuel depth
      return v :: (← valueItems fuel depth false)
    else return []

def valueMembers : Nat → Nat → Bool → Reader (List (String × Value))
  | 0, _, _ => Reader.fail
  | fuel + 1, depth, first => do
    if ← more '}' first then
      let key ← text
      mark ':'
      let v ← value fuel depth
      return (key, v) :: (← valueMembers fuel depth false)
    else return []

end

def real : Reader Float := do
  blanks
  return (← number).toFloat

def natural (bound : Nat) : Reader Nat := do
  blanks
  match ← number with
  | .natural n => if n ≤ bound then return n else Reader.fail
  | _ => Reader.fail

def readAll (r : Reader α) (s : List Char) : Except ReadError α :=
  Reader.readAll (do let a ← r; blanks; return a) s

end PromptCad.Json
