import PromptCad.Ron.Number
import PromptCad.Ron.Text

/-! Reading RON: records, lists, and values of which nothing is known beforehand. Every loop is bounded by fuel, for
which the length of the text is enough. -/

namespace PromptCad.Ron

variable {α σ : Type}

def acceptComma : Reader Bool := do
  blanks
  let found ← Reader.acceptChar ','
  if found then blanks
  return found

/-- Whether a list goes on before its closing bracket, which is not taken. An item comes only after a comma or the
opening bracket. -/
def more (closing : Char) (comma : Bool) : Reader Bool := do
  blanks
  if (← Reader.peek) = some closing then return false
  else if comma then return true
  else Reader.fail

def close (closing : Char) : Reader Unit := do
  blanks
  Reader.expectChar closing

def colon : Reader Unit := do
  blanks
  Reader.expectChar ':'
  blanks

/-- The items of a list after its opening bracket, through the closing one. -/
def items (item : Reader α) : Nat → Bool → Reader (List α)
  | 0, _ => Reader.fail
  | fuel + 1, comma => do
    if ← more ']' comma then
      let a ← item
      return a :: (← items item fuel (← acceptComma))
    else
      close ']'
      return []

def list (fuel : Nat) (item : Reader α) : Reader (List α) := do
  Reader.expectChar '['
  items item fuel true

/-- The fields of a record after its opening bracket, through the closing one. What is known so far goes through all
of them. -/
def fields (closing : Char) (field : String → σ → Reader σ) : Nat → Bool → σ → Reader σ
  | 0, _, _ => Reader.fail
  | fuel + 1, comma, known => do
    if ← more closing comma then
      let key ← name
      colon
      let known ← field key known
      fields closing field fuel (← acceptComma) known
    else
      close closing
      return known

def record (fuel : Nat) (expected : String) (field : String → σ → Reader σ) (start : σ) : Reader σ := do
  recordName expected
  blanks
  Reader.expectChar '('
  fields ')' field fuel true start

/-- A value of which nothing is known beforehand, with as much of it as may be wanted later. -/
inductive Value where
  | natural (n : Nat)
  | real (x : Float)
  | text (s : String)
  | record (fields : List (Value × Value))
  | other

/-- Whether a round bracket with this text after it holds fields with names. -/
def hasFields (s : List Char) : Reader Bool := do
  match (afterBlanks? .between s).bind name? with
  | none => return false
  | some (_, rest) => return (← Reader.need (afterBlanks? .between rest)).head? = some ':'

structure Scope where
  /-- How many more levels of nesting there may be. -/
  depth : Nat
  /-- Whether the value after the word Some may stand without brackets. -/
  bareSome : Bool

/-- One level of nesting; there are only so many. -/
def enter (scope : Scope) : Reader Scope :=
  if scope.depth = 0 then Reader.fail else pure { scope with depth := scope.depth - 1 }

def acceptConstant : Reader Bool := do
  if ← acceptWord "true" then return true
  else if ← acceptWord "false" then return true
  else if ← acceptWord "None" then return true
  else Reader.accept "()".toList

/-- A value that starts with neither a bracket nor a word. -/
def scalar : Reader Value := do
  match ← Reader.peek with
  | some '"' => return .text (← text)
  | some 'r' => return .text (← text)
  | some '\'' => discard (Reader.ofSplit char?); return .other
  | some '.' => return .real (← real)
  | some c =>
    if ('0' ≤ c && c ≤ '9') || c = '+' || c = '-' then
      match ← Reader.ofSplit anyNumber? with
      | .natural n => return .natural n
      | .real x => return .real x
    else Reader.fail
  | none => Reader.fail

/-- How a value goes on after its first characters, which are taken. -/
inductive Opening where
  /-- A name with nothing in brackets after it. -/
  | word
  | fields
  | tuple
  | list
  | members
  /-- Nothing has been taken. -/
  | scalar

def roundOpening : Reader Opening := do
  Reader.expectChar '('
  return if ← hasFields (← get) then .fields else .tuple

def opening : Reader Opening := do
  match name? (← get) with
  | some (_, rest) =>
    set rest
    blanks
    if (← Reader.peek) = some '(' then roundOpening else return .word
  | none =>
    if (← Reader.peek) = some '(' then roundOpening
    else if ← Reader.acceptChar '[' then return .list
    else if ← Reader.acceptChar '\x7b' then return .members
    else return .scalar

mutual

/-- A value of any kind. A container counts as one level of nesting, and so does each of its items. -/
def value : Nat → Scope → Reader Value
  | 0, _ => Reader.fail
  | fuel + 1, scope => do
    if ← acceptConstant then return .other
    else if ← acceptWord "Some" then
      blanks
      if ← Reader.acceptChar '(' then
        blanks
        discard (value fuel (← enter scope))
        discard acceptComma
        Reader.expectChar ')'
      else if scope.bareSome then discard (value fuel (← enter scope))
      else Reader.fail
      return .other
    else match ← acceptSpecial with
      | some x => return .real x
      | none => match ← opening with
        | .word => return .other
        | .fields => return .record (← valueFields fuel (← enter scope) true)
        | .members => return .record (← valueMembers fuel (← enter scope) true)
        | .tuple =>
          valueItems ')' fuel (← enter scope) true
          return .other
        | .list =>
          valueItems ']' fuel (← enter scope) true
          return .other
        | .scalar => scalar

def valueItems (closing : Char) : Nat → Scope → Bool → Reader Unit
  | 0, _, _ => Reader.fail
  | fuel + 1, scope, comma => do
    if ← more closing comma then
      discard (value fuel (← enter scope))
      valueItems closing fuel scope (← acceptComma)
    else close closing

def valueFields : Nat → Scope → Bool → Reader (List (Value × Value))
  | 0, _, _ => Reader.fail
  | fuel + 1, scope, comma => do
    if ← more ')' comma then
      let key ← name
      colon
      let v ← value fuel (← enter scope)
      return (.text key, v) :: (← valueFields fuel scope (← acceptComma))
    else
      close ')'
      return []

def valueMembers : Nat → Scope → Bool → Reader (List (Value × Value))
  | 0, _, _ => Reader.fail
  | fuel + 1, scope, comma => do
    if ← more '\x7d' comma then
      let key ← value fuel (← enter scope)
      colon
      let v ← value fuel (← enter scope)
      return (key, v) :: (← valueMembers fuel scope (← acceptComma))
    else
      close '\x7d'
      return []

end

/-- Takes a value that nobody wants to know. -/
def skip (fuel : Nat) (scope : Scope) : Reader Unit := discard (value fuel scope)

def greatestDepth : Nat := 128

/-- The extension by which the value after the word Some may stand without brackets. -/
def bareSomeExtension : String := "implicit_some"

/-- The extensions that a text may ask for. All others concern kinds of values that do not occur here. -/
def extensions : List String := ["unwrap_newtypes", bareSomeExtension, "unwrap_variant_newtypes"]

def extensionNames : Nat → Reader (List String)
  | 0 => Reader.fail
  | fuel + 1 => do
    let extension ← name
    if !extensions.contains extension then Reader.fail
    let comma ← acceptComma
    let another := (← Reader.peek).any isNameChar
    if !comma && another then Reader.fail
    return extension :: (← if comma && another then extensionNames fuel else pure [])

def marks : List String → Reader Unit
  | [] => pure ()
  | m :: rest => do
    Reader.expect m.toList
    blanks
    marks rest

/-- The extensions that the attributes in front of a text ask for. -/
def attributes : Nat → Reader (List String)
  | 0 => Reader.fail
  | fuel + 1 => do
    blanks
    if (← Reader.peek) = some '#' then
      marks ["#", "!", "[", "enable", "("]
      let asked ← extensionNames fuel
      blanks
      marks [")", "]"]
      return asked ++ (← attributes fuel)
    else return []

/-- The value of a whole text, from a reader that is told the fuel and what the value may hold. -/
def readAll (r : Nat → Scope → Reader α) (s : List Char) : Except ReadError α :=
  let fuel := s.length + 1
  let whole : Reader α := do
    let asked ← attributes fuel
    let a ← r fuel ⟨greatestDepth, asked.contains bareSomeExtension⟩
    blanks
    return a
  Reader.readAll whole s

end PromptCad.Ron
