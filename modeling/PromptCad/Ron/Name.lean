import PromptCad.Ron.Blank

/-! Names of RON: of records, of their fields and of the cases of a choice. -/

namespace PromptCad.Ron

def isNameStart (c : Char) : Bool := ('a' ≤ c && c ≤ 'z') || ('A' ≤ c && c ≤ 'Z') || c = '_'

def isNameChar (c : Char) : Bool := isNameStart c || ('0' ≤ c && c ≤ '9')

def isRawChar (c : Char) : Bool := isNameChar c || c = '.' || c = '+' || c = '-'

/-- A name without a mark. It must not be followed by a character that only raw names may hold. -/
def plainName? (s : List Char) : Option (List Char × List Char) :=
  match s with
  | [] => none
  | c :: _ =>
    let rest := s.dropWhile isNameChar
    if isNameStart c && !rest.head?.any isRawChar then some (s.takeWhile isNameChar, rest) else none

/-- The name that a text starts with, and the text after it. The letter r with a quote or number signs after it may
also begin a raw string. -/
def name? : List Char → Option (List Char × List Char)
  | 'r' :: '#' :: c :: s =>
    if isRawChar c then some ((c :: s).takeWhile isRawChar, (c :: s).dropWhile isRawChar) else none
  | 'r' :: '#' :: [] => none
  | 'r' :: '"' :: _ => none
  | s => plainName? s

def name : Reader String := do return String.ofList (← Reader.ofSplit name?)

/-- Takes a word if it stands in front and does not go on as a longer name. -/
def acceptWord (word : String) : Reader Bool := do
  let w := word.toList
  let s ← get
  if w.isPrefixOf s && !(s.drop w.length).head?.any isNameChar then
    Reader.drop w.length
    return true
  else return false

/-- Takes the first of some words that stands in front, and tells what it means. -/
def acceptWordOf {α : Type} : List (String × α) → Reader (Option α)
  | [] => return none
  | (word, meaning) :: rest => do if ← acceptWord word then return some meaning else acceptWordOf rest

/-- The name in front of a record. It may be left out, but it may not be another one. -/
def recordName (expected : String) : Reader Unit := do
  if (← Reader.peek).any isNameChar then
    if (← name) ≠ expected then Reader.fail

end PromptCad.Ron
