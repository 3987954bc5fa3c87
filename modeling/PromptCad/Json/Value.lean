import PromptCad.Json.Number
import PromptCad.Json.Text

/-! Values of JSON and their texts, without any space or with one item to a line. -/

namespace PromptCad.Json

inductive Value where
  | null
  | bool (b : Bool)
  | number (n : Number)
  | text (s : String)
  | list (items : List Value)
  | record (members : List (String × Value))

def Value.real (x : Float) : Value := .number (.real x)

def Value.natural (n : Nat) : Value := .number (.natural n)

def Number.chars : Number → List Char
  | natural n => Decimal.natChars n
  | negative n => '-' :: Decimal.natChars n
  | real x => realChars x

def boolChars (b : Bool) : List Char := if b then "true".toList else "false".toList

def quoteString (s : String) : List Char := quote s.toList

def commas : List (List Char) → List Char
  | [] => []
  | [s] => s
  | s :: t :: rest => s ++ ',' :: commas (t :: rest)

mutual

def Value.compact : Value → List Char
  | .null => "null".toList
  | .bool b => boolChars b
  | .number n => n.chars
  | .text s => quoteString s
  | .list items => '[' :: commas (compactItems items) ++ [']']
  | .record members => '{' :: commas (compactMembers members) ++ ['}']

def compactItems : List Value → List (List Char)
  | [] => []
  | v :: rest => v.compact :: compactItems rest

def compactMembers : List (String × Value) → List (List Char)
  | [] => []
  | (key, v) :: rest => (quoteString key ++ ':' :: v.compact) :: compactMembers rest

end

/-- A new line, indented by two spaces for each level. -/
def lineBreak (level : Nat) : List Char := '\n' :: List.replicate (2 * level) ' '

def bracketed (opening closing : Char) (level : Nat) (items : List (List Char)) : List Char :=
  if items = [] then [opening, closing]
  else opening :: commas (items.map (lineBreak (level + 1) ++ ·)) ++ lineBreak level ++ [closing]

mutual

/-- The text of a value that stands at a level of indentation, with one item to a line. -/
def Value.pretty (level : Nat) : Value → List Char
  | .null => "null".toList
  | .bool b => boolChars b
  | .number n => n.chars
  | .text s => quoteString s
  | .list items => bracketed '[' ']' level (prettyItems level items)
  | .record members => bracketed '{' '}' level (prettyMembers level members)

def prettyItems (level : Nat) : List Value → List (List Char)
  | [] => []
  | v :: rest => v.pretty (level + 1) :: prettyItems level rest

def prettyMembers (level : Nat) : List (String × Value) → List (List Char)
  | [] => []
  | (key, v) :: rest => (quoteString key ++ ':' :: ' ' :: v.pretty (level + 1)) :: prettyMembers level rest

end

end PromptCad.Json
