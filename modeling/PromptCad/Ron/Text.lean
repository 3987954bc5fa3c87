import PromptCad.Reader
import PromptCad.Text.Hex
import PromptCad.Unicode.Printable

/-! Strings and characters of RON. -/

namespace PromptCad.Ron

/-- What a backslash and one character stand for. -/
def escaped? : Char → Option Char
  | '\'' => some '\''
  | '"' => some '"'
  | '\\' => some '\\'
  | 'n' => some '\n'
  | 'r' => some '\r'
  | 't' => some '\t'
  | '0' => some '\x00'
  | _ => none

def charOf? (n : Nat) : Option Char := if n.isValidChar then some (Char.ofNat n) else none

/-- The character that the text after a backslash stands for, and the text after that. -/
def escape? : List Char → Option (Char × List Char)
  | 'x' :: a :: b :: s => do return (← charOf? (← Text.readHex? [a, b]), s)
  | 'u' :: '\x7b' :: s => do
    let ds := s.takeWhile (· ≠ '\x7d')
    if ds = [] ∨ 6 < ds.length then none
    else
      let c ← charOf? (← Text.readHex? ds)
      let _ :: rest := s.drop ds.length | none
      return (c, rest)
  | c :: s => (escaped? c).map (·, s)
  | [] => none

/-- The characters of a string up to its closing quote, and the text after it; at most as many as the fuel. -/
def unquote? : Nat → List Char → Option (List Char × List Char)
  | 0, _ => none
  | _ + 1, [] => none
  | fuel + 1, c :: s =>
    if c = '"' then some ([], s)
    else do
      let (c, s) ← if c = '\\' then escape? s else some (c, s)
      let (cs, rest) ← unquote? fuel s
      return (c :: cs, rest)

/-- The text before the first place where another text stands, and the text after that. -/
def splitBefore? (ending : List Char) : List Char → Option (List Char × List Char)
  | [] => if ending = [] then some ([], []) else none
  | c :: s =>
    if ending.isPrefixOf (c :: s) then some ([], (c :: s).drop ending.length)
    else (splitBefore? ending s).map fun (a, b) => (c :: a, b)

/-- The characters of a string without escapes, after the letter that marks it. -/
def unquoteRaw? (s : List Char) : Option (List Char × List Char) :=
  let marks := s.takeWhile (· = '#')
  match s.drop marks.length with
  | '"' :: s => splitBefore? ('"' :: marks) s
  | _ => none

def string? : List Char → Option (List Char × List Char)
  | '"' :: s => unquote? (s.length + 1) s
  | 'r' :: s => unquoteRaw? s
  | _ => none

def text : Reader String := do return String.ofList (← Reader.ofSplit string?)

def char? : List Char → Option (Char × List Char)
  | '\'' :: c :: s => do
    if c = '\'' then none
    else
      let (c, s) ← if c = '\\' then escape? s else some (c, s)
      let '\'' :: rest := s | none
      return (c, rest)
  | _ => none

/-- How a character is written. What does not show is written by its code point. -/
def escape (c : Char) : List Char :=
  if c = '\x00' then ['\\', '0']
  else if c = '\t' then ['\\', 't']
  else if c = '\r' then ['\\', 'r']
  else if c = '\n' then ['\\', 'n']
  else if c = '\'' ∨ c = '"' ∨ c = '\\' then ['\\', c]
  else if Unicode.isShownInQuotes c then [c]
  else "\\u\x7b".toList ++ Text.hexChars c.toNat ++ ['\x7d']

def quote (s : List Char) : List Char := '"' :: s.flatMap escape ++ ['"']

end PromptCad.Ron
