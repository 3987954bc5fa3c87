import PromptCad.Text.Hex

/-! Strings of JSON. -/

namespace PromptCad.Json

/-- What a backslash and one character stand for, other than the form with four digits. -/
def escaped? : Char → Option Char
  | '"' => some '"'
  | '\\' => some '\\'
  | '/' => some '/'
  | 'b' => some '\x08'
  | 'f' => some '\x0c'
  | 'n' => some '\n'
  | 'r' => some '\r'
  | 't' => some '\t'
  | _ => none

def isLeading (n : Nat) : Bool := 0xD800 ≤ n && n ≤ 0xDBFF

def isTrailing (n : Nat) : Bool := 0xDC00 ≤ n && n ≤ 0xDFFF

/-- The character that a leading and a trailing surrogate stand for together. -/
def joined (leading trailing : Nat) : Char :=
  Char.ofNat (0x10000 + (leading - 0xD800) * 0x400 + (trailing - 0xDC00))

/-- The characters of a string up to its closing quote, and the text after it. Control characters have to be
escaped, and surrogates come in pairs. -/
def unquote? : List Char → Option (List Char × List Char)
  | [] => none
  | '"' :: s => some ([], s)
  | '\\' :: 'u' :: a :: b :: c :: d :: s =>
    match Text.readHex? [a, b, c, d] with
    | none => none
    | some n =>
      if isTrailing n then none
      else if isLeading n then
        match s with
        | '\\' :: 'u' :: e :: f :: g :: h :: s =>
          match Text.readHex? [e, f, g, h] with
          | none => none
          | some m => if isTrailing m then (unquote? s).map fun (r, t) => (joined n m :: r, t) else none
        | _ => none
      else (unquote? s).map fun (r, t) => (Char.ofNat n :: r, t)
  | '\\' :: c :: s =>
    match escaped? c with
    | none => none
    | some c => (unquote? s).map fun (r, t) => (c :: r, t)
  | c :: s => if c < ' ' || c = '\\' then none else (unquote? s).map fun (r, t) => (c :: r, t)

/-- The text after a string that nobody wants to know; its surrogates need not be in pairs. -/
def afterString? : List Char → Option (List Char)
  | [] => none
  | '"' :: s => some s
  | '\\' :: 'u' :: a :: b :: c :: d :: s =>
    if (Text.readHex? [a, b, c, d]).isSome then afterString? s else none
  | '\\' :: c :: s => if (escaped? c).isSome then afterString? s else none
  | c :: s => if c < ' ' || c = '\\' then none else afterString? s

def escape (c : Char) : List Char :=
  if c = '"' then ['\\', '"']
  else if c = '\\' then ['\\', '\\']
  else if c = '\x08' then ['\\', 'b']
  else if c = '\x0c' then ['\\', 'f']
  else if c = '\n' then ['\\', 'n']
  else if c = '\r' then ['\\', 'r']
  else if c = '\t' then ['\\', 't']
  else if c < ' ' then '\\' :: 'u' :: Text.hexPadded 4 c.toNat
  else [c]

def quote (s : List Char) : List Char := '"' :: s.flatMap escape ++ ['"']

end PromptCad.Json
