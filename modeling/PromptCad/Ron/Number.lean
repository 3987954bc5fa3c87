import PromptCad.Decimal.Literal
import PromptCad.Ron.Name
import PromptCad.Text.Hex

/-! Numbers of RON. Whole numbers may be written in four bases and with underscores between their digits. -/

namespace PromptCad.Ron

open scoped Power

def isIntegerChar (c : Char) : Bool := (Text.hexValue? c).isSome || c = '_'

def isRealChar (c : Char) : Bool :=
  ('0' ≤ c && c ≤ '9') || c = 'e' || c = 'E' || c = '.' || c = '+' || c = '-' || c = '_'

/-- The base that a number is written in, and the text that starts with its digits. -/
def splitBase : List Char → Nat × List Char
  | '0' :: 'x' :: s => (16, s)
  | '0' :: 'b' :: s => (2, s)
  | '0' :: 'o' :: s => (8, s)
  | s => (10, s)

def readDigits? (base : Nat) (ds : List Char) : Option Nat :=
  (ds.filter (· ≠ '_')).foldlM (fun n c => do
    let d ← Text.hexValue? c
    if d < base then some (base * n + d) else none) 0

def natural? (bound : Nat) (s : List Char) : Option (Nat × List Char) := do
  let (base, s) := splitBase s
  let ds := s.takeWhile isIntegerChar
  if ds = [] ∨ ds.head? = some '_' then none
  else
    let n ← readDigits? base ds
    if n ≤ bound then some (n, s.dropWhile isIntegerChar) else none

def natural (bound : Nat) : Reader Nat := Reader.ofSplit (natural? bound)

def literal? (s : List Char) : Option (Float × List Char) :=
  (Decimal.read? (s.takeWhile isRealChar)).map (·, s.dropWhile isRealChar)

/-- The floats that are no decimal literals, as they are written. The sign of what is not a number has no meaning. -/
def specials : List (String × Float) :=
  [("inf", Decimal.infinity false), ("+inf", Decimal.infinity false), ("-inf", Decimal.infinity true),
    ("NaN", Decimal.notANumber), ("+NaN", Decimal.notANumber), ("-NaN", Decimal.notANumber)]

def acceptSpecial : Reader (Option Float) := acceptWordOf specials

def real : Reader Float := do
  match ← acceptSpecial with
  | some x => return x
  | none => Reader.ofSplit literal?

/-- A number of any kind: a natural one, or else a float. -/
inductive AnyNumber where
  | natural (n : Nat)
  | real (x : Float)

/-- A whole number with a sign, in 64 bits. Its zero has no sign. -/
def signed? (s : List Char) : Option (Float × List Char) := do
  let (negative, s) := Decimal.splitSign s
  let (n, rest) ← natural? (if negative then 2 ^ (63 : Nat) else 2 ^ (63 : Nat) - 1) s
  return (Decimal.ofFraction (negative && n ≠ 0) n 1, rest)

/-- A number whose kind is not known beforehand. It is read as a whole number if it looks like one, and as a decimal
literal if that fails. -/
def anyNumber? (s : List Char) : Option (AnyNumber × List Char) :=
  let (_, ds) := Decimal.splitSign s
  let hasSign := ds.length < s.length
  let whole : Option (AnyNumber × List Char) :=
    if (ds.takeWhile isIntegerChar).length < (ds.takeWhile isRealChar).length then none
    else if hasSign then (signed? s).map fun (x, rest) => (.real x, rest)
    else (natural? (2 ^ (64 : Nat) - 1) s).map fun (n, rest) => (.natural n, rest)
  whole <|> (literal? s).map fun (x, rest) => (.real x, rest)

end PromptCad.Ron
