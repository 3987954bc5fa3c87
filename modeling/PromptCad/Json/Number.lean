import PromptCad.Decimal.Layout
import PromptCad.Reader

/-! Numbers of JSON. A number is read in the digits that fit into 64 bits, and then multiplied or divided once by a
power of ten, so that a long numeral may miss the nearest float by its last bit. -/

namespace PromptCad.Json

open scoped Power

open Decimal (isDigit digitValue readDigits)

inductive Number where
  | natural (n : Nat)
  /-- The number below zero with this magnitude. -/
  | negative (n : Nat)
  | real (x : Float)

structure Spelling where
  minus : Bool
  whole : List Char
  places : Option (List Char)
  /-- Whether the exponent is below zero, and its digits. -/
  exponent : Option (Bool × List Char)

def digits : Reader (List Char) := do
  let ds ← Reader.takeWhile isDigit
  if ds = [] then Reader.fail else return ds

def readExponent : Reader (Bool × List Char) := do
  let below ← Reader.acceptChar '-'
  if !below then discard (Reader.acceptChar '+')
  return (below, ← digits)

/-- The spelling of a number that the text starts with. A zero has no digit after it, a point and an exponent have
at least one. -/
def spelling : Reader Spelling := do
  let minus ← Reader.acceptChar '-'
  let whole ← digits
  if whole.head? = some '0' && 1 < whole.length then Reader.fail
  let places ← if ← Reader.acceptChar '.' then some <$> digits else pure none
  let marked ← if ← Reader.acceptChar 'e' then pure true else Reader.acceptChar 'E'
  let exponent ← if marked then some <$> readExponent else pure none
  return ⟨minus, whole, places, exponent⟩

def greatestNatural : Nat := 2 ^ (64 : Nat) - 1

/-- Digits added to a number for as long as it fits into 64 bits, and how many there were of them. -/
def keep (n : Nat) : List Char → Nat × Nat
  | [] => (n, 0)
  | c :: ds =>
    let m := 10 * n + digitValue c
    if m ≤ greatestNatural then
      let (kept, count) := keep m ds
      (kept, count + 1)
    else (n, 0)

def powerOfTen (k : Nat) : Float := Decimal.ofFraction false (10 ^ k) 1

def greatestPower : Nat := 308

/-- A float times a power of ten, in one step where the power is a float. Otherwise it is first divided until it is
nothing, which three steps bring about for every number of 64 bits. -/
def scale : Nat → Float → Int → Option Float
  | 0, f, _ => some f
  | steps + 1, f, e =>
    if e.natAbs ≤ greatestPower then
      if 0 ≤ e then
        let g := f * powerOfTen e.natAbs
        if g.isInf then none else some g
      else some (f / powerOfTen e.natAbs)
    else if f == 0 then some f
    else if 0 ≤ e then none
    else scale steps (f / powerOfTen greatestPower) (e + greatestPower)

/-- The greatest exponent that is not simply taken for infinite. -/
def greatestExponent : Nat := 2 ^ (31 : Nat) - 1

/-- The float for `n * 10 ^ e` with a further exponent as it is spelled; nothing if it is too large. -/
def scaled? (minus : Bool) (n : Nat) (e : Int) (exponent : Option (Bool × List Char)) : Option Float :=
  let (below, ds) := exponent.getD (false, [])
  let k := readDigits ds
  let magnitude :=
    if greatestExponent < k then if n ≠ 0 ∧ !below then none else some 0
    else scale 4 (Decimal.ofFraction false n 1) (if below then e - k else e + k)
  magnitude.map fun f => if minus then -f else f

/-- The number that is spelled, unless it is too large for a float. A whole number that fits into 64 bits stays
exact; of the negative ones those that fit with their sign, and not zero. -/
def Spelling.number? (s : Spelling) : Option Number :=
  let (n, kept) := keep 0 s.whole
  let dropped := s.whole.length - kept
  if s.places.isNone ∧ s.exponent.isNone ∧ dropped = 0 then
    some (if !s.minus then .natural n
      else if 0 < n ∧ n ≤ 2 ^ (63 : Nat) then .negative n
      else .real (Decimal.ofFraction true n 1))
  else
    let (m, more) := keep n (s.places.getD [])
    (scaled? s.minus m (dropped - more) s.exponent).map .real

def number : Reader Number := do Reader.need (← spelling).number?

def Number.toFloat : Number → Float
  | natural n => Decimal.ofFraction false n 1
  | negative n => Decimal.ofFraction true n 1
  | real x => x

/-- The decimal exponent of the first digit decides: from -5 to 15 a float is written without an exponent. A whole
number has one place all the same. -/
def realChars (x : Float) : List Char :=
  if !x.isFinite then "null".toList
  else
    let d := Decimal.shortest .toEven x
    let ds := Decimal.natChars d.digits
    let lead := d.exponent + ds.length - 1
    Decimal.signed x <|
      if -5 ≤ lead ∧ lead ≤ 15 then
        if 0 ≤ d.exponent then d.positional ++ ['.', '0'] else d.positional
      else
        ds.take 1 ++ (if ds.length = 1 then [] else '.' :: ds.drop 1) ++
          'e' :: (if lead < 0 then '-' else '+') :: Decimal.natChars lead.natAbs

end PromptCad.Json
