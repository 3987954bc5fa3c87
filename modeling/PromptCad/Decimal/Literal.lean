import PromptCad.Decimal.Binary
import PromptCad.Decimal.Numeral

/-! Decimal literals such as `-12`, `2.5`, `.5` or `1e-3`, read as the nearest float. -/

namespace PromptCad.Decimal

open scoped Power

/-- `digits * 10 ^ exponent` with a sign. -/
structure Literal where
  negative : Bool
  digits : Nat
  exponent : Int

def splitSign (s : List Char) : Bool × List Char :=
  match s with
  | '-' :: r => (true, r)
  | '+' :: r => (false, r)
  | _ => (false, s)

/-- The exponent part: nothing, or a mark, an optional sign and at least one digit. -/
def readExponent? (s : List Char) : Option Int :=
  match s with
  | [] => some 0
  | c :: r =>
    if c = 'e' ∨ c = 'E' then
      let (negative, ds) := splitSign r
      if ds = [] ∨ ds.any (!isDigit ·) then none
      else some (if negative then -(readDigits ds : Int) else readDigits ds)
    else none

/-- A literal has digits before or after its point, or on both sides. -/
def Literal.ofChars? (s : List Char) : Option Literal :=
  let (negative, s) := splitSign s
  let whole := s.takeWhile isDigit
  let s := s.dropWhile isDigit
  let (places, s) := if s.head? = some '.' then
      ((s.drop 1).takeWhile isDigit, (s.drop 1).dropWhile isDigit)
    else ([], s)
  if whole = [] ∧ places = [] then none
  else (readExponent? s).map fun e => ⟨negative, readDigits (whole ++ places), e - places.length⟩

/-- The nearest float. A value from `10 ^ 310` on is past every finite float, and one below `10 ^ (-330)` is nearer to
zero than to any other, so powers of ten stay small. The count of binary digits, of which ten make more than three
decimal digits and three make less than one, tells most of these. -/
def Literal.toFloat (l : Literal) : Float :=
  let width := l.digits.log2
  if l.digits = 0 ∨ (width + 3) / 3 + l.exponent ≤ -330 then ofMagnitude l.negative 0
  else if 310 ≤ 3 * width / 10 + l.exponent then infinity l.negative
  else ofFraction l.negative (l.digits * 10 ^ l.exponent.toNat) (10 ^ (-l.exponent).toNat)

def read? (s : List Char) : Option Float := (Literal.ofChars? s).map Literal.toFloat

end PromptCad.Decimal
