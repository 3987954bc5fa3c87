import PromptCad.Decimal.Binary

/-! The fewest decimal digits that read back as a given float. The reals that round to a float form an interval;
grids of one digit, two digits and so on are tried until one of the value's two neighbours on the grid lies in it. -/

namespace PromptCad.Decimal

open scoped Power

/-- The number `digits * 10 ^ exponent`. -/
structure Scaled where
  digits : Nat
  exponent : Int

inductive Tie where
  | toEven
  | up

/-- `a * 10 ^ i` against `b * 2 ^ j`. -/
def compareScaled (a : Nat) (i : Int) (b : Nat) (j : Int) : Ordering :=
  compare (a * 10 ^ i.toNat * 2 ^ (-j).toNat) (b * 2 ^ j.toNat * 10 ^ (-i).toNat)

/-- Whether the neighbour below is half as far away as the neighbour above, as for most powers of two. -/
def Dyadic.narrowBelow (x : Dyadic) : Bool :=
  x.mantissa = 2 ^ binary64.fractionBits && binary64.minExponent < x.exponent

/-- Whether a decimal lies among the reals that round to a float; the ends belong to an even mantissa. -/
def Dyadic.readsBack (x : Dyadic) (d : Scaled) : Bool :=
  let low := if x.narrowBelow then 4 * x.mantissa - 1 else 4 * x.mantissa - 2
  let high := 4 * x.mantissa + 2
  let even := x.mantissa % 2 == 0
  let l := compareScaled d.digits d.exponent low (x.exponent - 2)
  let h := compareScaled d.digits d.exponent high (x.exponent - 2)
  (l == .gt || (even && l == .eq)) && (h == .lt || (even && h == .eq))

/-- The least `k` among `t`, `t + 1`, `t + 2` and `t + 3` with `x < 10 ^ k`, where `t` is estimated from the
binary logarithm. -/
def Dyadic.decimalWidth (x : Dyadic) : Int :=
  let t := Int.fdiv ((x.mantissa.log2 + x.exponent) * 30103) 100000
  let below (k : Int) : Bool := compareScaled 1 k x.mantissa x.exponent == .gt
  if below t then t else if below (t + 1) then t + 1 else if below (t + 2) then t + 2 else t + 3

/-- The greatest grid point `n * 10 ^ g` that is not above the value. -/
def Dyadic.gridFloor (x : Dyadic) (g : Int) : Nat :=
  (x.num * 10 ^ (-g).toNat) / (x.den * 10 ^ g.toNat)

def Dyadic.nearer (x : Dyadic) (tie : Tie) (low : Nat) (g : Int) : Nat :=
  match compareScaled (2 * low + 1) g (2 * x.mantissa) x.exponent with
  | .lt => low + 1
  | .gt => low
  | .eq => match tie with
    | .up => low + 1
    | .toEven => low + low % 2

/-- The point of the grid `10 ^ g` that stands for the value, if one does. -/
def Dyadic.onGrid? (x : Dyadic) (tie : Tie) (g : Int) : Option Scaled :=
  let low := x.gridFloor g
  match x.readsBack ⟨low, g⟩, x.readsBack ⟨low + 1, g⟩ with
  | true, true => some ⟨x.nearer tie low g, g⟩
  | true, false => some ⟨low, g⟩
  | false, true => some ⟨low + 1, g⟩
  | false, false => none

def Dyadic.exact (x : Dyadic) : Scaled :=
  if 0 ≤ x.exponent then ⟨x.num, 0⟩ else ⟨x.mantissa * 5 ^ (-x.exponent).toNat, x.exponent⟩

/-- Trailing zeros of the digits moved into the exponent, at most as many as the fuel. -/
def Scaled.strip : Nat → Scaled → Scaled
  | 0, d => d
  | fuel + 1, d =>
    if d.digits ≠ 0 ∧ d.digits % 10 = 0 then Scaled.strip fuel ⟨d.digits / 10, d.exponent + 1⟩ else d

/-- The shortest decimal of a positive value. Seventeen digits always suffice; should none be found the exact
value is given. -/
def Dyadic.shortest (x : Dyadic) (tie : Tie) : Scaled :=
  let k := x.decimalWidth
  let d := ((List.range 17).findSome? fun (n : Nat) => x.onGrid? tie (k - (n + 1))).getD x.exact
  d.strip (d.digits.log2 + 1)

end PromptCad.Decimal
