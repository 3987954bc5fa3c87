import PromptCad.Decimal.Numeral
import PromptCad.Decimal.Shortest

/-! How a float is written: plainly with the fewest digits and never an exponent, or with a fixed number of places. -/

namespace PromptCad.Decimal

open scoped Power

def zeros (n : Nat) : List Char := List.replicate n '0'

/-- Digits with a point before the last `places` of them, zeros filled in on the left as needed. -/
def withPoint (ds : List Char) (places : Nat) : List Char :=
  let ds := zeros (places + 1 - ds.length) ++ ds
  let n := ds.length - places
  ds.take n ++ '.' :: ds.drop n

/-- A decimal without an exponent; a whole number has no point. -/
def Scaled.positional (d : Scaled) : List Char :=
  if 0 ≤ d.exponent then natChars d.digits ++ zeros d.exponent.toNat
  else withPoint (natChars d.digits) (-d.exponent).toNat

/-- The shortest decimal of the magnitude of a finite float. -/
def shortest (tie : Tie) (x : Float) : Scaled :=
  if magnitude x = 0 then ⟨0, 0⟩ else (binary64.dyadic (magnitude x)).shortest tie

def signed (x : Float) (s : List Char) : List Char := if isNegative x then '-' :: s else s

def notFinite (x : Float) : List Char :=
  if x.isNaN then "NaN".toList else signed x "inf".toList

/-- The fewest digits that read back, without an exponent. Of two equally near candidates the upper is taken. -/
def plain (x : Float) : List Char :=
  if x.isFinite then signed x (shortest .up x).positional else notFinite x

/-- As `plain`, a whole number being given one place. -/
def plainWithPoint (x : Float) : List Char :=
  if x.isFinite then
    let d := shortest .up x
    signed x (if 0 ≤ d.exponent then d.positional ++ ['.', '0'] else d.positional)
  else notFinite x

def plainText (x : Float) : String := String.ofList (plain x)

/-- A division carried on by so many decimal places: the quotient and the remainder. -/
def longDivision (den : Nat) : Nat → Nat → Nat → Nat × Nat
  | 0, q, r => (q, r)
  | places + 1, q, r => longDivision den places (10 * q + 10 * r / den) (10 * r % den)

/-- The value times a power of ten, rounded to a natural number. -/
def Dyadic.scaled (x : Dyadic) (places : Nat) : Nat :=
  let num := x.num
  let den := x.den
  let (q, r) := longDivision den places (num / den) (num % den)
  roundBy q r den

/-- The last so many digits of a number put in front of a text that follows. -/
def pushPlaces : Nat → Nat → List Char → List Char
  | 0, _, rest => rest
  | places + 1, n, rest => pushPlaces places (n / 10) (digitChar n :: rest)

/-- A number with a point before its last `places` digits, of which there is always one more. -/
@[inline] def pointed (places n : Nat) : List Char :=
  let whole := n / 10 ^ places
  pushDigits (whole.log2 + 1) whole ('.' :: pushPlaces places n [])

/-- The exact value rounded to a fixed number of places, a half going to the even neighbour. -/
@[inline] def fixed (places : Nat) (x : Float) : List Char :=
  if x.isFinite then signed x (pointed places ((binary64.dyadic (magnitude x)).scaled places))
  else notFinite x

theorem longDivision_eq {den : Nat} (h : 0 < den) (places num : Nat) :
    longDivision den places (num / den) (num % den) =
      (num * 10 ^ places / den, num * 10 ^ places % den) := by
  induction places generalizing num with
  | zero => simp [longDivision]
  | succ places ih =>
    have hd := Nat.div_add_mod num den
    have hq : 10 * (num / den) + 10 * (num % den) / den = 10 * num / den := by
      rw [← Nat.mul_add_div h, Nat.mul_left_comm, ← Nat.mul_add, hd]
    have hr : 10 * (num % den) % den = 10 * num % den := Nat.mul_mod_mod 10 num den
    rw [longDivision, hq, hr, ih, Nat.pow_succ', Nat.mul_left_comm, Nat.mul_assoc]

/-- Long division rounds as a single division does. -/
theorem Dyadic.scaled_eq (x : Dyadic) (places : Nat) :
    x.scaled places = roundDiv (x.num * 10 ^ places) x.den := by
  have h : 0 < x.den := by rw [Dyadic.den, powerOfTwo_eq]; exact Nat.two_pow_pos _
  rw [scaled, longDivision_eq h]; rfl

end PromptCad.Decimal
