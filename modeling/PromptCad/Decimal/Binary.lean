import PromptCad.Power

/-! Binary floating-point formats in exact arithmetic: the fraction that a bit pattern stands for, and the bit
pattern nearest to a fraction. Everything is on the magnitude; the sign is kept apart. -/

namespace PromptCad.Decimal

open scoped Power

/-- A quotient rounded by the remainder that it leaves: below a half down, above a half up, a half to the even
neighbour. -/
def roundBy (q r den : Nat) : Nat :=
  if 2 * r < den then q else if den < 2 * r then q + 1 else q + q % 2

/-- `num / den` as a natural number, a half going to the even neighbour. -/
def roundDiv (num den : Nat) : Nat := roundBy (num / den) (num % den) den

/-- `2 ^ n`, by a shift where it fits into 64 bits. -/
def powerOfTwo (n : Nat) : Nat := if n < 64 then ((1 : UInt64) <<< UInt64.ofNat n).toNat else 2 ^ n

theorem powerOfTwo_eq (n : Nat) : powerOfTwo n = 2 ^ n := by
  unfold powerOfTwo
  split
  · next h =>
    have hp : 2 ^ n < 2 ^ 64 := Nat.pow_lt_pow_right (by omega) h
    have hn : n % 2 ^ 64 % 64 = n := by omega
    rw [UInt64.toNat_shiftLeft, UInt64.toNat_ofNat', hn, UInt64.toNat_one, Nat.one_shiftLeft, Nat.mod_eq_of_lt hp]
  · rfl

structure Dyadic where
  mantissa : Nat
  exponent : Int

def Dyadic.num (x : Dyadic) : Nat := x.mantissa * powerOfTwo x.exponent.toNat

def Dyadic.den (x : Dyadic) : Nat := powerOfTwo (-x.exponent).toNat

/-- The greatest `e` with `2 ^ e ≤ num / den`, for positive `num` and `den`. -/
def floorLog2 (num den : Nat) : Int :=
  let e : Int := num.log2 - den.log2
  if num * 2 ^ (-e).toNat < den * 2 ^ e.toNat then e - 1 else e

/-- A format with `fractionBits` stored bits of the mantissa, subnormal numbers in units of
`2 ^ minExponent`, and the bit pattern `infinity` above all finite ones. -/
structure BinaryFormat where
  fractionBits : Nat
  minExponent : Int
  infinity : Nat

@[inline] def binary64 : BinaryFormat := ⟨52, -1074, 0x7FF0000000000000⟩

@[inline] def binary32 : BinaryFormat := ⟨23, -149, 0x7F800000⟩

@[inline] def BinaryFormat.dyadic (f : BinaryFormat) (bits : Nat) : Dyadic :=
  let e := bits / 2 ^ f.fractionBits
  let m := bits % 2 ^ f.fractionBits
  if e = 0 then ⟨m, f.minExponent⟩ else ⟨m + 2 ^ f.fractionBits, f.minExponent + e - 1⟩

/-- The bit pattern nearest to `num / den`, ties going to the even mantissa. A mantissa that rounds up to the
next power of two carries into the exponent field, so one sum serves every case. -/
def BinaryFormat.nearest (f : BinaryFormat) (num den : Nat) : Nat :=
  if num = 0 then 0
  else
    let q := max (floorLog2 num den - f.fractionBits) f.minExponent
    let m := roundDiv (num * 2 ^ (-q).toNat) (den * 2 ^ q.toNat)
    min ((q - f.minExponent).toNat * 2 ^ f.fractionBits + m) f.infinity

/-- The bit pattern nearest to a dyadic number, found without a common denominator. -/
@[inline] def BinaryFormat.nearestDyadic (f : BinaryFormat) (x : Dyadic) : Nat :=
  if x.mantissa = 0 then 0
  else
    let q := max (x.mantissa.log2 + x.exponent - f.fractionBits) f.minExponent
    let m := if q ≤ x.exponent then x.mantissa * powerOfTwo (x.exponent - q).toNat
      else roundDiv x.mantissa (powerOfTwo (q - x.exponent).toNat)
    min ((q - f.minExponent).toNat * 2 ^ f.fractionBits + m) f.infinity

def isNegative (x : Float) : Bool := 2 ^ (63 : Nat) ≤ x.toBits.toNat

def magnitude (x : Float) : Nat := x.toBits.toNat % 2 ^ (63 : Nat)

def ofMagnitude (negative : Bool) (bits : Nat) : Float :=
  Float.ofBits (UInt64.ofNat (if negative then bits + 2 ^ (63 : Nat) else bits))

def notANumber : Float := Float.ofBits 0x7FF8000000000000

def infinity (negative : Bool) : Float := ofMagnitude negative binary64.infinity

/-- The float nearest to a fraction, with a sign. -/
def ofFraction (negative : Bool) (num den : Nat) : Float :=
  ofMagnitude negative (binary64.nearest num den)

def narrow (x : Float) : UInt32 :=
  let sign := if isNegative x then 2 ^ (31 : Nat) else 0
  if x.isNaN then UInt32.ofNat (sign + 0x7FC00000)
  else if x.isFinite then UInt32.ofNat (sign + binary32.nearestDyadic (binary64.dyadic (magnitude x)))
  else UInt32.ofNat (sign + binary32.infinity)

/-- The remainder decides: below a half down, above a half up, a half to the even neighbour. -/
theorem roundDiv_eq (num den : Nat) :
    roundDiv num den =
      num / den + if 2 * (num % den) < den then 0
        else if den < 2 * (num % den) then 1 else num / den % 2 := by
  simp only [roundDiv, roundBy]; split <;> (try split) <;> simp_all

theorem roundDiv_within (num den : Nat) (h : 0 < den) :
    2 * (roundDiv num den * den) ≤ 2 * num + den ∧ 2 * num ≤ 2 * (roundDiv num den * den) + den := by
  have hd := Nat.div_add_mod num den
  have hm := Nat.mod_lt num h
  rw [Nat.mul_comm] at hd
  rw [roundDiv_eq]
  split
  · simp only [Nat.add_zero]; omega
  · split
    · rw [Nat.add_mul]; omega
    · rcases Nat.mod_two_eq_zero_or_one (num / den) with h0 | h0 <;> rw [h0, Nat.add_mul] <;> omega

end PromptCad.Decimal
