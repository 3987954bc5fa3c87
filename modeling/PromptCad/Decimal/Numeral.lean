import PromptCad.Power

/-! Decimal numerals in the digits 0 to 9: writing a natural number and reading it back. -/

namespace PromptCad.Decimal

def isDigit (c : Char) : Bool := '0' ≤ c && c ≤ '9'

def digitValue (c : Char) : Nat := c.toNat - '0'.toNat

def digitChar (n : Nat) : Char := Char.ofNat ('0'.toNat + n % 10)

/-- The digits of a number put in front of a text that follows; the fuel bounds their count. -/
def pushDigits : Nat → Nat → List Char → List Char
  | 0, _, rest => rest
  | fuel + 1, n, rest =>
    if n < 10 then digitChar n :: rest else pushDigits fuel (n / 10) (digitChar n :: rest)

/-- The numeral of a number, without leading zeros; zero is a single zero. -/
def natChars (n : Nat) : List Char := pushDigits (n.log2 + 1) n []

def natText (n : Nat) : String := String.ofList (natChars n)

/-- The number that digits stand for, most significant first. -/
def readDigits (ds : List Char) : Nat := ds.foldl (fun n c => 10 * n + digitValue c) 0

/-- A natural number at most `bound` in digits alone, after an optional plus sign. -/
def readNat? (bound : Nat) (s : List Char) : Option Nat :=
  let ds := if s.head? = some '+' then s.drop 1 else s
  if ds = [] ∨ ds.any (!isDigit ·) then none
  else if readDigits ds ≤ bound then some (readDigits ds) else none

theorem readDigits_append (a b : List Char) :
    readDigits (a ++ b) = b.foldl (fun n c => 10 * n + digitValue c) (readDigits a) := by
  simp [readDigits, List.foldl_append]

end PromptCad.Decimal
