import PromptCad.Prompt.Error
import PromptCad.Text.Blank
import PromptCad.Text.Lower

/-! Length units and the conversion of a written length to millimetres. -/

namespace PromptCad

inductive LengthUnit where
  | millimeters
  | centimeters
  | inches
deriving DecidableEq

namespace LengthUnit

def all : List LengthUnit := [millimeters, centimeters, inches]

/-- The unit of a length that names none. -/
def standard : LengthUnit := millimeters

/-- Millimetres in one of the unit. -/
def factor : LengthUnit → Float
  | millimeters => 1
  | centimeters => 10
  | inches => 25.4

def name : LengthUnit → String
  | millimeters => "Millimeters"
  | centimeters => "Centimeters"
  | inches => "Inches"

/-- The shortest spelling. -/
def symbol : LengthUnit → String
  | millimeters => "mm"
  | centimeters => "cm"
  | inches => "in"

def spellings : LengthUnit → List String
  | millimeters => ["mm"]
  | centimeters => ["cm"]
  | inches => ["in", "inch", "inches"]

/-- The unit that a token spells, whatever its blanks at the ends and the case of its letters A to Z. -/
def ofToken (token : String) : Except PromptError LengthUnit :=
  let word := Text.trim token.toList
  match all.find? (·.spellings.contains (String.ofList (Text.lowerAscii word))) with
  | some unit => .ok unit
  | none => .error (.unknownUnit (String.ofList word))

/-- A length in millimetres. It has to be positive, and an admitted size once converted; the refusal names the
length as it was written. -/
def toMillimeters (unit : LengthUnit) (value : Float) : Except PromptError Float :=
  if !value.isFinite || value ≤ 0 then .error (.invalidDimension value)
  else
    let mm := value * unit.factor
    if Size.admits mm then .ok mm else .error (.invalidDimension value)

end LengthUnit

/-- A length with the unit still to be read; the unit is looked at first. -/
def millimeters (value : Float) (token : String) : Except PromptError Float := do
  let unit ← LengthUnit.ofToken token
  unit.toMillimeters value

end PromptCad
