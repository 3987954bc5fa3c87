import PromptCad.Decimal.Layout
import PromptCad.Size

/-! Why a prompt is refused, and what the user is told. -/

namespace PromptCad

inductive Kind where
  | box
  | cylinder
  | sphere
deriving DecidableEq

def Kind.name : Kind → String
  | box => "Box"
  | cylinder => "Cylinder"
  | sphere => "Sphere"

def Kind.idStem : Kind → String
  | box => "box"
  | cylinder => "cylinder"
  | sphere => "sphere"

def Kind.all : List Kind := [box, cylinder, sphere]

def Kind.ofStem? (stem : String) : Option Kind := all.find? (·.idStem == stem)

/-- A word that commits a line to describing a solid. -/
inductive Keyword where
  | box
  | cube
  | cylinder
  | sphere
deriving DecidableEq

namespace Keyword

def kind : Keyword → Kind
  | box | cube => .box
  | cylinder => .cylinder
  | sphere => .sphere

def ofWord? (w : List Char) : Option Keyword :=
  if w = "box".toList then some box
  else if w = "cube".toList then some cube
  else if w = "cylinder".toList then some cylinder
  else if w = "sphere".toList then some sphere
  else none

def requirement : Keyword → String
  | box => "3 dimensions, e.g. 'box 10mm by 20mm by 5mm'"
  | cube => "a side length with a unit, e.g. 'cube 20mm'"
  | cylinder => "a radius and a height, e.g. 'cylinder radius 10mm height 20mm'"
  | sphere => "a radius, e.g. 'sphere radius 5mm'"

end Keyword

inductive PromptError where
  | emptyPrompt
  | unsupportedCommand (line : String)
  | unsupportedShape (text : String)
  | missingDimension (keyword : Keyword)
  | unknownUnit (token : String)
  | invalidDimension (value : Float)
  | idsExhausted
deriving DecidableEq

def PromptError.message : PromptError → String
  | emptyPrompt => "Prompt is empty"
  | unsupportedCommand line =>
    "Unsupported command: '" ++ line ++ "' (expected clear, create <shape>, add <shape> or a shape)"
  | unsupportedShape text =>
    "Unsupported shape: '" ++ text ++ "' (expected box, cube, cylinder or sphere)"
  | missingDimension keyword => keyword.kind.name ++ " requires " ++ keyword.requirement
  | unknownUnit token => "Unknown unit '" ++ token ++ "' (expected mm, cm, in, inch or inches)"
  | invalidDimension value =>
    "Invalid dimension " ++ Decimal.plainText value ++ ": sizes must be between " ++
      Decimal.plainText Size.least ++ " mm and " ++ Decimal.plainText Size.greatest ++ " mm"
  | idsExhausted => "No primitive ids left"

end PromptCad
