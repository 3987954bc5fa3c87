import PromptCad.Decimal.Literal
import PromptCad.Length
import PromptCad.Prompt.Line
import PromptCad.Prompt.Template
import PromptCad.Solid

/-! Sentences that describe a solid. A line is read by the first template that it fits. A line that fits none, but
starts with the name of a solid, is refused with what that solid requires. -/

namespace PromptCad.Prompt

structure Measurement where
  number : String
  unit : Option String
deriving DecidableEq

inductive Sentence where
  | sharedUnitBox (width depth height : Measurement)
  | boxBy (width depth height : Measurement)
  | cube (side : Measurement)
  | cylinder (radius height : Measurement)
  | sphere (radius : Measurement)
deriving DecidableEq

/-- The measurements that a reading keeps: a unit holds for all numbers before it that have none yet. -/
def measurementsAfter (waiting : List (List Char)) : List Capture → List Measurement
  | [] => []
  | .number n :: rest => measurementsAfter (waiting ++ [n]) rest
  | .unit u :: rest =>
    waiting.map (fun n => ⟨String.ofList n, u.map String.ofList⟩) ++ measurementsAfter [] rest

def measurements (cs : List Capture) : List Measurement := measurementsAfter [] cs

namespace Sentence

def template : Sentence → Template
  | sharedUnitBox .. => .sharedUnitBox
  | boxBy .. => .boxBy
  | cube .. => .cube
  | cylinder .. => .cylinder
  | sphere .. => .sphere

def measurements : Sentence → List Measurement
  | sharedUnitBox width depth height => [width, depth, height]
  | boxBy width depth height => [width, depth, height]
  | cube side => [side]
  | cylinder radius height => [radius, height]
  | sphere radius => [radius]

def kind : Sentence → Kind
  | sharedUnitBox .. | boxBy .. | cube .. => .box
  | cylinder .. => .cylinder
  | sphere .. => .sphere

/-- The sentence with these measurements in the order of the template. -/
def assemble? : Template → List Measurement → Option Sentence
  | .sharedUnitBox, [width, depth, height] => some (sharedUnitBox width depth height)
  | .boxBy, [width, depth, height] => some (boxBy width depth height)
  | .cube, [side] => some (cube side)
  | .cylinder, [radius, height] => some (cylinder radius height)
  | .sphere, [radius] => some (sphere radius)
  | _, _ => none

/-- The sentences that a normalized line can be read as, by the order of the templates. -/
def ofForms (forms : List (Template × List Piece)) (line : List Char) : List Sentence :=
  forms.flatMap fun form => (readings form.2 line).filterMap fun cs =>
    assemble? form.1 (Prompt.measurements cs)

/-- The word for a solid that a line starts with. -/
def commitment? (line : List Char) : Option Keyword := Keyword.ofWord? (Text.firstWord line)

/-- A line that does not start with the name of a solid may simply be no sentence. -/
def ofLine (line : List Char) : Except PromptError (Option Sentence) :=
  match (ofForms Template.forms line).head? with
  | some sentence => .ok (some sentence)
  | none => match commitment? line with
    | some keyword => .error (.missingDimension keyword)
    | none => .ok none

def read (line : String) : Except PromptError (Option Sentence) := ofLine (normalizeChars line.toList)

theorem assemble?_measurements (s : Sentence) : assemble? s.template s.measurements = some s := by
  cases s <;> rfl

end Sentence

/-- The length in millimetres. A numeral in digits other than 0 to 9 has no value. -/
def Measurement.resolve (m : Measurement) : Except PromptError Float :=
  match Decimal.read? m.number.toList with
  | none => .error (.invalidDimension Decimal.notANumber)
  | some value => millimeters value (m.unit.getD LengthUnit.standard.symbol)

/-- The solid that a sentence describes; its measurements are resolved from left to right. -/
def Sentence.solid : Sentence → Except PromptError Solid
  | sharedUnitBox width depth height | boxBy width depth height => do
    return .box (← width.resolve) (← depth.resolve) (← height.resolve)
  | cube side => do return .cube (← side.resolve)
  | cylinder radius height => do return .cylinder (← radius.resolve) (← height.resolve)
  | sphere radius => do return .sphere (← radius.resolve)

end PromptCad.Prompt
