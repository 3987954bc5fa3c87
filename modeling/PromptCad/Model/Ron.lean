import PromptCad.Model.Parts
import PromptCad.Ron.Printer
import PromptCad.Ron.Reader

/-! Primitives and models as RON. -/

namespace PromptCad

open scoped Power

open Ron (Form)

def Point.toRon (p : Point) : Form := .tuple p.toList

def Solid.toRon (s : Solid) : Form :=
  .record "" [("kind", .word s.kind.idStem),
    ("params", .record "" ((Solid.measureNames s.kind).zip (s.measures.map .real)))]

def Primitive.toRon (p : Primitive) : Form :=
  .record "" [("id", .text p.id), ("shape", p.solid.toRon), ("position_mm", p.position.toRon)]

def Operation.toRon (o : Operation) : Form :=
  .record o.kind.name [("target", .text o.target), ("tool", .text o.tool)]

/-- The limit is not part of the text. -/
def Model.toRon (m : Model) : Form :=
  .record "" [("version", .natural m.version), ("primitives", .list (m.primitives.map (·.toRon))),
    ("operations", .list (m.operations.map (·.toRon)))]

namespace Ron

/-- A kind is a name without quotes. -/
def kind : Reader Kind := do Reader.need (Kind.ofStem? (← name))

def measureField (fuel : Nat) (scope : Scope) (k : Kind) (key : String) (parts : MeasureParts) :
    Reader MeasureParts := do
  if (Solid.measureNames k).contains key then
    if parts.holds key then Reader.fail
    return (key, ← real) :: parts
  else
    skip fuel (← enter scope)
    return parts

/-- The measures of a solid whose kind is known: a record of any name, or fields in braces. Words that are values on
their own cannot be its name. -/
def measures (fuel : Nat) (scope : Scope) (k : Kind) : Reader Solid := do
  if ← acceptConstant then Reader.fail
  if ← acceptWord "Some" then Reader.fail
  if (← acceptSpecial).isSome then Reader.fail
  let field := measureField fuel (← enter scope) k
  let parts ← if ← Reader.acceptChar '\x7b' then fields '\x7d' field fuel true [] else do
    if (← Reader.peek).any isNameStart then discard name
    blanks
    Reader.expectChar '('
    fields ')' field fuel true []
  Reader.need (parts.solid? k)

def Value.toFloat? : Value → Option Float
  | natural n => some (Decimal.ofFraction false n 1)
  | real x => some x
  | _ => none

/-- How a key of a record that has been read names a measure: by its name, or by its place as a number. Numbers of
two or four bytes are no names; other keys name nothing that is wanted. -/
def measureKey? (k : Kind) : Value → Option (Option String)
  | .text s => some (if (Solid.measureNames k).contains s then some s else none)
  | .natural n => if n < 2 ^ (8 : Nat) ∨ 2 ^ (32 : Nat) ≤ n then some ((Solid.measureNames k)[n]?) else none
  | _ => none

def measureParts? (k : Kind) : List (Value × Value) → Option MeasureParts
  | [] => some []
  | (key, v) :: rest => do
    let parts ← measureParts? k rest
    match ← measureKey? k key with
    | none => return parts
    | some name => if parts.holds name then none else return (name, ← v.toFloat?) :: parts

def ofRecord? (k : Kind) : Value → Option Solid
  | .record fs => (measureParts? k fs).bind (·.solid? k)
  | _ => none

/-- What is known of a solid. Measures that come before the kind are kept as a value. -/
structure SolidParts where
  kind : Option Kind := none
  kept : Option Value := none
  solid : Option Solid := none

def solidField (fuel : Nat) (scope : Scope) (key : String) (parts : SolidParts) : Reader SolidParts := do
  let inside ← enter scope
  if key = "kind" then
    if parts.kind.isSome then Reader.fail
    let k ← kind
    match parts.kept with
    | none => return { parts with kind := some k }
    | some v => return { parts with kind := some k, solid := some (← Reader.need (ofRecord? k v)) }
  else if key = "params" then
    if parts.solid.isSome || parts.kept.isSome then Reader.fail
    match parts.kind with
    | some k => return { parts with solid := some (← measures fuel inside k) }
    | none => return { parts with kept := some (← value fuel inside) }
  else
    skip fuel inside
    return parts

def solid (fuel : Nat) (scope : Scope) : Reader Solid := do
  let parts ← record fuel "Shape" (solidField fuel (← enter scope)) {}
  Reader.need parts.solid

/-- Three numbers in round brackets. A name stands directly in front of them. -/
def point : Reader Point := do
  recordName "DVec3"
  Reader.expectChar '('
  let item (comma : Bool) : Reader (Float × Bool) := do
    if ← more ')' comma then
      let x ← real
      return (x, ← acceptComma)
    else Reader.fail
  let (x, comma) ← item true
  let (y, comma) ← item comma
  let (z, _) ← item comma
  close ')'
  return ⟨x, y, z⟩

def primitiveField (fuel : Nat) (scope : Scope) (key : String) (parts : PrimitiveParts) : Reader PrimitiveParts := do
  let inside ← enter scope
  if key = "id" then return { parts with id := ← Reader.once parts.id text }
  else if key = "shape" then return { parts with solid := ← Reader.once parts.solid (solid fuel inside) }
  else if key = "position_mm" then return { parts with position := ← Reader.once parts.position point }
  else
    skip fuel inside
    return parts

def primitive (fuel : Nat) (scope : Scope) : Reader Primitive := do
  let parts ← record fuel "PrimitiveData" (primitiveField fuel (← enter scope)) {}
  parts.primitive

def operandField (fuel : Nat) (scope : Scope) (key : String) (parts : OperationParts) : Reader OperationParts := do
  if key = "target" then return { parts with target := ← Reader.once parts.target text }
  else if key = "tool" then return { parts with tool := ← Reader.once parts.tool text }
  else
    skip fuel (← enter scope)
    return parts

/-- The kind of the operation as the name of a record of its operands. -/
def operation (fuel : Nat) (scope : Scope) : Reader Operation := do
  let inside ← enter scope
  let k ← Reader.need (OperationKind.ofName? (← name))
  blanks
  Reader.expectChar '('
  let parts ← fields ')' (operandField fuel (← enter inside)) fuel true {}
  parts.operation k

def modelField (fuel : Nat) (scope : Scope) (key : String) (parts : ModelParts) : Reader ModelParts := do
  let inside ← enter scope
  if key = "version" then
    return { parts with version := ← Reader.once parts.version (natural greatestVersion) }
  else if key = "primitives" then
    let item := primitive fuel (← enter (← enter inside))
    return { parts with primitives := ← Reader.once parts.primitives (list fuel item) }
  else if key = "operations" then
    let item := operation fuel (← enter (← enter inside))
    return { parts with operations := ← Reader.once parts.operations (list fuel item) }
  else
    skip fuel inside
    return parts

def model (fuel : Nat) (scope : Scope) : Reader Model := do
  let parts ← record fuel "Model" (modelField fuel (← enter scope)) {}
  parts.model

end Ron

end PromptCad
