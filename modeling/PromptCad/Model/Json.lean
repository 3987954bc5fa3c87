import PromptCad.Json.Reader
import PromptCad.Model.Parts

/-! Primitives and models as JSON. An object may hold further members; an array of the members in their order stands
for the object. -/

namespace PromptCad

open Json (Value)

def Point.toJson (p : Point) : Value := .list (p.toList.map .real)

def Solid.toJson (s : Solid) : Value :=
  .record [("kind", .text s.kind.idStem),
    ("params", .record ((Solid.measureNames s.kind).zip (s.measures.map .real)))]

def Primitive.toJson (p : Primitive) : Value :=
  .record [("id", .text p.id), ("shape", p.solid.toJson), ("position_mm", p.position.toJson)]

def Operation.toJson (o : Operation) : Value :=
  .record [(o.kind.name, .record [("target", .text o.target), ("tool", .text o.tool)])]

/-- The limit is not part of the text. -/
def Model.toJson (m : Model) : Value :=
  .record [("version", .natural m.version), ("primitives", .list (m.primitives.map (·.toJson))),
    ("operations", .list (m.operations.map (·.toJson)))]

def Primitive.jsonText (p : Primitive) : String := String.ofList p.toJson.compact

def Model.jsonText (m : Model) : String := String.ofList (m.toJson.pretty 0)

namespace Json

def item {α : Type} (first : Bool) (r : Reader α) : Reader α := do
  if ← more ']' first then r else Reader.fail

def listEnd : Reader Unit := do
  if ← more ']' false then Reader.fail

def kindName : Reader Kind := do Reader.need (Kind.ofStem? (← text))

/-- A kind as a string, or as the only key of an object that holds null. -/
def kind : Reader Kind := do
  if (← next) = some '{' then
    Reader.drop 1
    let k ← kindName
    mark ':'
    blanks
    Reader.expect "null".toList
    mark '}'
    return k
  else kindName

def measureMember (fuel : Nat) (k : Kind) (name : String) (parts : MeasureParts) : Reader MeasureParts := do
  if (Solid.measureNames k).contains name then
    if parts.holds name then Reader.fail
    return (name, ← real) :: parts
  else
    skip fuel
    return parts

def measures (fuel : Nat) (k : Kind) : Reader Solid := do
  mark '{'
  let parts ← members (measureMember fuel k) fuel true []
  Reader.need (parts.solid? k)

/-- The measures among the members of an object that has been read. -/
def measureParts? (k : Kind) : List (String × Value) → Option MeasureParts
  | [] => some []
  | (name, v) :: rest =>
    match measureParts? k rest with
    | none => none
    | some parts =>
      if !(Solid.measureNames k).contains name then some parts
      else if parts.holds name then none
      else match v with
        | .number n => some ((name, n.toFloat) :: parts)
        | _ => none

def ofRecord? (k : Kind) : Value → Option Solid
  | .record ms => (measureParts? k ms).bind (·.solid? k)
  | _ => none

/-- What is known of a solid. Measures that come before the kind are kept as a value. -/
structure SolidParts where
  kind : Option Kind := none
  kept : Option Value := none
  solid : Option Solid := none

def solidMember (fuel depth : Nat) (key : String) (parts : SolidParts) : Reader SolidParts := do
  if key = "kind" then
    if parts.kind.isSome then Reader.fail
    let k ← kind
    match parts.kept with
    | none => return { parts with kind := some k }
    | some v => return { parts with kind := some k, solid := some (← Reader.need (ofRecord? k v)) }
  else if key = "params" then
    if parts.solid.isSome || parts.kept.isSome then Reader.fail
    match parts.kind with
    | some k => return { parts with solid := some (← measures fuel k) }
    | none => return { parts with kept := some (← value fuel depth) }
  else
    skip fuel
    return parts

/-- A solid. In an array its kind can only be a string. -/
def solid (fuel depth : Nat) : Reader Solid := do
  if (← next) = some '[' then
    Reader.drop 1
    let k ← item true kindName
    let s ← item false (measures fuel k)
    listEnd
    return s
  else
    mark '{'
    let parts ← members (solidMember fuel depth) fuel true {}
    Reader.need parts.solid

def point : Reader Point := do
  mark '['
  let x ← item true real
  let y ← item false real
  let z ← item false real
  listEnd
  return ⟨x, y, z⟩

def primitiveMember (fuel depth : Nat) (key : String) (parts : PrimitiveParts) : Reader PrimitiveParts := do
  if key = "id" then return { parts with id := ← Reader.once parts.id text }
  else if key = "shape" then return { parts with solid := ← Reader.once parts.solid (solid fuel depth) }
  else if key = "position_mm" then return { parts with position := ← Reader.once parts.position point }
  else
    skip fuel
    return parts

/-- An item at the end of a list, which may be left out. -/
def lastItem? {α : Type} (r : Reader α) : Reader (Option α) := do
  if ← more ']' false then
    let a ← r
    listEnd
    return some a
  else return none

/-- A primitive. `depth` is how many levels of nesting are still allowed outside of it. -/
def primitive (fuel depth : Nat) : Reader Primitive := do
  if (← next) = some '[' then
    Reader.drop 1
    let id ← item true text
    let s ← item false (solid fuel (depth - 2))
    let position ← lastItem? point
    PrimitiveParts.primitive ⟨some id, some s, position⟩
  else
    mark '{'
    let parts ← members (primitiveMember fuel (depth - 2)) fuel true {}
    parts.primitive

def operandMember (fuel : Nat) (key : String) (parts : OperationParts) : Reader OperationParts := do
  if key = "target" then return { parts with target := ← Reader.once parts.target text }
  else if key = "tool" then return { parts with tool := ← Reader.once parts.tool text }
  else
    skip fuel
    return parts

def operands (fuel : Nat) (k : OperationKind) : Reader Operation := do
  if (← next) = some '[' then
    Reader.drop 1
    let target ← item true text
    let tool ← item false text
    listEnd
    return ⟨k, target, tool⟩
  else
    mark '{'
    let parts ← members (operandMember fuel) fuel true {}
    parts.operation k

/-- An object with the kind of the operation as its only key. -/
def operation (fuel : Nat) : Reader Operation := do
  mark '{'
  let k ← Reader.need (OperationKind.ofName? (← text))
  mark ':'
  let o ← operands fuel k
  mark '}'
  return o

def listOf {α : Type} (fuel : Nat) (r : Reader α) : Reader (List α) := do
  mark '['
  items r fuel true

def modelMember (fuel depth : Nat) (key : String) (parts : ModelParts) : Reader ModelParts := do
  if key = "version" then
    return { parts with version := ← Reader.once parts.version (natural greatestVersion) }
  else if key = "primitives" then
    return { parts with primitives := ← Reader.once parts.primitives (listOf fuel (primitive fuel (depth - 2))) }
  else if key = "operations" then
    return { parts with operations := ← Reader.once parts.operations (listOf fuel (operation fuel)) }
  else
    skip fuel
    return parts

def model (fuel depth : Nat) : Reader Model := do
  if (← next) = some '[' then
    Reader.drop 1
    let version ← item true (natural greatestVersion)
    let primitives ← item false (listOf fuel (primitive fuel (depth - 2)))
    let operations ← lastItem? (listOf fuel (operation fuel))
    ModelParts.model ⟨some version, some primitives, operations⟩
  else
    mark '{'
    let parts ← members (modelMember fuel depth) fuel true {}
    parts.model

def greatestDepth : Nat := 128

end Json

def Primitive.ofJsonText (s : String) : Except ReadError Primitive :=
  let cs := s.toList
  Json.readAll (Json.primitive (cs.length + 1) Json.greatestDepth) cs

/-- The model that a text holds, not yet checked as a whole. -/
def Model.ofJsonText (s : String) : Except ReadError Model :=
  let cs := s.toList
  Json.readAll (Json.model (cs.length + 1) Json.greatestDepth) cs

end PromptCad
