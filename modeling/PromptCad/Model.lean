import PromptCad.Primitive

/-! The model: an ordered list of primitives, with boolean operations that are recorded between them and never
evaluated. A step either succeeds or leaves the model as it was. -/

namespace PromptCad

open scoped Power

inductive OperationKind where
  | union
  | difference
deriving DecidableEq

/-- A boolean operation between two primitives, given by their ids. -/
structure Operation where
  kind : OperationKind
  target : String
  tool : String
deriving DecidableEq

def Operation.operands (o : Operation) : List String := [o.target, o.tool]

inductive ModelError where
  | full (limit : Nat)
  | notFound (id : String)
  | duplicate (id : String)
  | unsupportedVersion (version : Nat)
deriving DecidableEq

structure Model where
  version : Nat
  primitives : List Primitive
  operations : List Operation
  /-- How many primitives the model may hold. -/
  limit : Nat
deriving DecidableEq

namespace Model

def currentVersion : Nat := 1

def standardLimit : Nat := 256

def withLimit (limit : Nat) : Model := ⟨currentVersion, [], [], limit⟩

def empty : Model := withLimit standardLimit

def ids (m : Model) : List String := m.primitives.map (·.id)

def get? (m : Model) (id : String) : Option Primitive := m.primitives.find? (·.id == id)

def clear (m : Model) : Model := { m with primitives := [], operations := [] }

/-- The primitive replaces everything, the operations included. -/
def create (m : Model) (p : Primitive) : Model := { m with primitives := [p], operations := [] }

def add (m : Model) (p : Primitive) : Except ModelError Model :=
  if m.limit ≤ m.primitives.length then .error (.full m.limit)
  else .ok { m with primitives := m.primitives ++ [p] }

/-- Records an operation. Its target is looked up before its tool. -/
def pushOperation (m : Model) (o : Operation) : Except ModelError Model :=
  match o.operands.find? fun id => (m.get? id).isNone with
  | some id => .error (.notFound id)
  | none => .ok { m with operations := m.operations ++ [o] }

/-- The first text of a list that is among those before it. -/
def firstRepeat? (before : List String) : List String → Option String
  | [] => none
  | id :: rest => if id ∈ before then some id else firstRepeat? (id :: before) rest

/-- Whether a model from outside is sound: a version that is known, ids that differ, operands that exist. -/
def check (m : Model) : Except ModelError Unit :=
  if m.version ≠ currentVersion then .error (.unsupportedVersion m.version)
  else match firstRepeat? [] m.ids with
    | some id => .error (.duplicate id)
    | none => match (m.operations.flatMap (·.operands)).find? (· ∉ m.ids) with
      | some id => .error (.notFound id)
      | none => .ok ()

def afterLastDash? (id : List Char) : Option (List Char) :=
  if '-' ∈ id then some (id.reverse.takeWhile (· ≠ '-')).reverse else none

/-- The number at the end of an id, after its last dash. -/
def idNumber? (id : String) : Option Nat :=
  (afterLastDash? id.toList).bind (Decimal.readNat? (2 ^ (64 : Nat) - 1))

/-- The greatest number that an id ends with; zero when none ends with one. -/
def highestIdNumber (m : Model) : Nat := (m.ids.filterMap idNumber?).foldl max 0

theorem add_eq_ok {m n : Model} {p : Primitive} :
    m.add p = .ok n ↔ m.primitives.length < m.limit ∧ n = { m with primitives := m.primitives ++ [p] } := by
  unfold add; split
  · simp; omega
  · simp; constructor
    · rintro rfl; exact ⟨by omega, rfl⟩
    · rintro ⟨-, rfl⟩; rfl

end Model

def ModelError.message : ModelError → String
  | full limit => "Model is full: at most " ++ Decimal.natText limit ++ " primitives"
  | notFound id => "Primitive not found: " ++ id
  | duplicate id => "Duplicate primitive id: " ++ id
  | unsupportedVersion version =>
    "Unsupported model version " ++ Decimal.natText version ++ " (expected " ++
      Decimal.natText Model.currentVersion ++ ")"

end PromptCad
