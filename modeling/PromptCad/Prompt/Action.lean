import PromptCad.Primitive
import PromptCad.Prompt.Sentence

/-! From a prompt to an action on the model. The counter behind the ids of primitives moves on only when a primitive
is made, so a refused prompt leaves it where it was. -/

namespace PromptCad

open scoped Power

/-- Numbers the primitives of every kind together. -/
structure IdCounter where
  next : Nat := 1
deriving DecidableEq

namespace IdCounter

/-- The counter does not go past this number, and the id with this number is never given out. -/
def last : Nat := 2 ^ (64 : Nat) - 1

def startingAt (n : Nat) : IdCounter := ⟨max n 1⟩

def idText (kind : Kind) (n : Nat) : String := kind.idStem ++ "-" ++ Decimal.natText n

def issue (ids : IdCounter) (solid : Solid) : Except PromptError (Primitive × IdCounter) :=
  if last ≤ ids.next then .error .idsExhausted
  else do
    let p ← Primitive.make (idText solid.kind ids.next) solid
    return (p, ⟨ids.next + 1⟩)

end IdCounter

inductive Action where
  /-- The primitive replaces the whole model. -/
  | create (p : Primitive)
  | add (p : Primitive)
  | clear
deriving DecidableEq

namespace Prompt

inductive Verb where
  | create
  | add
deriving DecidableEq

/-- The verb in front of a line, and the trimmed text after it. -/
def splitVerb? (line : List Char) : Option (Verb × List Char) :=
  let (head, rest) := Text.splitAtBlank line
  if head = "create".toList then some (.create, Text.trim rest)
  else if head = "add".toList then some (.add, Text.trim rest)
  else none

def Verb.action : Verb → Primitive → Action
  | create => .create
  | add => .add

/-- Reads the description of a solid and gives it the next id; `unsupported` tells of a text that is no such
description. -/
def build (text : List Char) (unsupported : String → PromptError) (ids : IdCounter) :
    Except PromptError (Primitive × IdCounter) := do
  match ← Sentence.ofLine (normalizeChars text) with
  | none => throw (unsupported (String.ofList text))
  | some sentence => ids.issue (← sentence.solid)

/-- A line is the word clear, a verb with a solid, or a solid alone, which is then created. -/
def parse (text : String) (ids : IdCounter) : Except PromptError (Action × IdCounter) := do
  let line := normalizeChars text.toList
  if line = [] then throw .emptyPrompt
  else if line = "clear".toList then return (.clear, ids)
  else match splitVerb? line with
    | some (verb, rest) =>
      let (p, ids) ← build rest .unsupportedShape ids
      return (verb.action p, ids)
    | none =>
      let (p, ids) ← build line .unsupportedCommand ids
      return (.create p, ids)

end Prompt

end PromptCad
