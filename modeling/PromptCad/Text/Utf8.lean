/-! Text from bytes, and where bytes stop being text. -/

namespace PromptCad.Text

inductive Utf8Fault where
  /-- So many bytes at an index can begin no text, whatever comes after them. -/
  | invalid (index length : Nat)
  /-- The bytes end within the character that starts at an index. -/
  | incomplete (index : Nat)
deriving DecidableEq

/-- The bytes that may come second in a character, by its first byte, with how many bytes the character has. -/
def secondBytes? (first : UInt8) : Option (UInt8 × UInt8 × Nat) :=
  if 0xC2 ≤ first && first ≤ 0xDF then some (0x80, 0xBF, 2)
  else if first = 0xE0 then some (0xA0, 0xBF, 3)
  else if first = 0xED then some (0x80, 0x9F, 3)
  else if 0xE1 ≤ first && first ≤ 0xEF then some (0x80, 0xBF, 3)
  else if first = 0xF0 then some (0x90, 0xBF, 4)
  else if 0xF1 ≤ first && first ≤ 0xF3 then some (0x80, 0xBF, 4)
  else if first = 0xF4 then some (0x80, 0x8F, 4)
  else none

def isContinuation (b : UInt8) : Bool := 0x80 ≤ b && b ≤ 0xBF

/-- How many bytes make up the character in front; if there is none, how many bytes are at fault, or nothing if only
more bytes can tell. -/
def characterSize : List UInt8 → Except (Option Nat) Nat
  | [] => .ok 0
  | first :: rest =>
    if first < 0x80 then .ok 1
    else match secondBytes? first, rest with
      | none, _ => .error (some 1)
      | some _, [] => .error none
      | some (low, high, size), second :: rest =>
        if second < low || high < second then .error (some 1)
        else
          let good := ((rest.take (size - 2)).takeWhile isContinuation).length
          if good = size - 2 then .ok size
          else if good = rest.length then .error none
          else .error (some (2 + good))

/-- The first fault in bytes from an index on, looking at as many characters as the fuel. -/
def fault? : Nat → Nat → List UInt8 → Option Utf8Fault
  | 0, _, _ => none
  | fuel + 1, index, bytes =>
    if bytes = [] then none
    else match characterSize bytes with
      | .ok size => fault? fuel (index + size) (bytes.drop size)
      | .error none => some (.incomplete index)
      | .error (some length) => some (.invalid index length)

def decode (bytes : ByteArray) : Except Utf8Fault String :=
  match String.fromUTF8? bytes with
  | some s => .ok s
  | none => .error ((fault? bytes.size 0 bytes.toList).getD (.incomplete bytes.size))

end PromptCad.Text
