import Mathlib.Computability.Language
import PromptCad.Prompt.Sentence

/-! The grammar of sentences about solids: which lines say which sentence. A line is the text of all its parts, from
its first character to its last. -/

namespace PromptCad.Prompt

open Unicode (isDecimalDigit isWhiteSpace)

namespace Grammar

def run (p : Char → Bool) : Language Char := {s | s ≠ [] ∧ ∀ c ∈ s, p c = true}

def blanks : Language Char := run isWhiteSpace

def gap : Language Char := {s | ∀ c ∈ s, isWhiteSpace c = true}

def letters : Language Char := run fun c => 'a' ≤ c && c ≤ 'z'

def digits : Language Char := run isDecimalDigit

def point : Language Char := {['.']}

def sign : Language Char := 1 + {['-']} + {['+']}

def unsigned : Language Char := digits + digits * point * digits + point * digits

def numeral : Language Char := sign * unsigned

def word (w : String) : Language Char := {w.toList}

def number (text : String) : Language Char := {s | s = text.toList ∧ s ∈ numeral}

/-- A unit that reads as this; it may not be left out. -/
def unit (text : Option String) : Language Char := {s | some s = text.map (·.toList) ∧ s ∈ letters}

def unitIfAny : Option String → Language Char
  | none => 1
  | some text => unit (some text)

def length (m : Measurement) : Language Char := number m.number * gap * unit m.unit

/-- A number with or without a unit. -/
def extent (m : Measurement) : Language Char := number m.number * gap * unitIfAny m.unit

def times : Language Char := gap * word "x" * gap

def byWord : Language Char := blanks * word "by" * blanks

end Grammar

open Grammar

def Sentence.lines : Sentence → Language Char
  | sharedUnitBox width depth height =>
    {s | width.unit = height.unit ∧ depth.unit = height.unit ∧
      s ∈ number width.number * times * number depth.number * times * length height * blanks *
        (word "box" + word "cube")}
  | boxBy width depth height => word "box" * blanks * length width * byWord * length depth * byWord * length height
  | cube side => word "cube" * blanks * length side + length side * blanks * word "cube"
  | cylinder radius height =>
    word "cylinder" * blanks * word "radius" * blanks * extent radius * blanks * word "height" * blanks * extent height
  | sphere radius => word "sphere" * blanks * word "radius" * blanks * extent radius

/-- The text up to the first blank, where blanks before it do not count, is this word. -/
def Opens (w : String) (line : List Char) : Prop :=
  ∃ a b, line = a ++ w.toList ++ b ∧ a ∈ gap ∧ (∀ c ∈ w.toList, isWhiteSpace c = false) ∧
    ∀ c ∈ b.head?, isWhiteSpace c = true

end PromptCad.Prompt

def PromptCad.Keyword.word : PromptCad.Keyword → String
  | box => "box"
  | cube => "cube"
  | cylinder => "cylinder"
  | sphere => "sphere"
