import PromptCad.Unicode.Cased
import PromptCad.Unicode.LowerCase

/-! The lower-case form of a text. Every character maps on its own except the capital sigma, which becomes the
final sigma when a cased letter stands before it and none after it, not counting characters that case ignores. -/

namespace PromptCad.Text

open Unicode

def sigma : Char := '\u03A3'

/-- Whether the next character that case does not ignore is cased. -/
def casedAhead (s : List Char) : Bool :=
  match s.dropWhile isCaseIgnorable with
  | [] => false
  | c :: _ => isCased c

/-- What `casedAhead` says of the text read backwards, carried forward over one more character. -/
def casedBehind (before : Bool) (c : Char) : Bool :=
  if isCaseIgnorable c then before else isCased c

def lowerAfter (before : Bool) : List Char → List Char
  | [] => []
  | c :: s =>
    let here :=
      if c = sigma then [if before && !casedAhead s then '\u03C2' else '\u03C3'] else lowerChars c
    here ++ lowerAfter (casedBehind before c) s

def lower (s : List Char) : List Char := lowerAfter false s

def lowerAscii (s : List Char) : List Char := s.map Char.toLower

end PromptCad.Text
