import PromptCad.Unicode.WhiteSpace

/-! Blanks at the ends of a line and between its words, where a blank is any white space of Unicode. -/

namespace PromptCad.Text

open Unicode (isWhiteSpace)

def trimLeft (s : List Char) : List Char := s.dropWhile isWhiteSpace

def trimRight (s : List Char) : List Char := (s.reverse.dropWhile isWhiteSpace).reverse

def trim (s : List Char) : List Char := trimRight (trimLeft s)

/-- The text before the first blank and the text after that blank; all of it and nothing when there is none. -/
def splitAtBlank (s : List Char) : List Char × List Char :=
  (s.takeWhile (!isWhiteSpace ·), (s.dropWhile (!isWhiteSpace ·)).drop 1)

/-- The first maximal run of characters that are not blank; empty for a blank line. -/
def firstWord (s : List Char) : List Char := (trimLeft s).takeWhile (!isWhiteSpace ·)

theorem trimLeft_append_of_all {b : List Char} (hb : ∀ c ∈ b, isWhiteSpace c = true) (s : List Char) :
    trimLeft (b ++ s) = trimLeft s := by
  induction b with
  | nil => rfl
  | cons c b ih =>
    have hc := hb c (by simp)
    simpa [trimLeft, hc] using ih fun d hd => hb d (by simp [hd])

end PromptCad.Text
