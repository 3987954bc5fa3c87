import PromptCad.Text.Blank
import PromptCad.Text.Lower

/-! The form in which a prompt line is read: trimmed and in lower case. -/

namespace PromptCad.Prompt

def normalizeChars (line : List Char) : List Char := Text.lower (Text.trim line)

def normalize (line : String) : String := String.ofList (normalizeChars line.toList)

end PromptCad.Prompt
