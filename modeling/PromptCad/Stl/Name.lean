import PromptCad.Text.Blank
import PromptCad.Unicode.Alphanumeric

/-! Names of solids in a file, which are single words. -/

namespace PromptCad.Stl

/-- Letters, digits and a few marks may stand in a name. -/
def isNameChar (c : Char) : Bool := Unicode.isAlphanumeric c || c = '_' || c = '-' || c = '.'

def standardName : List Char := "model".toList

/-- A name as one word: trimmed, with an underscore for every character that may not stand in it. -/
def solidName (name : List Char) : List Char :=
  let word := (Text.trim name).map fun c => if isNameChar c then c else '_'
  if word = [] then standardName else word

def solidNameText (name : String) : String := String.ofList (solidName name.toList)

theorem solidName_ne_nil (name : List Char) : solidName name ≠ [] := by
  unfold solidName; dsimp only; split
  · decide
  · assumption

theorem isNameChar_of_mem_solidName {name : List Char} {c : Char} (h : c ∈ solidName name) :
    isNameChar c = true := by
  unfold solidName at h; dsimp only at h; split at h
  · have hall : standardName.all isNameChar = true := by decide
    exact List.all_eq_true.mp hall c h
  · obtain ⟨d, -, rfl⟩ := List.mem_map.mp h
    split
    · assumption
    · simp [isNameChar]

end PromptCad.Stl
