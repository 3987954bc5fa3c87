/-! Paths: names between slashes, from the root or from the working directory. How a path ends decides whether it
may lead to a file. -/

namespace PromptCad

inductive PathEnd where
  /-- The root, a dot or two dots: a directory. -/
  | directory
  /-- Any other name, with or without slashes after it. -/
  | name (name : String) (slashed : Bool)

structure Path where
  fromRoot : Bool
  /-- The names of the directories that it leads through. Two dots may be among them, a single dot is not. -/
  way : List String
  ending : PathEnd

namespace Path

def itself : String := "."

def above : String := ".."

def pieces (text : String) : List String := (text.toList.splitOn '/').map String.ofList

def ofText (text : String) : Path :=
  let fromRoot := text.startsWith "/"
  let names := (pieces text).filter (· ≠ "")
  let directory : Path := ⟨fromRoot, names.filter (· ≠ itself), .directory⟩
  match names.getLast? with
  | none => directory
  | some last =>
    if last = itself || last = above then directory
    else ⟨fromRoot, names.dropLast.filter (· ≠ itself), .name last (text.endsWith "/")⟩

end Path

end PromptCad
