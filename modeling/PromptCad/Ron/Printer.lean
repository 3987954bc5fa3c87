import PromptCad.Decimal.Layout
import PromptCad.Ron.Text

/-! Writing RON: records and lists with one item to a line, indented by four spaces for each level. -/

namespace PromptCad.Ron

inductive Form where
  /-- A text that stands as it is. -/
  | plain (s : List Char)
  /-- A record, whose name may be empty. -/
  | record (name : String) (fields : List (String × Form))
  | list (items : List Form)

namespace Form

def natural (n : Nat) : Form := plain (Decimal.natChars n)

def real (x : Float) : Form := plain (Decimal.plainWithPoint x)

def text (s : String) : Form := plain (quote s.toList)

def word (s : String) : Form := plain s.toList

def reals : List Float → List Char
  | [] => []
  | [x] => Decimal.plainWithPoint x
  | x :: y :: rest => Decimal.plainWithPoint x ++ ',' :: ' ' :: reals (y :: rest)

def tuple (xs : List Float) : Form := plain ('(' :: reals xs ++ [')'])

end Form

def indent (level : Nat) : List Char := List.replicate (4 * level) ' '

/-- A bracketed list of items, each on a line of its own with a comma after it. -/
def block (opening closing : Char) (level : Nat) (items : List (List Char)) : List Char :=
  if items = [] then [opening, closing]
  else opening :: '\n' :: items.flatMap (fun item => indent (level + 1) ++ item ++ [',', '\n']) ++
    indent level ++ [closing]

mutual

def Form.print (level : Nat) : Form → List Char
  | .plain s => s
  | .record name fs => name.toList ++ block '(' ')' level (printFields level fs)
  | .list fs => block '[' ']' level (printItems level fs)

def printFields (level : Nat) : List (String × Form) → List (List Char)
  | [] => []
  | (name, f) :: rest => (name.toList ++ ':' :: ' ' :: f.print (level + 1)) :: printFields level rest

def printItems (level : Nat) : List Form → List (List Char)
  | [] => []
  | f :: rest => f.print (level + 1) :: printItems level rest

end

end PromptCad.Ron
