import PromptCad.Reader

/-! Blanks between the words of RON: spaces, tabs, line ends and comments. A comment runs to the end of its line, or
stands between marks that may be nested. -/

namespace PromptCad.Ron

def isBlank (c : Char) : Bool := c = ' ' || c = '\t' || c = '\n' || c = '\r'

/-- Where a text is looked at: between words, in a comment that ends with its line, or in nested comments. -/
inductive Place where
  | between
  | line
  | block (depth : Nat)

/-- The text after blanks. A comment that is not closed, or a single slash, is a fault. -/
def afterBlanks? : Place → List Char → Option (List Char)
  | .between, '/' :: '/' :: s => afterBlanks? .line s
  | .between, '/' :: '*' :: s => afterBlanks? (.block 0) s
  | .between, c :: s => if isBlank c then afterBlanks? .between s else if c = '/' then none else some (c :: s)
  | .line, c :: s => afterBlanks? (if c = '\n' then .between else .line) s
  | .block depth, '/' :: '*' :: s => afterBlanks? (.block (depth + 1)) s
  | .block 0, '*' :: '/' :: s => afterBlanks? .between s
  | .block (depth + 1), '*' :: '/' :: s => afterBlanks? (.block depth) s
  | .block depth, _ :: s => afterBlanks? (.block depth) s
  | .block _, [] => none
  | _, [] => some []

def blanks : Reader Unit := Reader.ofSplit fun s => (afterBlanks? .between s).map ((), ·)

end PromptCad.Ron
