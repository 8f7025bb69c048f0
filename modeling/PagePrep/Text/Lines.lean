/-!
# Lines of a text

A line ends at a newline, and one carriage return before that newline belongs to the ending. The
last line needs no ending, and a text that ends in a newline has no further empty line.
-/

set_option autoImplicit false

namespace PagePrep.Text

/-- A line held in reverse, without the carriage return of its ending. -/
def dropReturn : List Char → List Char
  | '\r' :: held => held
  | held => held

/-- Lines of the characters to come, after the unfinished line `held` (in reverse). -/
def linesFrom (held : List Char) : List Char → List String
  | [] => if held.isEmpty then [] else [String.ofList held.reverse]
  | c :: cs =>
    if c = '\n' then String.ofList (dropReturn held).reverse :: linesFrom [] cs
    else linesFrom (c :: held) cs

/-- The lines of a text, without their endings. -/
def lines (s : String) : List String := linesFrom [] s.toList

/-- The text of some lines, each ended by a newline. -/
def unlines (ls : List String) : String := String.join (ls.map fun l => l ++ "\n")

/-- Pieces of the characters to come, each with its own newline, after the piece `held`. -/
def piecesFrom (held : List Char) : List Char → List String
  | [] => if held.isEmpty then [] else [String.ofList held.reverse]
  | c :: cs =>
    if c = '\n' then String.ofList (c :: held).reverse :: piecesFrom [] cs
    else piecesFrom (c :: held) cs

/-- The pieces of a text that end after each newline. -/
def pieces (s : String) : List String := piecesFrom [] s.toList

@[simp] theorem lines_empty : lines "" = [] := rfl

@[simp] theorem unlines_nil : unlines [] = "" := rfl

theorem toList_unlines (ls : List String) :
    (unlines ls).toList = ls.flatMap fun l => l.toList ++ ['\n'] := by
  simp [unlines, List.flatMap_map]

end PagePrep.Text
