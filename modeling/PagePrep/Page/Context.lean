import PagePrep.Text.Blank
import PagePrep.Total

/-!
# Contexts

A context is a section of a page that a header opens. Its score says how much it has to read.
-/

set_option autoImplicit false

namespace PagePrep

/-- A section of the page `file`, whose separator stands on the line with index `lineIndex`. -/
structure Context where
  file : String
  lineIndex : Nat
  /-- The lines of the section, header first. -/
  lines : List String
  deriving DecidableEq, Repr

namespace Context

/-- The least score of a context that has enough to read. -/
def threshold : Nat := 10

/-- Words on all lines; the signs of headers and code count as words too. -/
def score (c : Context) : Nat := total (c.lines.map Text.wordCount)

/-- A context with too little to read. -/
def isWeak (c : Context) : Bool := c.score < threshold

end Context

end PagePrep
