/-!
# Regions of a page

A region stands between a line with its begin word and a line with its end word. What is between
belongs to remote content and is replaced whenever the page is rendered.
-/

set_option autoImplicit false

namespace PagePrep

/-- What fills a region. -/
inductive RegionKind where
  /-- The lines of a remote page fragment. -/
  | fragment
  /-- A remote notebook, rendered. -/
  | notebook
  deriving DecidableEq, Repr

namespace RegionKind

/-- The word in a line that opens a region. -/
def beginWord : RegionKind → String
  | fragment => "BEGIN_INCLUDE_FILE"
  | notebook => "BEGIN_NOTEBOOK"

/-- The word in a line that closes a region. -/
def endWord : RegionKind → String
  | fragment => "END_INCLUDE_FILE"
  | notebook => "END_NOTEBOOK"

/-- What is fetched for a region, in a message. -/
def contentNoun : RegionKind → String
  | fragment => "content"
  | notebook => "notebook"

end RegionKind

end PagePrep
