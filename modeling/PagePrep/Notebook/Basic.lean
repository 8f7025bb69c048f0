import PagePrep.Text.Lines

/-!
# Notebooks

The part of a notebook that a page can show: its cells in order, each with a kind and a source.
-/

set_option autoImplicit false

namespace PagePrep

/-- What a cell holds, in one of the two forms that notebooks write it in. -/
inductive Source where
  | lines (ls : List String)
  | text (s : String)
  deriving DecidableEq, Repr

/-- The pieces of a source, each with its own newline. -/
def Source.items : Source → List String
  | lines ls => ls
  | text s => Text.pieces s

/-- One cell. -/
structure Cell where
  /-- Its kind by name, such as `markdown` or `code`. -/
  kind : String
  source : Source
  deriving DecidableEq, Repr

/-- A notebook. -/
structure Notebook where
  cells : List Cell
  deriving DecidableEq, Repr

end PagePrep
