import PagePrep.Notebook.Basic
import PagePrep.Text.Blank
import PagePrep.Text.Search

/-!
# Notebooks as page text

Markdown cells are shown as they are, with links to the site made relative to its root. Code cells
are shown as code blocks. Cells of other kinds leave an empty line.
-/

set_option autoImplicit false

namespace PagePrep

open Text

/-- Where a site's absolute links start: its root, ended by one slash. -/
def siteLink (root : String) : String :=
  String.ofList ((root.toList.reverse.dropWhile (· == '/')).reverse ++ ['/'])

/-- An item of a markdown cell: the links to the site start at its root, and the end is trimmed. -/
def markdownItem (root item : String) : String :=
  String.ofList (trimEnd (replaceAll item (siteLink root) "/").toList)

/-- A cell as page text. -/
def Cell.render (root : String) (c : Cell) : String :=
  (if c.kind = "markdown" then
      String.join (c.source.items.map fun item => "\n" ++ markdownItem root item)
    else if c.kind = "code" then "\n```\n" ++ String.join c.source.items ++ "\n```"
    else "") ++ "\n"

/-- A notebook as page text, for a site with the given root. -/
def Notebook.render (root : String) (n : Notebook) : String :=
  String.join (n.cells.map (Cell.render root))

/-- The lines that show a notebook on a page. -/
def Notebook.pageLines (root : String) (n : Notebook) : List String := lines (n.render root)

end PagePrep
