import PagePrep.Text.Search

/-!
# Paths

A path is a text of steps with slashes between them. Paths are kept as they are written; what a
path leads to is decided step by step.
-/

set_option autoImplicit false

namespace PagePrep.Path

open Text

/-- Whether a path starts at the root of the file system. -/
def isAbsolute (path : String) : Bool := path.toList.head? == some '/'

/-- Whether a path ends in a slash. -/
def endsInSlash (path : String) : Bool := path.toList.getLast? == some '/'

/-- The path `sub` as seen from `base`. -/
def join (base sub : String) : String :=
  if isAbsolute sub then sub
  else if base.isEmpty || endsInSlash base then base ++ sub
  else base ++ "/" ++ sub

/-- The path to what some names lead to, from `base`. -/
def joinAll (base : String) (names : List String) : String := names.foldl join base

/-- The steps of a path, without empty ones. -/
def steps (path : String) : List String :=
  ((splitAt '/' path.toList).filter fun p => !p.isEmpty).map String.ofList

/-- The steps of a path, with an empty one at the end where the path ends in a slash: what is before
the slash has to be a folder. -/
def walkSteps (path : String) : List String :=
  steps path ++ (if endsInSlash path then [""] else [])

/-- Whether a name has the ending `md`, behind a dot that is not its first character. -/
def isPageName (name : String) : Bool :=
  name.toList.reverse.take 3 == ['d', 'm', '.'] && 3 < name.length

/-- Characters in reverse without the slashes, and the steps that stay in place, at their end. -/
def trimSteps : List Char → List Char
  | '/' :: cs => trimSteps cs
  | '.' :: '/' :: cs => trimSteps ('/' :: cs)
  | cs => cs

/-- The path of the folder that a path is in, if the path has a last step. A path of one step is in
the folder with the empty path. -/
def folderOf? (path : String) : Option String :=
  match trimSteps path.toList.reverse with
  | [] => none
  | cs =>
    let above := cs.dropWhile (· ≠ '/')
    let trimmed := trimSteps above
    some (String.ofList (if trimmed.isEmpty && !above.isEmpty then ['/'] else trimmed.reverse))

end PagePrep.Path
