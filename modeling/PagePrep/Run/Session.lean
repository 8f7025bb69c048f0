import PagePrep.Failure
import PagePrep.Files.Access
import PagePrep.Site.Fetch

/-!
# Sessions

A run changes files and leaves a log of what it did. When it fails, what it did before stays.
-/

set_option autoImplicit false

namespace PagePrep

/-- A part of a run. -/
inductive Phase where
  | discovering
  | marking
  | checking
  | rendering (kind : RegionKind)
  deriving DecidableEq, Repr

/-- The name of a part of a run. -/
def Phase.name : Phase → String
  | discovering => "Discovering pages"
  | marking => "Adding context markers"
  | checking => "Checking context markers"
  | rendering .fragment => "Rendering includes"
  | rendering .notebook => "Rendering notebooks"

/-- A step of a run. -/
inductive Event where
  /-- A part begins. -/
  | phase (phase : Phase)
  /-- A page is done with; it is the one of this number of so many. -/
  | page (path : String) (number total : Nat)
  /-- All pages are marked, with so many warnings. -/
  | finished (warnings : Nat)
  /-- An address is asked for. -/
  | request (url : String)
  deriving DecidableEq, Repr

/-- The files and what has been done, in order. -/
structure Session where
  files : FileTree
  log : List Event

/-- A part of a run. -/
abbrev Action := ExceptT Failure (StateM Session)

namespace Action

/-- Ends the run. -/
def fail {α : Type} (f : Failure) : Action α := throw f

/-- Notes a step. -/
def note (e : Event) : Action Unit := modify fun s => { s with log := s.log ++ [e] }

/-- The files as they are. -/
def files : Action FileTree := return (← get).files

/-- The text of the file that a path leads to. -/
def readText (path : String) : Action String := do
  match (← files).readText path with
  | .ok text => return text
  | .error f => fail (.file path f)

/-- Puts a text into the file that a path leads to. -/
def writeText (path text : String) : Action Unit := do
  match (← files).writeText path text with
  | .ok t => modify fun s => { s with files := t }
  | .error f => fail (.file path f)

/-- The text at an address. -/
def fetch (network : Network) (url : Url) : Action String := do
  let f := network.fetch url
  f.requests.forM fun r => note (.request r)
  match f.result with
  | .ok text => return text
  | .error e => fail (.fetch url e)

end Action

end PagePrep
