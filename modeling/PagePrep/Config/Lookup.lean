import PagePrep.Config.Document
import PagePrep.Run.Session

/-!
# Finding and making configurations

A configuration is read from a path that is given, else from the working folder, else from the
user's own folder. Without any, the usual settings hold.
-/

set_option autoImplicit false

namespace PagePrep.Config

/-- The name of a file with a configuration. -/
def fileName : String := "mxdocs.toml"

/-- The configuration of the user whose folder is `home`. -/
def userPath (home : String) : String :=
  Path.join (Path.join home ".mxdocs") fileName

/-- The path that a configuration is to be read from, if there is one. -/
def path? (t : FileTree) (home : String) (given : Option String) : Option String :=
  match given with
  | some path => some path
  | none =>
    if t.isFile fileName then some fileName
    else if t.isFile (userPath home) then some (userPath home)
    else none

/-- The configuration in the file at a path. -/
def loadFrom (path : String) : Action Config := do
  let text ← Action.readText path
  match ofText? text with
  | some c => return c
  | none => Action.fail (.config (.unreadable path))

/-- The configuration that holds. -/
def load (home : String) (given : Option String) : Action Config := do
  match path? (← Action.files) home given with
  | some path => loadFrom path
  | none => return {}

/-- Makes the folder that a path is in, and all above it. -/
def makeFolderOf (path : String) : Action Unit := do
  match Path.folderOf? path with
  | none => return
  | some folder =>
    if folder.isEmpty then return
    else
      let t ← Action.files
      match t.makeFolders (t.start folder) ((Path.steps folder).filter (· != ".")) with
      | .ok t => modify fun s => { s with files := t }
      | .error f => Action.fail (.file folder f)

/-- Writes the usual configuration to a path where there is nothing yet. -/
def init (path : String) : Action Unit := do
  if (← Action.files).isThere path then Action.fail (.config (.alreadyThere path))
  else
    makeFolderOf path
    match ({} : Config).text? with
    | some text => Action.writeText path text
    | none => Action.fail (.config .outOfRange)

end PagePrep.Config
