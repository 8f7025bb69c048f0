import PagePrep.CommandLine.Program

/-!
# The command line

The files that a call may touch are read, the call is made on them, and the files that it changed
are written back.
-/

set_option autoImplicit false

namespace PagePrep.CommandLine

/-- The folder of pages that a command names. -/
def Command.root? : Command → Option String
  | markers root _ => root
  | render _ _ root => root
  | build root => root
  | configInit => none
  | configShow => none

/-- The pages that a command names. -/
def Command.pages : Command → List String
  | render _ pages _ => pages
  | _ => []

/-- What is at an absolute path. -/
def onDisk (path : String) : IO.FS.DirEntry := ⟨"/", path⟩

/-- The absolute path of a location. -/
def absolutePath (at_ : Location) : String := "/" ++ "/".intercalate at_

/-- The tree with an entry at an absolute path and folders above it. -/
def putAt (t : FileTree) (path : String) (e : Entry) : FileTree :=
  let steps := Path.steps path
  match t.makeFolders [] steps.dropLast with
  | .ok t => t.put steps e
  | .error _ => t

/-- The tree with what is at an absolute path on disk. Below a link to a folder, only the folder
that starts the search is read. -/
partial def load (t : FileTree) (path : String) (first : Bool) : IO FileTree := do
  let p := (onDisk path).path
  match ← p.symlinkMetadata.toBaseIO with
  | .error _ => return t
  | .ok m =>
    match m.type with
    | .file => return putAt t path (.file (← IO.FS.readBinFile p))
    | .dir =>
      let mut found := putAt t path .folder
      for e in ← p.readDir do
        found ← load found (Path.join path e.fileName) false
      return found
    | .symlink =>
      if !(← p.pathExists) then return putAt t path (.link (path ++ ".gone"))
      else
        let real := toString (← IO.FS.realPath p)
        let linked := putAt t path (.link real)
        if !first && (← (onDisk real).path.isDir) then return putAt linked real .folder
        else load linked real first
    | .other => return t

/-- The tree with what is at each of some paths on disk. -/
def loadAll (t : FileTree) (paths : List String) : IO FileTree :=
  paths.foldlM (fun t path => load t (Path.join (absolutePath t.working) path) true) t

/-- Whether a file with some bytes is at a location. -/
def holds (t : FileTree) (at_ : Location) (content : ByteArray) : Bool :=
  match t.get? at_ with
  | some (.file held) => held.data == content.data
  | _ => false

/-- Writes what differs from an earlier tree. -/
def save (before after : FileTree) : IO Unit := do
  for (at_, e) in after.entries do
    match e with
    | .file content =>
      unless holds before at_ content do
        IO.FS.createDirAll (absolutePath at_.dropLast)
        IO.FS.writeBinFile (absolutePath at_) content
    | _ => continue

/-- The files that a command may touch. -/
def loadFor (working : Location) (home : String) (config : Option String) (command : Command) :
    IO FileTree := do
  let settings ← loadAll (.empty working)
    [config.getD Config.fileName, Config.fileName, Config.userPath home]
  let found := ((Config.load home config).run.run ⟨settings, []⟩).1
  let c := withRoot command.root? (found.toOption.getD {})
  let pages := command.pages ++ c.render.includePages ++ c.render.notebookPages
  loadAll settings (c.markers.docsRoot :: pages.map (Path.join c.markers.docsRoot))

/-- Milliseconds as seconds with one place. -/
def secondsText (ms : Nat) : String :=
  let tenths := (ms + 50) / 100
  toString (tenths / 10) ++ "." ++ toString (tenths % 10) ++ "s"

end PagePrep.CommandLine

open PagePrep PagePrep.CommandLine in
/-- Calls the program on the files on disk. -/
def main (args : List String) : IO UInt32 := do
  let working := Path.steps (toString (← IO.currentDir))
  let home := (← IO.getEnv "HOME").getD "/"
  let begun ← IO.monoMsNow
  let files ← match Request.ofArguments args with
    | .run config command => loadFor working home config command
    | _ => pure (.empty working)
  let (outcome, session) := call ⟨.down, home⟩ args ⟨files, []⟩
  save files session.files
  IO.print (outcome.printed (secondsText ((← IO.monoMsNow) - begun)))
  if let some message := outcome.message then IO.eprintln ("Error: \n   0: " ++ message)
  return UInt32.ofNat outcome.exit
