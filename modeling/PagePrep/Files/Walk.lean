import PagePrep.Files.Fault
import PagePrep.Files.Path
import PagePrep.Files.Tree

/-!
# Where paths lead

A path is walked step by step from the working folder or from the top. Links are followed wherever
they stand, but only so many of them.
-/

set_option autoImplicit false

namespace PagePrep

/-- Where a path leads. -/
inductive Place where
  /-- To something that is there; it is no link. -/
  | taken (at_ : Location) (entry : Entry)
  /-- To a name in a folder, with nothing of that name there. -/
  | free (folder : Location) (name : String)

/-- What a path is followed for. -/
inductive Purpose where
  /-- To get at what is there. -/
  | access
  /-- To write a file, which is made where there is none. -/
  | writing
  deriving DecidableEq, Repr

/-- How many links a path may lead over. -/
def linkLimit : Nat := 40

/-- How many bytes a name may have. -/
def nameLimit : Nat := 255

/-- How many bytes a path may have. -/
def pathLimit : Nat := 4095

namespace FileTree

/-- Where some steps lead from a folder, over at most `links` links. An empty step stays in place,
and as the last step it stands for a slash at the end: no file can be written there, whatever is in
front of the slash. -/
def walk (t : FileTree) (purpose : Purpose) (links : Nat) (at_ : Location) :
    List String → Except FileFault Place
  | [] => .ok (.taken at_ .folder)
  | "" :: rest => walk t purpose links at_ rest
  | "." :: rest => walk t purpose links at_ rest
  | ".." :: rest => walk t purpose links at_.dropLast rest
  | name :: rest =>
    if purpose = .writing && rest == [""] then .error .isFolder
    else if nameLimit < name.utf8ByteSize then .error .nameTooLong
    else
      match t.get? (at_ ++ [name]) with
      | none => if rest = [] then .ok (.free at_ name) else .error .notFound
      | some .folder => walk t purpose links (at_ ++ [name]) rest
      | some (.file content) =>
        if rest = [] then .ok (.taken (at_ ++ [name]) (.file content)) else .error .notFolder
      | some (.link target) =>
        match links with
        | 0 => .error .tooManyLinks
        | links + 1 =>
          let start := if Path.isAbsolute target then [] else at_
          walk t purpose links start (Path.walkSteps target ++ rest)
  termination_by steps => (links, steps.length)

/-- Where a path starts. -/
def start (t : FileTree) (path : String) : Location :=
  if Path.isAbsolute path then [] else t.working

/-- Why a path is refused before a step is taken, if it is. The empty path leads nowhere. -/
def refusal? (path : String) : Option FileFault :=
  if path.toList.contains '\x00' then some .badPath
  else if pathLimit < path.utf8ByteSize then some .nameTooLong
  else if path.isEmpty then some .notFound
  else none

/-- Where a path leads. -/
def locate (t : FileTree) (path : String) (purpose : Purpose := .access) :
    Except FileFault Place :=
  match refusal? path with
  | some f => .error f
  | none => t.walk purpose linkLimit (t.start path) (Path.walkSteps path)

/-- Whether a path leads to anything. -/
def isThere (t : FileTree) (path : String) : Bool :=
  match t.locate path with
  | .ok (.taken _ _) => true
  | _ => false

/-- Whether a path leads to a folder. -/
def isFolder (t : FileTree) (path : String) : Bool :=
  match t.locate path with
  | .ok (.taken _ .folder) => true
  | _ => false

/-- Why what a path leads to cannot be listed, if it cannot. Only folders are listed. -/
def listingFault? (t : FileTree) (path : String) : Option FileFault :=
  match t.locate path with
  | .error f => some f
  | .ok (.taken _ .folder) => none
  | .ok (.taken _ _) => some .notFolder
  | .ok (.free _ _) => some .notFound

/-- Whether a path leads to a file. -/
def isFile (t : FileTree) (path : String) : Bool :=
  match t.locate path with
  | .ok (.taken _ (.file _)) => true
  | _ => false

end FileTree

end PagePrep
