import PagePrep.Files.Walk

/-!
# Reading and writing files

Content is read and written through links. Writing needs the folder to be there, and makes the file
where there is none.
-/

set_option autoImplicit false

namespace PagePrep.FileTree

/-- The bytes of the file that a path leads to. -/
def readBytes (t : FileTree) (path : String) : Except FileFault ByteArray :=
  match t.locate path with
  | .error f => .error f
  | .ok (.taken _ (.file content)) => .ok content
  | .ok (.taken _ _) => .error .isFolder
  | .ok (.free _ _) => .error .notFound

/-- The text of the file that a path leads to. -/
def readText (t : FileTree) (path : String) : Except FileFault String :=
  match t.readBytes path with
  | .error f => .error f
  | .ok content =>
    match String.fromUTF8? content with
    | some s => .ok s
    | none => .error .notText

/-- The tree with `content` in the file that a path leads to. -/
def writeBytes (t : FileTree) (path : String) (content : ByteArray) :
    Except FileFault FileTree :=
  match t.locate path .writing with
  | .error f => .error f
  | .ok (.taken at_ (.file _)) => .ok (t.put at_ (.file content))
  | .ok (.taken _ _) => .error .isFolder
  | .ok (.free folder name) => .ok (t.put (folder ++ [name]) (.file content))

/-- The tree with a text in the file that a path leads to. -/
def writeText (t : FileTree) (path s : String) : Except FileFault FileTree :=
  t.writeBytes path s.toUTF8

/-- The tree with one more folder, which `steps` lead to from `start`. -/
def makeFolder (t : FileTree) (start : Location) (steps : List String) :
    Except FileFault FileTree :=
  match steps.getLast? with
  | none => .error .alreadyThere
  | some name =>
    match t.walk .access linkLimit start steps.dropLast with
    | .error f => .error f
    | .ok (.free _ _) => .error .notFound
    | .ok (.taken at_ .folder) =>
      if name = "." || name = ".." then .error .alreadyThere
      else if nameLimit < name.utf8ByteSize then .error .nameTooLong
      else
        match t.get? (at_ ++ [name]) with
        | some _ => .error .alreadyThere
        | none => .ok (t.put (at_ ++ [name]) .folder)
    | .ok (.taken _ _) => .error .notFolder

/-- Whether some steps lead from `start` to a folder. -/
def leadsToFolder (t : FileTree) (start : Location) (steps : List String) : Bool :=
  match t.walk .access linkLimit start steps with
  | .ok (.taken _ .folder) => true
  | _ => false

/-- The tree with every folder that `steps` lead over from `start`; a folder that is there
stays. -/
def makeFolders (t : FileTree) (start : Location) (steps : List String) :
    Except FileFault FileTree :=
  if t.leadsToFolder start steps then .ok t
  else
    match t.makeFolder start steps with
    | .ok t' => .ok t'
    | .error .notFound =>
      if _h : steps = [] then .error .notFound
      else
        match t.makeFolders start steps.dropLast with
        | .error f => .error f
        | .ok t' =>
          match t'.makeFolder start steps with
          | .ok t'' => .ok t''
          | .error f => if t'.leadsToFolder start steps then .ok t' else .error f
    | .error f => .error f
  termination_by steps.length
  decreasing_by
    have := List.length_pos_iff.2 _h
    simp only [List.length_dropLast]
    omega

end PagePrep.FileTree
