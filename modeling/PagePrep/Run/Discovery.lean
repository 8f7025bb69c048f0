import PagePrep.Failure
import PagePrep.Files.Walk

/-!
# Discovering pages

The pages of a folder are found through all folders below it, but not through links to folders. Each
folder is listed by its path, and discovery ends with the first that cannot be. The pages are listed
in the order of their paths, name by name.
-/

set_option autoImplicit false

namespace PagePrep

/-- Names that are passed over. -/
structure Exclusions where
  folders : List String
  files : List String
  deriving DecidableEq, Repr

namespace FileTree

variable (t : FileTree) (root : String) (skip : Exclusions)

/-- Whether what is at a location, `names` below the root, is a page. -/
def isPage (names : List String) (name : String) (entry : Entry) : Bool :=
  Path.isPageName name && !skip.files.contains name &&
    match entry with
    | .file _ => true
    | .link _ => !t.isFolder (Path.joinAll root (names ++ [name]))
    | .folder => false

/-- The pages in the folder at a location, `names` below the root, and in the folders below it. -/
def pagesBelow (at_ : Location) (names : List String) : Except Failure (List (List String)) :=
  match t.listingFault? (Path.joinAll root names) with
  | some f => .error (.file (Path.joinAll root names) f)
  | none => do
    let found ← (t.names at_).attach.mapM fun ⟨name, _h⟩ =>
      match t.get? (at_ ++ [name]) with
      | none => .ok []
      | some .folder =>
        if skip.folders.contains name then .ok []
        else pagesBelow (at_ ++ [name]) (names ++ [name])
      | some entry => .ok (if t.isPage root skip names name entry then [names ++ [name]] else [])
    return found.flatten
  termination_by t.depth - at_.length
  decreasing_by
    obtain ⟨e, he, hn⟩ := mem_names_of_mem.1 _h
    have := le_depth_of_mem he
    simp only [hn, List.length_append, List.length_cons, List.length_nil] at this
    simp only [List.length_append, List.length_cons, List.length_nil]
    omega

/-- Whether a name comes before another or is the same, by the codes of their characters. -/
def charsLe : List Char → List Char → Bool
  | [], _ => true
  | _ :: _, [] => false
  | a :: as, b :: bs => if a = b then charsLe as bs else a.toNat < b.toNat

/-- Whether a path comes before another or is the same, name by name. -/
def namesLe : List String → List String → Bool
  | [], _ => true
  | _ :: _, [] => false
  | a :: as, b :: bs => if a = b then namesLe as bs else charsLe a.toList b.toList

/-- The pages of the folder that the path `root` leads to. -/
def pages : Except Failure (List String) :=
  match t.locate root with
  | .ok (.taken at_ .folder) =>
    (t.pagesBelow root skip at_ []).map fun found =>
      (found.mergeSort namesLe).map (Path.joinAll root)
  | _ => .error (.config (.rootNotFolder root))

end FileTree

end PagePrep
