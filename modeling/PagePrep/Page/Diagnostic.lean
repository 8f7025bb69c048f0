import PagePrep.Page.Segmentation

/-!
# Diagnostics

Advice on the pages of a run: contexts with little to read, then pages without an abstract.
-/

set_option autoImplicit false

namespace PagePrep

/-- A page with its marked text. -/
structure ProcessedPage where
  path : String
  /-- Whether marking altered the text. -/
  changed : Bool
  document : Document
  deriving DecidableEq, Repr

/-- A warning on a page. -/
inductive Diagnostic where
  | weakContent (file : String) (lineIndex score : Nat)
  | missingAbstract (file : String)
  deriving DecidableEq, Repr

namespace Diagnostic

/-- The warning in words. -/
def message : Diagnostic → String
  | weakContent file lineIndex score =>
    "context with weak content: " ++ toString score ++ " on " ++ file ++ ":" ++ toString lineIndex
  | missingAbstract file => "no abstract marker in " ++ file

/-- The warnings on the weak contexts of a page. -/
def ofContexts (cs : List Context) : List Diagnostic :=
  (cs.filter Context.isWeak).map fun c => weakContent c.file c.lineIndex c.score

/-- The warnings on some pages: weak contexts first, then missing abstracts, in page order. -/
def audit (pages : List ProcessedPage) : List Diagnostic :=
  pages.flatMap (fun p => ofContexts p.document.contexts) ++
    (pages.filter fun p => !p.document.hasAbstract).map fun p => missingAbstract p.path

end Diagnostic

end PagePrep
