import PagePrep.Notebook.Rendering
import PagePrep.Region.Address

/-!
# Filling regions

The lines inside each region are replaced by fresh ones. Lines outside and the lines that open and
close a region stay, and regions neither overlap nor stay open.
-/

set_option autoImplicit false

namespace PagePrep

open Text

namespace RegionKind

variable {ε : Type}

/-- The lines from line `number` on, with the regions filled by `fill`. The region opened on line
`opened` is still open. Faults of the page are told as `refuse` says. -/
def fillFrom (kind : RegionKind) (refuse : RegionFault → ε)
    (fill : Url → Except ε (List String)) (opened : Option Nat) (number : Nat) :
    List String → Except ε (List String)
  | [] =>
    match opened with
    | some earlier => .error (refuse (.unclosed kind earlier))
    | none => .ok []
  | line :: rest =>
    if kind.opens line then
      match opened with
      | some earlier => .error (refuse (.nested kind number earlier))
      | none => do
        let url ← (addressOfLine line).mapError refuse
        let body ← fill url
        let below ← fillFrom kind refuse fill (some number) (number + 1) rest
        return line :: (body ++ below)
    else if kind.closes line then
      match opened with
      | some _ => return line :: (← fillFrom kind refuse fill none (number + 1) rest)
      | none => .error (refuse (.strayEnd kind number))
    else
      match opened with
      | some _ => fillFrom kind refuse fill opened (number + 1) rest
      | none => return line :: (← fillFrom kind refuse fill none (number + 1) rest)

/-- The page text with the regions filled by `fill`. -/
def fillRegions (kind : RegionKind) (refuse : RegionFault → ε)
    (fill : Url → Except ε (List String)) (text : String) : Except ε String :=
  (fillFrom kind refuse fill none 1 (lines text)).map unlines

end RegionKind

/-- Content by address. Of two entries for one address the later holds. -/
abbrev Fetched (α : Type) := List (Url × α)

namespace Fetched

variable {α : Type}

/-- The content for an address. -/
def get? (fetched : Fetched α) (url : Url) : Option α :=
  (fetched.reverse.find? fun e => e.1 == url).map Prod.snd

/-- The lines that `render` makes of the content for an address. -/
def fill (fetched : Fetched α) (kind : RegionKind) (render : α → List String) (url : Url) :
    Except RegionFault (List String) :=
  match fetched.get? url with
  | some content => .ok (render content)
  | none => .error (.notFetched kind url)

end Fetched

/-- The lines that show a page fragment: its own and an empty one. -/
def fragmentLines (body : String) : List String := lines body ++ [""]

/-- The page with fragments in their regions. -/
def fillFragments (fetched : Fetched String) (text : String) : Except RegionFault String :=
  RegionKind.fragment.fillRegions id (fetched.fill .fragment fragmentLines) text

/-- The page with notebooks in their regions, for a site with the given root. -/
def fillNotebooks (root : String) (fetched : Fetched Notebook) (text : String) :
    Except RegionFault String :=
  RegionKind.notebook.fillRegions id (fetched.fill .notebook (Notebook.pageLines root)) text

end PagePrep
