import PagePrep.Text.Lines
import PagePrep.Text.Blank

/-!
# Runs of blank lines

A run of blank lines shrinks to its last line, and blank lines at the end of a page go. A map
tells where each line went, so that line numbers found before can be restated.
-/

set_option autoImplicit false

namespace PagePrep

open Text

/-- Whether the first of the lines is there and blank. -/
def startsBlank : List String → Bool
  | [] => false
  | l :: _ => isBlank l

/-- Lines without any blank line that another blank line follows. -/
def collapseBlank : List String → List String
  | [] => []
  | l :: ls => if isBlank l && startsBlank ls then collapseBlank ls else l :: collapseBlank ls

/-- Where each line goes in `collapseBlank`, when `next` lines were kept before. -/
def collapseMap (next : Nat) : List String → List (Option Nat)
  | [] => []
  | l :: ls =>
    if isBlank l && startsBlank ls then none :: collapseMap next ls
    else some next :: collapseMap (next + 1) ls

/-- The lines left and the place of each line among them. -/
structure Collapsed where
  lines : List String
  indexMap : List (Option Nat)
  deriving DecidableEq, Repr

/-- Runs of blank lines shrunk, with the place of each line. -/
def Collapsed.ofLines (ls : List String) : Collapsed := ⟨collapseBlank ls, collapseMap 0 ls⟩

/-- The new place of line `i`, or `i` itself if the line has no place. -/
def Collapsed.place (c : Collapsed) (i : Nat) : Nat :=
  match c.indexMap[i]? with
  | some (some j) => j
  | _ => i

/-- Lines up to the last that is not blank. -/
def dropBlankEnd (ls : List String) : List String := (ls.reverse.dropWhile isBlank).reverse

/-- The text of the lines up to the last that is not blank, each ended by a newline. -/
def finishText (ls : List String) : String := unlines (dropBlankEnd ls)

theorem length_collapseMap (next : Nat) (ls : List String) :
    (collapseMap next ls).length = ls.length := by
  induction ls generalizing next with
  | nil => rfl
  | cons l ls ih => unfold collapseMap; split <;> simp [ih]

end PagePrep
