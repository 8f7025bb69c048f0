import PagePrep.Run.Marking
import PagePrep.Run.Rendering

/-!
# Building the documentation

Fragments are rendered, then notebooks, then pages are marked. Nothing is fetched once pages are
being marked.
-/

set_option autoImplicit false

namespace PagePrep

/-- What a build came to. -/
structure BuildReport where
  /-- The pages altered by fragments. -/
  fragments : List String
  /-- The pages altered by notebooks. -/
  notebooks : List String
  marking : MarkingReport
  deriving DecidableEq, Repr

/-- Builds the documentation. -/
def build (network : Network) (c : Config) : Action BuildReport := do
  let fragments ← render network (c.renderOptions .fragment)
  let notebooks ← render network (c.renderOptions .notebook)
  let marking ← mark (c.markers.options false)
  return ⟨fragments, notebooks, marking⟩

end PagePrep
