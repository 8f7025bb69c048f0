import PagePrep.Config.Basic
import PagePrep.Notebook.Reader
import PagePrep.Region.Filling
import PagePrep.Run.Session

/-!
# Rendering pages

The content for all regions of a page is fetched before the page is filled, each address once.
-/

set_option autoImplicit false

namespace PagePrep

/-- What is rendered into which pages. -/
structure RenderOptions where
  kind : RegionKind
  /-- The folder that the pages are in. -/
  root : String
  /-- The pages as seen from there. -/
  pages : List String
  /-- The root of the site. -/
  siteRoot : String
  deriving DecidableEq, Repr

/-- The options for regions of a kind that a configuration gives. -/
def Config.renderOptions (c : Config) (kind : RegionKind) : RenderOptions :=
  { kind := kind
    root := c.markers.docsRoot
    pages := match kind with
      | .fragment => c.render.includePages
      | .notebook => c.render.notebookPages
    siteRoot := c.render.docsUrlRoot }

/-- The notebook at an address. -/
def fetchNotebook (network : Network) (url : Url) : Action Notebook := do
  let text ← Action.fetch network url
  match Notebook.ofJson text with
  | .ok n => return n
  | .error f => Action.fail (.notebook (some url) text f)

/-- The content for some addresses, beside what is there already. Each is fetched once. -/
def fetchAll {α : Type} (fetch : Url → Action α) (held : Fetched α) :
    List Url → Action (Fetched α)
  | [] => return held
  | url :: rest =>
    match held.get? url with
    | some _ => fetchAll fetch held rest
    | none => do
      let content ← fetch url
      fetchAll fetch (held ++ [(url, content)]) rest

/-- A result, or the end of the run. -/
def orFail {α : Type} : Except RegionFault α → Action α
  | .ok a => return a
  | .error f => Action.fail (.region f)

/-- The text of a page with its regions filled. -/
def renderText (network : Network) (kind : RegionKind) (siteRoot text : String) :
    Action String := do
  let urls ← orFail (kind.addresses text)
  match kind with
  | .fragment =>
    let fetched ← fetchAll (Action.fetch network) [] urls
    orFail (fillFragments fetched text)
  | .notebook =>
    let fetched ← fetchAll (fetchNotebook network) [] urls
    orFail (fillNotebooks siteRoot fetched text)

/-- Renders the page at a path, and says whether that altered it. -/
def renderPage (network : Network) (kind : RegionKind) (siteRoot path : String) :
    Action Bool := do
  let input ← Action.readText path
  let output ← renderText network kind siteRoot input
  let changed := output != input
  if changed then Action.writeText path output
  return changed

/-- Renders some pages of `total`, the first of which has the given number, and lists those that
were altered. -/
def renderFrom (network : Network) (kind : RegionKind) (siteRoot : String)
    (total number : Nat) : List String → Action (List String)
  | [] => return []
  | path :: rest => do
    let changed ← renderPage network kind siteRoot path
    Action.note (.page path number total)
    let below ← renderFrom network kind siteRoot total (number + 1) rest
    return if changed then path :: below else below

/-- Renders pages, and lists those that were altered. -/
def render (network : Network) (o : RenderOptions) : Action (List String) := do
  Action.note (.phase (.rendering o.kind))
  renderFrom network o.kind o.siteRoot o.pages.length 1 (o.pages.map (Path.join o.root))

end PagePrep
