/-!
# Configuration

What is marked, what is rendered and where, with the settings that hold when nothing else is said.
-/

set_option autoImplicit false

namespace PagePrep

/-- How pages are marked. -/
structure MarkerSettings where
  /-- The folder with the pages. -/
  docsRoot : String := "docs"
  /-- Folders of these names are passed over. -/
  excludeDirs : List String := ["node_modules"]
  /-- Pages of these names are passed over. -/
  excludeFiles : List String := ["README.md", "utils.md", "pull_request_template.md"]
  deriving DecidableEq, Repr

/-- How pages are rendered. -/
structure RenderSettings where
  /-- The root of the site. Links below it are made relative to it. -/
  docsUrlRoot : String := "https://docs.multiversx.com"
  /-- The pages that show fragments, from the folder with the pages. -/
  includePages : List String := ["sdk-and-tools/sdk-js/sdk-js-cookbook.md"]
  /-- The pages that show notebooks, from the folder with the pages. -/
  notebookPages : List String := ["sdk-and-tools/sdk-py/sdk-py-cookbook.md"]
  /-- How many seconds a fetch may take. -/
  timeoutSecs : Nat := 30
  deriving DecidableEq, Repr

/-- The whole configuration. -/
structure Config where
  markers : MarkerSettings := {}
  render : RenderSettings := {}
  deriving DecidableEq, Repr

end PagePrep
