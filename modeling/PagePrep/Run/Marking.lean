import PagePrep.Config.Basic
import PagePrep.Page.Diagnostic
import PagePrep.Run.Discovery
import PagePrep.Run.Session

/-!
# Marking pages

Every page below a folder gets its contexts marked, or is only looked at. Then the pages are
audited.
-/

set_option autoImplicit false

namespace PagePrep

/-- What is marked, and whether pages are written. -/
structure MarkingOptions where
  root : String
  skip : Exclusions
  /-- Pages are only looked at. -/
  check : Bool
  deriving DecidableEq, Repr

/-- The options that some settings give. -/
def MarkerSettings.options (s : MarkerSettings) (check : Bool) : MarkingOptions :=
  ⟨s.docsRoot, ⟨s.excludeDirs, s.excludeFiles⟩, check⟩

/-- What marking came to. -/
structure MarkingReport where
  /-- The marked pages. -/
  processed : List ProcessedPage
  /-- The pages that ask to be left alone. -/
  skipped : List String
  diagnostics : List Diagnostic
  check : Bool
  deriving DecidableEq, Repr

namespace MarkingReport

/-- The pages that marking altered, or would alter. -/
def changed (r : MarkingReport) : List String :=
  (r.processed.filter ProcessedPage.changed).map ProcessedPage.path

/-- How many contexts the pages have. -/
def contextCount (r : MarkingReport) : Nat :=
  total (r.processed.map fun p => p.document.contexts.length)

end MarkingReport

/-- What became of a page. -/
inductive PageFate where
  | skipped (path : String)
  | processed (page : ProcessedPage)
  deriving DecidableEq, Repr

namespace PageFate

/-- The page that was processed. -/
def processed? : PageFate → Option ProcessedPage
  | processed p => some p
  | skipped _ => none

/-- The page that was skipped. -/
def skipped? : PageFate → Option String
  | processed _ => none
  | skipped path => some path

end PageFate

/-- Marks the page at a path. -/
def markPage (check : Bool) (path : String) : Action PageFate := do
  let input ← Action.readText path
  match segment path input with
  | .skipped => return .skipped path
  | .rewritten document =>
    let changed := document.text != input
    if changed && !check then Action.writeText path document.text
    return .processed ⟨path, changed, document⟩

/-- Marks some pages of `total`, the first of which has the given number. -/
def markFrom (check : Bool) (total number : Nat) : List String → Action (List PageFate)
  | [] => return []
  | path :: rest => do
    let fate ← markPage check path
    Action.note (.page path number total)
    let fates ← markFrom check total (number + 1) rest
    return fate :: fates

/-- The report on some pages. -/
def MarkingReport.ofFates (check : Bool) (fates : List PageFate) : MarkingReport :=
  let processed := fates.filterMap PageFate.processed?
  { processed := processed
    skipped := fates.filterMap PageFate.skipped?
    diagnostics := Diagnostic.audit processed
    check := check }

/-- Marks every page of a folder. -/
def mark (o : MarkingOptions) : Action MarkingReport := do
  Action.note (.phase .discovering)
  match (← Action.files).pages o.root o.skip with
  | .error f => Action.fail f
  | .ok paths =>
    Action.note (.phase (if o.check then .checking else .marking))
    let fates ← markFrom o.check paths.length 1 paths
    let report := MarkingReport.ofFates o.check fates
    Action.note (.finished report.diagnostics.length)
    return report

end PagePrep
