import PagePrep.Run.Build

/-!
# Summaries

What the program prints about a run that came to its end.
-/

set_option autoImplicit false

namespace PagePrep

open Text

/-- The report on marked pages in words; `time` says how long it took. -/
def MarkingReport.summary (r : MarkingReport) (time : String) : String :=
  unlines
    (["", if r.check then "  Context markers checked." else "  Context markers added."] ++
      (if r.check then r.changed.map fun p => "  would change: " ++ p else []) ++
      ["  Pages:     " ++ toString r.processed.length,
        "  Changed:   " ++ toString r.changed.length,
        "  Skipped:   " ++ toString r.skipped.length,
        "  Contexts:  " ++ toString r.contextCount,
        "  Warnings:  " ++ toString r.diagnostics.length,
        "  Time:      " ++ time,
        ""])

/-- The pages altered by rendering, of so many, in words. -/
def renderSummary (rewritten : List String) (total : Nat) : String :=
  unlines
    (["", "  Rendered " ++ toString rewritten.length ++ " of " ++ toString total ++ " page(s)"] ++
      (rewritten.map fun p => "    " ++ p) ++ [""])

/-- The report on a build in words; `time` says how long it took. -/
def BuildReport.summary (r : BuildReport) (time : String) : String :=
  unlines ["", "  Includes:  " ++ toString r.fragments.length ++ " page(s) rendered",
    "  Notebooks: " ++ toString r.notebooks.length ++ " page(s) rendered"] ++
  r.marking.summary time

end PagePrep
