import PagePrep.Proofs.Run.Discovery
import PagePrep.Proofs.Run.MarkedTree

/-!
# Warnings tell of the files

The warnings of a run are collected while pages are marked, and a page may be marked again after its
turn. Still they are those that a reader of the files comes to once the run is over.
-/

set_option autoImplicit false

namespace PagePrep

open Text

/-! ## Reports on the turns of pages -/

section Courses

variable (check check' : Bool) (courses : List PageCourse)

theorem filter_isExcluded_pageAtTurn :
    (courses.map PageCourse.pageAtTurn).filter (fun p => !isExcluded p.2) =
      (courses.filter fun c => !isExcluded c.before).map PageCourse.pageAtTurn := by
  simp only [List.filter_map, Function.comp_def, PageCourse.pageAtTurn, PageCourse.isExcluded_turn]

/-- The pages that are skipped on their turns are those skipped to begin with. -/
theorem skipped_ofTexts_pageAtTurn :
    (MarkingReport.ofTexts check (courses.map PageCourse.pageAtTurn)).skipped =
      (MarkingReport.ofTexts check' (courses.map PageCourse.pageBefore)).skipped := by
  simp only [MarkingReport.skipped_ofTexts, List.filter_map, List.map_map, Function.comp_def,
    PageCourse.pageAtTurn, PageCourse.pageBefore, PageCourse.isExcluded_turn]

/-- What is reported on the turns of pages is what would have been reported to begin with. -/
theorem map_findings_ofTexts_pageAtTurn :
    (MarkingReport.ofTexts check (courses.map PageCourse.pageAtTurn)).processed.map
        ProcessedPage.findings =
      (MarkingReport.ofTexts check' (courses.map PageCourse.pageBefore)).processed.map
        ProcessedPage.findings := by
  rw [MarkingReport.map_findings_ofTexts, MarkingReport.map_findings_ofTexts,
    filter_isExcluded_pageAtTurn, List.filter_map, List.map_map, List.map_map]
  exact List.map_congr_left fun c _ => c.findings_markedText_turn

/-- A reader finds it in the pages after the run. -/
theorem map_findings_ofTexts_pageBefore :
    (MarkingReport.ofTexts check (courses.map PageCourse.pageBefore)).processed.map
        ProcessedPage.findings =
      ((courses.filter fun c => !isExcluded c.before).map PageCourse.pageAfter).map
        fun p => .ofText p.1 p.2 := by
  rw [MarkingReport.map_findings_ofTexts, List.filter_map, List.map_map, List.map_map]
  exact List.map_congr_left fun c _ => c.findings_after.symm

theorem map_path_ofTexts_pageAtTurn :
    (MarkingReport.ofTexts check (courses.map PageCourse.pageAtTurn)).processed.map
        ProcessedPage.path =
      (courses.filter fun c => !isExcluded c.before).map PageCourse.path := by
  rw [MarkingReport.map_path_ofTexts, filter_isExcluded_pageAtTurn, List.map_map]
  rfl

theorem diagnostics_ofTexts_pageAtTurn :
    (MarkingReport.ofTexts check (courses.map PageCourse.pageAtTurn)).diagnostics =
      (MarkingReport.ofTexts check' (courses.map PageCourse.pageBefore)).diagnostics := by
  rw [MarkingReport.diagnostics_ofTexts, MarkingReport.diagnostics_ofTexts,
    map_findings_ofTexts_pageAtTurn check check']

end Courses

variable {o : MarkingOptions} {s s' : Session} {r : MarkingReport}

/-- **Warnings tell of the files.** After a run that writes, each processed page can be read, and a
reader of these texts comes to the warnings of the run and counts as many separators as the run counts
contexts. -/
theorem diagnostics_of_files (hc : o.check = false) (h : (mark o).runOn s = (.ok r, s')) :
    ∃ pages, s'.files.readPages (r.processed.map ProcessedPage.path) = .ok pages ∧
      r.diagnostics = Diagnostic.ofFindings (pages.map fun p => .ofText p.1 p.2) ∧
      r.contextCount = total (pages.map fun p => (separatorPlaces p.2).length) := by
  cases ht : s.files.pageTexts o.root o.skip with
  | error f =>
    have he := runOn_mark_writing_error hc ht
    rw [h] at he
    cases he
  | ok before =>
    obtain ⟨courses, s₁, hr, -, -, ha⟩ := runOn_mark_writing_ok hc ht
    obtain ⟨hr, rfl⟩ := Prod.mk.inj (hr.symm.trans h)
    obtain rfl := Except.ok.inj hr
    let kept := courses.filter fun c => !isExcluded c.before
    have hf : (MarkingReport.ofTexts false (courses.map PageCourse.pageAtTurn)).processed.map
        ProcessedPage.findings = (kept.map PageCourse.pageAfter).map fun p => .ofText p.1 p.2 := by
      rw [map_findings_ofTexts_pageAtTurn false false, map_findings_ofTexts_pageBefore]
    refine ⟨kept.map PageCourse.pageAfter, ?_, ?_, ?_⟩
    · rw [map_path_ofTexts_pageAtTurn]
      exact PageCourse.readPages_after fun c hc => ha c (List.mem_of_mem_filter hc)
    · rw [MarkingReport.diagnostics_ofTexts, hf]
    · rw [MarkingReport.contextCount_eq, hf]
      simp [Findings.ofText, sections, separatorPlaces, Function.comp_def]

/-! ## A tree with one page -/

namespace FileTree

/-- A folder with one page, which has this text. -/
def onePage (text : String) : FileTree :=
  { entries := [(["work"], .folder), (["work", "docs"], .folder),
      (["work", "docs", "a.md"], .file text.toUTF8)]
    working := ["work"] }

variable (text : String)

theorem locate_onePage_root : (onePage text).locate "docs" = .ok (.taken ["work", "docs"] .folder) := by
  have hr : refusal? "docs" = none := by decide
  have hw : Path.walkSteps "docs" = ["docs"] := by decide
  have hs : (onePage text).start "docs" = ["work"] := rfl
  have hn : ¬ nameLimit < "docs".utf8ByteSize := by decide
  rw [locate, hr, hs, hw]
  simp [walk, hn, onePage, get?]

theorem locate_onePage :
    (onePage text).locate "docs/a.md" =
      .ok (.taken ["work", "docs", "a.md"] (.file text.toUTF8)) := by
  have hr : refusal? "docs/a.md" = none := by decide
  have hw : Path.walkSteps "docs/a.md" = ["docs", "a.md"] := by decide
  have hs : (onePage text).start "docs/a.md" = ["work"] := rfl
  have hn : ¬ nameLimit < "docs".utf8ByteSize := by decide
  have hn' : ¬ nameLimit < "a.md".utf8ByteSize := by decide
  rw [locate, hr, hs, hw]
  simp [walk, hn, hn', onePage, get?]

theorem readText_onePage : (onePage text).readText "docs/a.md" = .ok text :=
  readText_eq_ok_iff.2 (readBytes_eq_ok_iff.2 ⟨_, locate_onePage text⟩)

theorem pages_onePage : (onePage text).pages "docs" ⟨[], []⟩ = .ok ["docs/a.md"] := by
  have hl := locate_onePage_root text
  have hf : (onePage text).listingFault? (Path.joinAll "docs" []) = none := by
    rw [listingFault?, show Path.joinAll "docs" [] = "docs" from rfl, hl]
  have hn : (onePage text).names ["work", "docs"] = ["a.md"] := by
    simp [names, onePage, List.eraseDups_cons]
  have ha : (onePage text).pagesAt "docs" ⟨[], []⟩ ["work", "docs"] [] "a.md" = .ok [["a.md"]] := by
    have hi : Path.isPageName "a.md" = true := by decide
    rw [pagesAt_of_entry (e := .file text.toUTF8) rfl Entry.noConfusion]
    simp [isPage, hi]
  have hb : (onePage text).pagesBelow "docs" ⟨[], []⟩ ["work", "docs"] [] = .ok [["a.md"]] := by
    rw [pagesBelow_of_listed hf, hn, List.mapM_cons, ha]
    rfl
  rw [pages_of_locate _ hl, hb]
  simp only [Except.map, List.mergeSort_singleton]
  decide

end FileTree

open FileTree

/-- The one page is marked, and is the one page still. -/
theorem runOn_mark_onePage (text : String) :
    ∃ s', (mark ⟨"docs", ⟨[], []⟩, false⟩).runOn ⟨onePage text, []⟩ =
        (.ok (.ofTexts false [("docs/a.md", text)]), s') ∧
      s'.files.pageTexts "docs" ⟨[], []⟩ = .ok [("docs/a.md", markedText "docs/a.md" text)] := by
  have hp := pages_onePage text
  obtain ⟨t', hw, hm⟩ := runOn_markPage_writing
    (s := Session.noting ⟨onePage text, []⟩ [.phase .discovering, .phase .marking])
    (readText_onePage text)
  have hr := runOn_mark_of_pages_ok (o := ⟨"docs", ⟨[], []⟩, false⟩) (s := ⟨onePage text, []⟩) hp
    (runOn_markFrom_cons_ok hm rfl)
  have ha : (onePage text).Alike t' := hw.alike
  refine ⟨_, hr, ?_⟩
  show t'.pageTexts "docs" ⟨[], []⟩ = _
  rw [pageTexts_eq_ok_iff, ha.pages_eq, hp]
  simpa using hw.here

/-- A page whose line still ends in a carriage return once the page is marked. -/
theorem diagnostics_of_files_onePage :
    ∃ r s' pages,
      (mark ⟨"docs", ⟨[], []⟩, false⟩).runOn ⟨onePage "# A\r\r\n", []⟩ = (.ok r, s') ∧
      s'.files.readPages (r.processed.map ProcessedPage.path) = .ok pages ∧
      r.diagnostics = Diagnostic.ofFindings (pages.map fun p => .ofText p.1 p.2) ∧
      r.diagnostics = [.weakContent "docs/a.md" 0 2, .missingAbstract "docs/a.md"] ∧
      r.contextCount = total (pages.map fun p => (separatorPlaces p.2).length) := by
  obtain ⟨s', hr, -⟩ := runOn_mark_onePage "# A\r\r\n"
  obtain ⟨pages, hp, hd, hn⟩ := diagnostics_of_files rfl hr
  exact ⟨_, s', pages, hr, hp, hd, by decide, hn⟩

end PagePrep
