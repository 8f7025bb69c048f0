import PagePrep.Proofs.Page.Findings
import PagePrep.Run.Marking

/-!
# The report on pages with given texts

What became of a page depends on its path and its text alone (`PageFate.ofText`). So the report on
some pages can be told from their texts: which are skipped, which are altered, and what the warnings
are.
-/

set_option autoImplicit false

namespace PagePrep

open Text

/-- What becomes of a page with this text. -/
def PageFate.ofText (path text : String) : PageFate :=
  match segment path text with
  | .skipped => .skipped path
  | .rewritten d => .processed ⟨path, d.text != text, d⟩

/-- The page made of this text. -/
def ProcessedPage.ofText (path text : String) : ProcessedPage :=
  ⟨path, markedText path text != text, .ofPieces path (Piece.ofText text)⟩

/-- The report on pages of which the paths and the texts are given. -/
def MarkingReport.ofTexts (check : Bool) (pages : List (String × String)) : MarkingReport :=
  .ofFates check (pages.map fun p => .ofText p.1 p.2)

section OfText

variable {path text : String}

theorem PageFate.ofText_of_isExcluded (h : isExcluded text = true) :
    ofText path text = .skipped path := by
  rw [ofText, segment, if_pos h]

theorem PageFate.ofText_of_not_isExcluded (h : isExcluded text = false) :
    ofText path text = .processed (.ofText path text) := by
  have hs : segment path text = .rewritten (.ofPieces path (Piece.ofText text)) :=
    segment_eq_rewritten_iff.2 ⟨h, rfl⟩
  rw [ofText, ProcessedPage.ofText, markedText_of_segment hs, hs]

/-- What is reported on a page can be found in its new text. -/
theorem ProcessedPage.findings_ofText (h : isExcluded text = false) :
    (ofText path text).findings = .ofText path (markedText path text) := by
  have hs : segment path text = .rewritten (.ofPieces path (Piece.ofText text)) :=
    segment_eq_rewritten_iff.2 ⟨h, rfl⟩
  rw [markedText_of_segment hs, ← findings_eq_ofText hs (markedText path text != text)]
  rfl

theorem ProcessedPage.file_of_mem_ofText (h : isExcluded text = false) {c : Context}
    (hc : c ∈ (ofText path text).document.contexts) : c.file = path :=
  file_of_segment (segment_eq_rewritten_iff.2 ⟨h, rfl⟩) hc

end OfText

namespace MarkingReport

variable (check : Bool) (pages : List (String × String))

theorem skipped_ofTexts :
    (ofTexts check pages).skipped = (pages.filter fun p => isExcluded p.2).map Prod.fst := by
  show (pages.map fun p => .ofText p.1 p.2).filterMap PageFate.skipped? = _
  induction pages with
  | nil => rfl
  | cons p pages ih =>
    cases hx : isExcluded p.2 with
    | true =>
      rw [List.map_cons, PageFate.ofText_of_isExcluded hx, List.filter_cons_of_pos (by simp [hx]),
        List.map_cons, ← ih]
      rfl
    | false =>
      rw [List.map_cons, PageFate.ofText_of_not_isExcluded hx, List.filter_cons_of_neg (by simp [hx]),
        ← ih]
      rfl

theorem processed_ofTexts :
    (ofTexts check pages).processed =
      (pages.filter fun p => !isExcluded p.2).map fun p => .ofText p.1 p.2 := by
  show (pages.map fun p => .ofText p.1 p.2).filterMap PageFate.processed? = _
  induction pages with
  | nil => rfl
  | cons p pages ih =>
    cases hx : isExcluded p.2 with
    | true =>
      rw [List.map_cons, PageFate.ofText_of_isExcluded hx, List.filter_cons_of_neg (by simp [hx]),
        ← ih]
      rfl
    | false =>
      rw [List.map_cons, PageFate.ofText_of_not_isExcluded hx, List.filter_cons_of_pos (by simp [hx]),
        List.map_cons, ← ih]
      rfl

theorem map_path_ofTexts :
    (ofTexts check pages).processed.map ProcessedPage.path =
      (pages.filter fun p => !isExcluded p.2).map Prod.fst := by
  rw [processed_ofTexts, List.map_map]
  rfl

/-- The altered pages are those whose text is not the marked one. -/
theorem changed_ofTexts :
    (ofTexts check pages).changed =
      (pages.filter fun p => markedText p.1 p.2 != p.2).map Prod.fst := by
  rw [changed, processed_ofTexts, List.filter_map, List.map_map, List.filter_filter]
  show List.map Prod.fst _ = _
  congr 1
  apply List.filter_congr
  intro p _
  cases hx : isExcluded p.2 with
  | true => simp [markedText_of_isExcluded hx]
  | false => simp [ProcessedPage.ofText]

theorem map_findings_ofTexts :
    (ofTexts check pages).processed.map ProcessedPage.findings =
      (pages.filter fun p => !isExcluded p.2).map fun p => .ofText p.1 (markedText p.1 p.2) := by
  rw [processed_ofTexts, List.map_map]
  apply List.map_congr_left
  intro p hp
  exact ProcessedPage.findings_ofText (by simpa using (List.mem_filter.1 hp).2)

/-- The warnings are those of a reader who finds what is reported. -/
theorem diagnostics_ofTexts :
    (ofTexts check pages).diagnostics =
      Diagnostic.ofFindings ((ofTexts check pages).processed.map ProcessedPage.findings) := by
  apply Diagnostic.audit_eq_ofFindings
  show ∀ p ∈ (ofTexts check pages).processed, _
  rw [processed_ofTexts]
  intro p hp c hc
  obtain ⟨q, hq, rfl⟩ := List.mem_map.1 hp
  exact ProcessedPage.file_of_mem_ofText (by simpa using (List.mem_filter.1 hq).2) hc

theorem contextCount_eq (r : MarkingReport) :
    r.contextCount =
      total ((r.processed.map ProcessedPage.findings).map fun f => f.contexts.length) := by
  simp [contextCount, ProcessedPage.findings, Function.comp_def]

end MarkingReport

end PagePrep
