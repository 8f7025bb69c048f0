import PagePrep.Proofs.Page.Boundary
import PagePrep.Proofs.Page.ContentLine

/-!
# Marking only adds

Without its separators and the empty line below each, a marked text is the page itself: its lines
without the separators that stood there before, with the blank runs shrunk and the blank end cut.
-/

set_option autoImplicit false

namespace PagePrep

open Text

/-- The lines without each separator and the line directly below it; `below` says that a separator
stands directly above the first of them. -/
def dropBlocks (below : Bool) : List String → List String
  | [] => []
  | l :: ls =>
    if below || Marker.separator.isOn l then dropBlocks (Marker.separator.isOn l) ls
    else l :: dropBlocks false ls

/-- The lines that stay of a page: none that is a separator, and none of the blank lines that a
separator outside of code has between it and a header. -/
def remainingLines (ls : List String) : List String := linesWhere (staysAt ls) ls

namespace Piece

variable {ps : List Piece}

theorem line_at (ls : List String) (e : String × Nat) : (Piece.at ls e).line = e.1 := by
  unfold Piece.at
  split
  · rfl
  · split <;> rfl

theorem map_line_ofText (text : String) :
    (ofText text).map line = remainingLines (Text.lines text) := by
  rw [ofText_eq_positions, List.map_map, remainingLines, linesWhere]
  exact List.map_congr_left fun e _ => line_at _ e

/-- Without their blocks, the lines of pieces are the lines the pieces are made of. -/
theorem dropBlocks_allLines_append (ls : List String) (h : ∀ p ∈ ps, p.Proper) :
    dropBlocks false (allLines ps ++ ls) = ps.map line ++ dropBlocks false ls := by
  induction ps with
  | nil => rfl
  | cons p ps ih =>
    have hp := h p (by simp)
    have hps := ih fun q hq => h q (List.mem_cons_of_mem _ hq)
    cases p with
    | mark l =>
      have hl : Marker.separator.isOn l = false := hp
      simp [lines, line, dropBlocks, hl, hps]
    | body l =>
      have hl : Marker.separator.isOn l = false := hp
      simp [lines, line, dropBlocks, hl, hps]
    | opening l =>
      have hl : Marker.separator.isOn l = false := Marker.not_isOn_of_isHeader hp
      simp [lines, line, dropBlocks, hl, hps]

end Piece

variable {file text : String} {d : Document}

/-- **Marking only adds.** A marked text without its separators and the line directly below each is
the page without the separators it had, its blank runs shrunk and its blank end cut. So the lines
that are neither blank nor separators are the same, in the same order. -/
theorem marked_text_without_blocks (h : segment file text = .rewritten d) :
    "\n".intercalate (dropBlocks false (rows d.text)) =
        finishText (Collapsed.ofLines (remainingLines (lines text))).lines ∧
      (rows d.text).filter isContent = (lines text).filter isContent := by
  have hp := proper_tidy text
  constructor
  · calc "\n".intercalate (dropBlocks false (rows d.text))
      _ = "\n".intercalate ((tidy Piece.isBlank (Piece.ofText text)).map Piece.line ++ [""]) := by
          rw [rows_of_segment h, Piece.dropBlocks_allLines_append [""] hp]
          simp [dropBlocks]
      _ = unlines ((tidy Piece.isBlank (Piece.ofText text)).map Piece.line) :=
          intercalate_concat_empty _
      _ = unlines (tidy isBlank (remainingLines (lines text))) := by
          rw [Piece.map_line_tidy (Piece.proper_ofText text), Piece.map_line_ofText]
      _ = _ := (finishText_collapseBlank _).symm
  · have he : isContent "" = false := by decide
    have hc := Piece.filter_isContent_allLines_tidied .start false (lines text)
    rw [Piece.tidied] at hc
    rw [rows_of_segment h, List.filter_append, Piece.ofText, hc]
    simp [he]

theorem marked_text_without_blocks_mixed :
    segment "page.md" mixedPage = .rewritten mixedDocument ∧
      "\n".intercalate (dropBlocks false (rows mixedDocument.text)) =
        finishText (Collapsed.ofLines (remainingLines (lines mixedPage))).lines ∧
      remainingLines (lines mixedPage) =
        ["# A", "", "", "[comment]: # (mx-abstract)", "# B", "```", "# C", "```", "# D"] := by
  have h : segment "page.md" mixedPage = .rewritten mixedDocument := by decide
  exact ⟨h, (marked_text_without_blocks h).1, by decide⟩

end PagePrep
