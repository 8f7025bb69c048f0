import PagePrep.Proofs.Page.Boundary
import PagePrep.Proofs.Page.ContentLine

/-!
# Blank lines of a marked text

A marked text has no two blank lines in a row and none at its end, wherever its blank lines come from:
the page, the blocks of separators, or separators that went from between blank lines. It is empty just
where there is no content on the page.
-/

set_option autoImplicit false

namespace PagePrep

open Text

/-- Lines of which the last is not blank, nor are two that follow one another. -/
structure Compact (ls : List String) : Prop where
  apart : ls.IsChain fun l k => ¬(isBlank l = true ∧ isBlank k = true)
  ends : ∃ l, ls.getLast? = some l ∧ isBlank l = false

theorem compact_tidy {ls : List String} (h : tidy isBlank ls ≠ []) :
    Compact (tidy isBlank ls) := by
  obtain ⟨l, hl⟩ := Option.ne_none_iff_exists'.1 (mt List.getLast?_eq_none_iff.1 h)
  exact ⟨isChain_tidy ls, l, hl, not_blank_of_getLast?_tidy hl⟩

namespace Piece

theorem line_mem_lines (p : Piece) : p.line ∈ p.lines := by
  cases p <;> simp [line, lines]

/-- A piece that is not blank holds a line with content. -/
theorem Proper.isContent_line {p : Piece} (h : p.Proper) (hb : p.isBlank = false) :
    isContent p.line = true := by
  cases p with
  | mark l =>
    have hs : Marker.separator.isOn l = false := h
    have hl : Text.isBlank l = false := hb
    simp [line, isContent, hs, hl]
  | body l =>
    have hs : Marker.separator.isOn l = false := h
    have hl : Text.isBlank l = false := hb
    simp [line, isContent, hs, hl]
  | opening l =>
    have hl : isHeader l = true := h
    simp [line, isContent, not_isBlank_of_isHeader hl, Marker.not_isOn_of_isHeader hl]

end Piece

variable {file text : String} {d : Document}

/-- The lines of a marked text are those of the page's pieces, without the blank ones that go. -/
theorem text_of_segment_eq_tidy (h : segment file text = .rewritten d) :
    d.text = unlines (tidy isBlank (Piece.allLines (Piece.ofText text))) := by
  rw [text_of_segment h, Piece.allLines_tidy (Piece.proper_ofText text)]

/-- A marked text is empty just where no line of the page has content. -/
theorem text_eq_empty_iff (h : segment file text = .rewritten d) :
    d.text = "" ↔ ∀ l ∈ lines text, isContent l = false := by
  have hc := Piece.filter_isContent_allLines_tidied .start false (lines text)
  rw [text_of_segment h, unlines_eq_empty_iff]
  show Piece.allLines (Piece.tidied .start false (lines text)) = [] ↔ _
  constructor
  · intro he
    rw [he] at hc
    simpa using hc.symm
  · intro hn
    have hf : (lines text).filter isContent = [] := by simpa using hn
    rw [hf] at hc
    cases hl : (Piece.tidied .start false (lines text)).getLast? with
    | none => rw [List.getLast?_eq_none_iff.1 hl, Piece.allLines_nil]
    | some p =>
      -- the last piece that stays has content
      have hp : p ∈ Piece.tidied .start false (lines text) := List.mem_of_getLast? hl
      have hcontent : isContent p.line = true :=
        (proper_tidy text p hp).isContent_line (not_blank_of_getLast?_tidy hl)
      have hm : p.line ∈ Piece.allLines (Piece.tidied .start false (lines text)) :=
        List.mem_flatMap.2 ⟨p, hp, p.line_mem_lines⟩
      have := List.filter_eq_nil_iff.1 hc _ hm
      exact absurd hcontent this

/-- **Normal form of a marked text.** A marked text is empty just where each line of the page is blank
or a separator. Any other ends in one newline, and the lines before it are compact. -/
theorem marked_text_is_compact (h : segment file text = .rewritten d) :
    (d.text = "" ↔
      ∀ l ∈ lines text, isBlank l = true ∨ Marker.separator.isOn l = true) ∧
    (d.text ≠ "" → ∃ s, d.text = s ++ "\n" ∧ s.toList.getLast? ≠ some '\n' ∧ Compact (rows s)) := by
  constructor
  · rw [text_eq_empty_iff h]
    refine forall₂_congr fun l _ => ?_
    rw [isContent, Bool.and_eq_false_iff, Bool.not_eq_false', Bool.not_eq_false']
  · intro hne
    have ht := text_of_segment_eq_tidy h
    rw [ht, ne_eq, unlines_eq_empty_iff] at hne
    obtain ⟨s, hs⟩ := exists_of_unlines hne
    have hrows : rows s = tidy isBlank (Piece.allLines (Piece.ofText text)) := by
      have hd : rows (s ++ "\n") = _ := (congrArg rows (ht.trans hs).symm).trans (rows_of_segment h)
      rw [rows_append_newline, Piece.allLines_tidy (Piece.proper_ofText text)] at hd
      exact List.append_cancel_right hd
    have hcompact : Compact (rows s) := hrows ▸ compact_tidy hne
    obtain ⟨l, hl, hb⟩ := hcompact.ends
    refine ⟨s, ht.trans hs, getLast?_ne_newline hl ?_, hcompact⟩
    rintro rfl
    exact absurd hb (by simp)

/-- A page on which a separator goes from between blank lines, with blank lines of several kinds in a
code block. -/
def scatteredPage : String :=
  "# A\n\n[comment]: # (mx-context-auto)\n \t\n```\n\n\r\r\n\u2003\n```\n\n[comment]: # (mx-context-auto)\n"

theorem marked_text_is_compact_scattered :
    ∃ d, segment "page.md" scatteredPage = .rewritten d ∧
      d.text = "[comment]: # (mx-context-auto)\n\n# A\n \t\n```\n\u2003\n```\n" ∧
      ∃ s, d.text = s ++ "\n" ∧ s.toList.getLast? ≠ some '\n' ∧ Compact (rows s) := by
  have h : segment "page.md" scatteredPage = .rewritten
      { text := "[comment]: # (mx-context-auto)\n\n# A\n \t\n```\n\u2003\n```\n"
        contexts := [⟨"page.md", 0, ["# A", "", " \t", "```", "", "\r", "\u2003", "```", ""]⟩] } := by
    decide
  exact ⟨_, h, rfl, (marked_text_is_compact h).2 (by decide)⟩

end PagePrep
