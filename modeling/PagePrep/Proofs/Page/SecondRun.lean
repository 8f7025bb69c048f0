import PagePrep.Proofs.Page.Tidied
import Mathlib.Data.List.Forall2

/-!
# A second run

The marked text of a page is read back as its own tidied pieces, with the carriage returns at the
ends of lines taken off. So marking it again finds the same contexts in the same places and changes
nothing but `\r\n`.
-/

set_option autoImplicit false

namespace PagePrep

open Text

namespace Piece

theorem sectionBody_map_chomp (ps : List Piece) :
    sectionBody (ps.map chomp) = (sectionBody ps).map Text.chomp := by
  induction ps with
  | nil => rfl
  | cons p ps ih =>
    cases p with
    | mark l => exact ih
    | body l => simp [chomp, sectionBody, ih]
    | opening l => rfl

/-- Carriage returns at the ends of lines change neither the places nor the scores of contexts. -/
theorem map_place_score_contexts_map_chomp (file : String) (n : Nat) (ps : List Piece) :
    (contexts file n (ps.map chomp)).map (fun c => (c.lineIndex, c.score)) =
      (contexts file n ps).map fun c => (c.lineIndex, c.score) := by
  induction ps generalizing n with
  | nil => rfl
  | cons p ps ih =>
    cases p with
    | mark l => exact ih (n + 1)
    | body l => exact ih (n + 1)
    | opening l =>
      simp only [List.map_cons, chomp, contexts, ih (n + 3), score_opening, wordCount_chomp,
        sectionBody_map_chomp, List.map_map]
      simp [Function.comp_def, wordCount_chomp]

theorem tidy_map_chomp_tidy (ps : List Piece) :
    tidy isBlank ((tidy isBlank ps).map chomp) = (tidy isBlank ps).map chomp := by
  simp only [tidy_map, isBlank_chomp, tidy_tidy]

/-- The marked text is read back as the tidied pieces it was written from. -/
theorem ofText_unlines (text : String) :
    ofText (unlines (allLines (tidy isBlank (ofText text)))) =
      (tidy isBlank (ofText text)).map chomp := by
  have hs : Settled .start false ((tidy isBlank (ofText text)).map chomp) :=
    ((settled_ofText text).tidy (.refl _)).map_chomp (.refl _)
  rw [ofText, lines_unlines fun l hl => newline_not_mem_allLines hl, ← allLines_map_chomp,
    hs.ofLines_allLines]

end Piece

variable {file text : String} {d : Document}

/-- Lines that were there before, or belong to a separator, do not ask to be left alone if none
before did. -/
theorem isExcluded_unlines {ls ks : List String}
    (hk : ∀ k ∈ ks, k ∈ ls ∨ k = Marker.separator.sentinel ∨ k = "")
    (hl : ∀ l ∈ ls, contains l Marker.excludeFile.sentinel = false) :
    isExcluded (unlines ks) = false := by
  rw [Bool.eq_false_iff, isExcluded]
  intro hc
  obtain ⟨k, hm, hc⟩ := (contains_unlines_iff (by decide) (by decide)).1 hc
  rcases hk k hm with hkl | rfl | rfl
  · rw [hl k hkl] at hc
    cases hc
  · revert hc
    decide
  · revert hc
    decide

theorem isExcluded_text (h : segment file text = .rewritten d) : isExcluded d.text = false := by
  have ht := (segment_eq_rewritten_iff.1 h).1
  rw [text_of_segment h]
  apply isExcluded_unlines fun k => Piece.mem_allLines_tidied
  intro l hl
  rw [Bool.eq_false_iff]
  intro hc
  rw [isExcluded, contains_of_mem_lines hl hc] at ht
  cases ht

theorem hasAbstract_eq (d : Document) {ls : List String} (h : d.text = unlines ls) :
    d.hasAbstract = true ↔ ∃ l ∈ ls, contains l Marker.abstract.sentinel = true := by
  rw [Document.hasAbstract, h, contains_unlines_iff (by decide) (by decide)]

/-- **A second run** of marking keeps a marked text but for the carriage return of each `\r\n`, so
that it keeps the whole text just where there is none. It finds as many contexts, each in the same
place and with the same score. -/
theorem segment_of_segmented (h : segment file text = .rewritten d) :
    ∃ d', segment file d.text = .rewritten d' ∧
      d'.text = replaceAll d.text "\r\n" "\n" ∧
      (d'.text = d.text ↔ contains d.text "\r\n" = false) ∧
      d'.contexts.length = d.contexts.length ∧
      List.Forall₂ (fun c' c => c'.lineIndex = c.lineIndex ∧ c'.score = c.score ∧
        c'.isWeak = c.isWeak) d'.contexts d.contexts ∧
      d'.hasAbstract = d.hasAbstract := by
  let ps := tidy Piece.isBlank (Piece.ofText text)
  have ht : d.text = unlines (Piece.allLines ps) := text_of_segment h
  obtain ⟨d', h'⟩ : ∃ d', segment file d.text = .rewritten d' :=
    ⟨_, segment_eq_rewritten_iff.2 ⟨isExcluded_text h, rfl⟩⟩
  have hp : Piece.ofText d.text = ps.map Piece.chomp := by rw [ht, Piece.ofText_unlines]
  have ht' : d'.text = unlines ((Piece.allLines ps).map chomp) := by
    rw [text_of_segment h', hp, Piece.tidy_map_chomp_tidy, Piece.allLines_map_chomp]
  have hr : d'.text = replaceAll d.text "\r\n" "\n" := by
    rw [ht', ht, replaceAll_unlines fun l hl => Piece.newline_not_mem_allLines hl]
  have hc : d'.contexts.map (fun c => (c.lineIndex, c.score)) =
      d.contexts.map fun c => (c.lineIndex, c.score) := by
    have hb := congrArg (List.map fun b => (b.1, b.2.1)) (map_brief_of_segment h)
    have hb' := congrArg (List.map fun b => (b.1, b.2.1)) (map_brief_of_segment h')
    rw [hp, Piece.tidy_map_chomp_tidy] at hb'
    simp only [List.map_map, Function.comp_def, Context.brief] at hb hb'
    rw [hb', hb, Piece.map_place_score_contexts_map_chomp]
  refine ⟨d', h', hr, ?_, ?_, ?_, ?_⟩
  · rw [hr, replaceAll_eq_self_iff (by decide)]
  · simpa using congrArg List.length hc
  · rw [← List.forall₂_eq_eq_eq, List.forall₂_map_left_iff, List.forall₂_map_right_iff] at hc
    apply hc.imp
    intro c' c hcc
    obtain ⟨hi, hs⟩ := Prod.mk.inj hcc
    exact ⟨hi, hs, by rw [Context.isWeak, Context.isWeak, hs]⟩
  · have hn : '\r' ∉ Marker.abstract.sentinel.toList := by decide
    rw [Bool.eq_iff_iff, hasAbstract_eq d' ht', hasAbstract_eq d ht]
    simp only [List.mem_map, exists_exists_and_eq_and, contains_chomp hn]

/-- A page whose header has a carriage return left after the first run, and none after the second. -/
theorem segment_of_segmented_return :
    segment "page.md" "a\n\n\n# T\r\r\nb" = .rewritten
        ⟨"a\n\n[comment]: # (mx-context-auto)\n\n# T\r\nb\n", [⟨"page.md", 2, ["# T\r", "b"]⟩]⟩ ∧
      ∃ d', segment "page.md" "a\n\n[comment]: # (mx-context-auto)\n\n# T\r\nb\n" = .rewritten d' ∧
        d'.text = "a\n\n[comment]: # (mx-context-auto)\n\n# T\nb\n" ∧ d'.contexts.length = 1 := by
  have h : segment "page.md" "a\n\n\n# T\r\r\nb" = .rewritten
      ⟨"a\n\n[comment]: # (mx-context-auto)\n\n# T\r\nb\n",
        [⟨"page.md", 2, ["# T\r", "b"]⟩]⟩ := by decide
  obtain ⟨d', h', ht, -, hl, -⟩ := segment_of_segmented h
  exact ⟨h, d', h', ht.trans (by decide), hl⟩

end PagePrep
