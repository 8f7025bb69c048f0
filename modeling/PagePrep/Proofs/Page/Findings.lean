import PagePrep.Page.Diagnostic
import PagePrep.Proofs.Page.Boundary
import PagePrep.Proofs.Page.MarkedText

/-!
# What a reader finds in a marked text

A reader who knows nothing but the text takes each separator for the start of a context, and counts
words up to the next one. That gives the contexts that marking reported (`findings_eq_ofText`), and
the same ones after any number of further runs (`Findings.ofText_iterate_markedText`).
-/

set_option autoImplicit false

namespace PagePrep

open Text

/-- The number of words on the lines up to the next separator. Marks do not count. -/
def wordsToSeparator (ls : List String) : Nat :=
  total (((ls.takeWhile fun l => !Marker.separator.isOn l).filter fun l => !shields l).map wordCount)

/-- The place of each separator among the lines, and the number of words from there to the next. -/
def sections (ls : List String) : List (Nat × Nat) :=
  (ls.findIdxs Marker.separator.isOn).map fun i => (i, wordsToSeparator (ls.drop (i + 1)))

/-- What a reader finds in a page. -/
structure Findings where
  path : String
  /-- The place and the score of each context. -/
  contexts : List (Nat × Nat)
  hasAbstract : Bool
  deriving DecidableEq, Repr

/-- What a reader finds in a text that stands at a path. -/
def Findings.ofText (path text : String) : Findings :=
  ⟨path, sections (rows text), contains text Marker.abstract.sentinel⟩

/-- The warnings that a reader comes to: contexts with less than ten words, then pages without an
abstract. -/
def Diagnostic.ofFindings (fs : List Findings) : List Diagnostic :=
  fs.flatMap (fun f => (f.contexts.filter fun c => c.2 < 10).map fun c => weakContent f.path c.1 c.2) ++
    (fs.filter fun f => !f.hasAbstract).map fun f => missingAbstract f.path

/-- What marking reports on a page. -/
def ProcessedPage.findings (p : ProcessedPage) : Findings :=
  ⟨p.path, p.document.contexts.map fun c => (c.lineIndex, c.score), p.document.hasAbstract⟩

/-! ## Words up to the next separator -/

section Words

variable {l : String} (ls : List String)

theorem wordsToSeparator_separator (h : Marker.separator.isOn l = true) :
    wordsToSeparator (l :: ls) = 0 := by
  simp [wordsToSeparator, h]

theorem wordsToSeparator_mark (h : shields l = true) :
    wordsToSeparator (l :: ls) = wordsToSeparator ls := by
  have hs : Marker.separator.isOn l = false := by
    rw [Bool.eq_false_iff]
    intro hs
    rw [not_shields_of_isOn_separator hs] at h
    cases h
  simp [wordsToSeparator, hs, h]

theorem wordsToSeparator_body (hs : Marker.separator.isOn l = false) (h : shields l = false) :
    wordsToSeparator (l :: ls) = wordCount l + wordsToSeparator ls := by
  simp [wordsToSeparator, hs, h]

end Words

theorem wordsToSeparator_map_chomp (ls : List String) :
    wordsToSeparator (ls.map chomp) = wordsToSeparator ls := by
  simp only [wordsToSeparator, List.takeWhile_map, List.filter_map, List.map_map, Function.comp_def,
    Marker.isOn_chomp, shields_chomp, wordCount_chomp]

theorem findIdxs_map_chomp (ls : List String) (n : Nat) :
    (ls.map chomp).findIdxs Marker.separator.isOn n = ls.findIdxs Marker.separator.isOn n := by
  induction ls generalizing n with
  | nil => rfl
  | cons l ls ih => simp [List.findIdxs_cons, Marker.isOn_chomp, ih]

theorem sections_map_chomp (ls : List String) : sections (ls.map chomp) = sections ls := by
  simp only [sections, findIdxs_map_chomp, ← List.map_drop, wordsToSeparator_map_chomp]

/-! ## Contexts of settled pieces -/

namespace Piece.Settled

variable {before : Lookback} {inCode : Bool} {ps : List Piece} (h : Settled before inCode ps)
include h

/-- Up to the next separator stands the body of the section. -/
theorem wordsToSeparator_allLines :
    wordsToSeparator (allLines ps ++ [""]) = total ((sectionBody ps).map wordCount) := by
  induction h with
  | nil => decide
  | @line before inCode l ps hs hn _ ih =>
    rw [allLines_cons, lines_ofLine hn, List.append_assoc, List.singleton_append]
    cases hm : shields l with
    | true =>
      have he : ofLine before inCode l = mark l := by rw [ofLine, if_pos hm]
      rw [wordsToSeparator_mark _ hm, he, ih]
      rfl
    | false =>
      have he : ofLine before inCode l = body l := by
        rcases ofLine_cases before inCode l with he | he | ⟨he, -⟩
        · rw [ofLine, if_neg (by simp [hm])] at he
          split at he <;> cases he
        · exact he
        · exact absurd he hn
      rw [wordsToSeparator_body _ hs hm, he, ih]
      rfl
  | opening hh _ _ => exact wordsToSeparator_separator _ (Marker.isOn_sentinel _)

/-- The score of a context counts the words from its separator to the next. -/
theorem score_eq (file : String) (n : Nat) :
    ∀ c ∈ contexts file n ps, ∃ i, c.lineIndex = n + i ∧
      c.score = wordsToSeparator ((allLines ps ++ [""]).drop (i + 1)) := by
  induction h generalizing n with
  | nil => simp [contexts]
  | @line before inCode l ps hs hn _ ih =>
    have hc : contexts file n (ofLine before inCode l :: ps) = contexts file (n + 1) ps := by
      rcases ofLine_cases before inCode l with he | he | ⟨he, -⟩
      · rw [he]; rfl
      · rw [he]; rfl
      · exact absurd he hn
    rw [hc]
    intro c hcm
    obtain ⟨i, hi, hw⟩ := ih (n + 1) c hcm
    refine ⟨i + 1, by omega, ?_⟩
    rw [allLines_cons, lines_ofLine hn, hw]
    rfl
  | @opening before l ps hl hb ih =>
    intro c hcm
    rcases List.mem_cons.1 hcm with rfl | hcm
    · refine ⟨0, rfl, ?_⟩
      have he : Marker.separator.isOn "" = false := by decide
      have he' : shields "" = false := by decide
      have hw : wordCount "" = 0 := by decide
      show _ = wordsToSeparator ("" :: l :: (allLines ps ++ [""]))
      rw [wordsToSeparator_body _ he he', hw, Nat.zero_add,
        wordsToSeparator_body _ (Marker.not_isOn_of_isHeader hl) (not_shields_of_isHeader hl),
        hb.wordsToSeparator_allLines, score_opening]
    · obtain ⟨i, hi, hw⟩ := ih (n + 3) c hcm
      refine ⟨i + 3, by omega, ?_⟩
      rw [hw]
      rfl

end Piece.Settled

/-! ## Marked texts -/

variable {path text : String} {d : Document}

theorem sections_of_segment (h : segment path text = .rewritten d) :
    sections (rows d.text) = d.contexts.map fun c => (c.lineIndex, c.score) := by
  let ps := tidy Piece.isBlank (Piece.ofText text)
  have hs : Piece.Settled .start false ps := (Piece.settled_ofText text).tidy (.refl _)
  have hb := congrArg (List.map fun b => (b.1, b.2.1)) (map_brief_of_segment h)
  simp only [List.map_map, Function.comp_def, Context.brief] at hb
  have hp : (rows d.text).findIdxs Marker.separator.isOn = d.contexts.map Context.lineIndex :=
    separatorPlaces_of_segment h
  have hi := congrArg (List.map Prod.fst) hb
  simp only [List.map_map, Function.comp_def] at hi
  rw [sections, hp, hi, hb, rows_of_segment h, List.map_map]
  apply List.map_congr_left
  intro c hc
  obtain ⟨i, hci, hw⟩ := hs.score_eq path 0 c hc
  rw [Nat.zero_add] at hci
  rw [Function.comp_apply, hw, hci]

/-- A reader finds in the new text what marking reports. -/
theorem findings_eq_ofText (h : segment path text = .rewritten d) (changed : Bool) :
    ProcessedPage.findings ⟨path, changed, d⟩ = .ofText path d.text := by
  rw [Findings.ofText, sections_of_segment h]
  rfl

theorem file_of_mem_contexts {file : String} {n : Nat} {ps : List Piece} {c : Context}
    (h : c ∈ Piece.contexts file n ps) : c.file = file := by
  induction ps generalizing n with
  | nil => cases h
  | cons p ps ih =>
    cases p with
    | mark l => exact ih h
    | body l => exact ih h
    | opening l =>
      rcases List.mem_cons.1 h with rfl | h
      · rfl
      · exact ih h

theorem file_of_segment (h : segment path text = .rewritten d) {c : Context} (hc : c ∈ d.contexts) :
    c.file = path := by
  rw [(segment_eq_rewritten_iff.1 h).2] at hc
  obtain ⟨c', hc', rfl⟩ := List.mem_map.1 hc
  exact file_of_mem_contexts (c := c') hc'

/-- The auditor looks at nothing but what is reported on each page. -/
theorem Diagnostic.audit_eq_ofFindings {pages : List ProcessedPage}
    (h : ∀ p ∈ pages, ∀ c ∈ p.document.contexts, c.file = p.path) :
    audit pages = ofFindings (pages.map ProcessedPage.findings) := by
  rw [audit, ofFindings, List.flatMap_map, List.filter_map, List.map_map]
  congr 1
  apply List.flatMap_congr
  intro p hp
  rw [ofContexts, ProcessedPage.findings, List.filter_map, List.map_map]
  apply List.map_congr_left
  intro c hc
  rw [h p hp c (List.mem_of_mem_filter hc)]
  rfl

/-- The rows of a marked text that is marked again lose the carriage returns at their ends. -/
theorem rows_markedText_markedText (hx : isExcluded text = false) :
    rows (markedText path (markedText path text)) = (rows (markedText path text)).map chomp := by
  obtain ⟨d, h⟩ := exists_segment path hx
  obtain ⟨d', h'⟩ := exists_segment path (isExcluded_text h)
  rw [markedText_of_segment h, markedText_of_segment h', rows_of_segment h', rows_of_segment h,
    text_of_segment h, Piece.ofText_unlines, Piece.tidy_map_chomp_tidy, Piece.allLines_map_chomp,
    List.map_append]
  rfl

namespace Findings

theorem ofText_markedText_markedText (path text : String) :
    ofText path (markedText path (markedText path text)) = ofText path (markedText path text) := by
  cases hx : isExcluded text with
  | true => rw [markedText_of_isExcluded hx, markedText_of_isExcluded hx]
  | false =>
    have ha : contains (markedText path (markedText path text)) Marker.abstract.sentinel =
        contains (markedText path text) Marker.abstract.sentinel := by
      have hn : '\r' ∉ Marker.abstract.sentinel.toList := by decide
      rw [Bool.eq_iff_iff, markedText_markedText_eq_unlines hx, markedText_of_not_isExcluded hx,
        contains_unlines_iff (by decide) (by decide), contains_unlines_iff (by decide) (by decide)]
      simp only [List.mem_map, exists_exists_and_eq_and, contains_chomp hn]
      rfl
    rw [ofText, ofText, ha, rows_markedText_markedText hx, sections_map_chomp]

/-- A reader finds the same in a text however often it was marked. -/
theorem ofText_iterate_markedText (path text : String) (n : Nat) :
    ofText path ((markedText path)^[n + 1] text) = ofText path (markedText path text) := by
  induction n with
  | zero => rfl
  | succ n ih =>
    rw [Function.iterate_succ_apply', Function.iterate_succ_apply', ofText_markedText_markedText,
      ← Function.iterate_succ_apply' (markedText path), ih]

end Findings

end PagePrep
