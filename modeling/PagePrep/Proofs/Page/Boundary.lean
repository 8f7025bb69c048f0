import PagePrep.Proofs.Page.Position

/-!
# Separators stand above opening headers

In a marked text the separators are as many as the headers of the page that open contexts, and as
many as the contexts. Each stands where its context says, alone on its line, with an empty line and
the header of the context below it and no open code block above it.
-/

set_option autoImplicit false

namespace PagePrep

open Text

namespace Piece

/-! ## Headers by position -/

theorem header?_at (ls : List String) (e : String × Nat) :
    (Piece.at ls e).header? = if !shields e.1 && opensAt ls e.2 then some e.1 else none := by
  unfold Piece.at
  cases shields e.1 <;> cases opensAt ls e.2 <;> rfl

theorem isHeader_of_opensAt {ls : List String} {i : Nat} {l : String} (hl : ls[i]? = some l)
    (h : opensAt ls i = true) : isHeader l = true := by
  simp only [opensAt, hl, Option.any_some, Bool.and_eq_true] at h
  exact h.1.1.1

/-- An opening header stays: it is neither a separator nor blank. -/
theorem staysAt_of_opensAt {ls : List String} {i : Nat} {l : String} (hl : ls[i]? = some l)
    (h : opensAt ls i = true) : staysAt ls i = true := by
  have hh := isHeader_of_opensAt hl h
  have hr : (decide (1 ≤ i) && restatesAt ls (i - 1)) = false := by
    cases i with
    | zero => rfl
    | succ i => simp [restatesAt, hl, not_isBlank_of_isHeader hh]
  rw [staysAt, hl, hr, Option.any_some, Marker.not_isOn_of_isHeader hh]
  rfl

/-- The pieces that open contexts are those of the opening headers. -/
theorem filterMap_header?_ofText (text : String) :
    (ofText text).filterMap header? = openingHeaders (Text.lines text) := by
  rw [ofText_eq_positions, openingHeaders, linesWhere, List.filterMap_map, List.filterMap_filter,
    ← List.filterMap_eq_map, List.filterMap_filter]
  apply List.filterMap_congr
  intro e he
  have hl := List.mem_zipIdx_iff_getElem?.1 he
  rw [Function.comp_apply, Function.comp_apply, header?_at]
  cases ho : opensAt (Text.lines text) e.2 with
  | false => simp
  | true => simp [staysAt_of_opensAt hl ho, not_shields_of_isHeader (isHeader_of_opensAt hl ho)]

theorem filterMap_header?_tidy (ps : List Piece) :
    (tidy isBlank ps).filterMap header? = ps.filterMap header? := by
  induction ps with
  | nil => rfl
  | cons p ps ih =>
    cases hd : p.isBlank && ps.head?.all isBlank with
    | false => rw [tidy_cons_keep hd, List.filterMap_cons, List.filterMap_cons, ih]
    | true =>
      rw [Bool.and_eq_true] at hd
      rw [tidy_cons_drop hd.1 hd.2, ih]
      cases p with
      | opening l => cases hd.1
      | _ => rfl

/-! ## Contexts of settled pieces -/

theorem map_head?_contexts (file : String) (n : Nat) (ps : List Piece) :
    (contexts file n ps).map (fun c => c.lines.head?) = (ps.filterMap header?).map some := by
  induction ps generalizing n with
  | nil => rfl
  | cons p ps ih =>
    cases p with
    | mark l => exact ih (n + 1)
    | body l => exact ih (n + 1)
    | opening l => exact congrArg (some l :: ·) (ih (n + 3))

/-- The separators among the lines of pieces are those of their contexts. -/
theorem findIdxs_allLines (file : String) (n : Nat) {ps : List Piece} (h : ∀ p ∈ ps, p.Proper) :
    (allLines ps).findIdxs Marker.separator.isOn n =
      (contexts file n ps).map Context.lineIndex := by
  induction ps generalizing n with
  | nil => rfl
  | cons p ps ih =>
    have hp := h p (by simp)
    have hps : ∀ q ∈ ps, q.Proper := fun q hq => h q (List.mem_cons_of_mem _ hq)
    cases p with
    | mark l =>
      have hl : Marker.separator.isOn l = false := hp
      simp [lines, contexts, hl, ih (n + 1) hps]
    | body l =>
      have hl : Marker.separator.isOn l = false := hp
      simp [lines, contexts, hl, ih (n + 1) hps]
    | opening l =>
      have hl : Marker.separator.isOn l = false := Marker.not_isOn_of_isHeader hp
      simp [lines, contexts, hl, ih (n + 3) hps]

/-- A separator, an empty line and a header, with no open code block above. -/
structure Block (inCode : Bool) (ls : List String) (i : Nat) (header : Option String) : Prop where
  separator : ls[i]? = some Marker.separator.sentinel
  empty : ls[i + 1]? = some ""
  header : ls[i + 2]? = header
  outside : codeAfter inCode (ls.take i) = false

theorem Block.append_left {inCode : Bool} {ls : List String} {i : Nat} {header : Option String}
    (above : List String) (h : Block (codeAfter inCode above) ls i header) :
    Block inCode (above ++ ls) (above.length + i) header := by
  have hi (j : Nat) : (above ++ ls)[above.length + i + j]? = ls[i + j]? := by
    rw [List.getElem?_append_right (by omega)]
    congr 1
    omega
  exact ⟨(hi 0).trans h.separator, (hi 1).trans h.empty, (hi 2).trans h.header,
    by rw [List.take_length_add_append, codeAfter_append, h.outside]⟩

theorem Block.append_right {inCode : Bool} {ls : List String} {i : Nat} {header : String}
    (below : List String) (h : Block inCode ls i (some header)) :
    Block inCode (ls ++ below) i (some header) := by
  have hi : i + 2 < ls.length := (List.getElem?_eq_some_iff.1 h.header).1
  refine ⟨?_, ?_, ?_, ?_⟩
  · rw [List.getElem?_append_left (by omega), h.separator]
  · rw [List.getElem?_append_left (by omega), h.empty]
  · rw [List.getElem?_append_left hi, h.header]
  · rw [List.take_append_of_le_length (by omega), h.outside]

/-- Each context of settled pieces stands at a block of its own header. -/
theorem Settled.block {before : Lookback} {inCode : Bool} {ps : List Piece} (file : String) (n : Nat)
    (h : Settled before inCode ps) :
    ∀ c ∈ contexts file n ps, ∃ i, c.lineIndex = n + i ∧ c.lines.head?.isSome = true ∧
      Block inCode (allLines ps) i c.lines.head? := by
  induction h generalizing n with
  | nil => simp [contexts]
  | @line before inCode l ps hs hn _ ih =>
    have hc : contexts file n (ofLine before inCode l :: ps) = contexts file (n + 1) ps := by
      rcases ofLine_cases before inCode l with he | he | ⟨he, -⟩
      · rw [he]; rfl
      · rw [he]; rfl
      · exact absurd he hn
    rw [hc]
    intro c hcm
    obtain ⟨i, hi, hh, hb⟩ := ih (n + 1) c hcm
    refine ⟨1 + i, by omega, hh, ?_⟩
    rw [allLines_cons, lines_ofLine hn]
    exact hb.append_left [l]
  | @opening before l ps hl _ ih =>
    intro c hcm
    rcases List.mem_cons.1 hcm with rfl | hcm
    · exact ⟨0, rfl, rfl, rfl, rfl, rfl, rfl⟩
    · obtain ⟨i, hi, hh, hb⟩ := ih (n + 3) c hcm
      refine ⟨3 + i, by omega, hh, ?_⟩
      have hf : codeAfter false (lines (.opening l)) = false := by
        have hs : isFence Marker.separator.sentinel = false := by decide
        have he : isFence "" = false := by decide
        simp [lines, hs, he, not_isFence_of_isHeader hl]
      rw [← hf] at hb
      exact hb.append_left (lines (.opening l))

end Piece

/-! ## The separators of a marked text -/

/-- The numbers of the separators among the lines of a text, split at its newlines. -/
def separatorPlaces (text : String) : List Nat := (rows text).findIdxs Marker.separator.isOn

variable {file text : String} {d : Document}

theorem rows_of_segment (h : segment file text = .rewritten d) :
    rows d.text = Piece.allLines (tidy Piece.isBlank (Piece.ofText text)) ++ [""] := by
  rw [text_of_segment h, rows_unlines fun l hl => Piece.newline_not_mem_allLines hl]

theorem proper_tidy (text : String) : ∀ p ∈ tidy Piece.isBlank (Piece.ofText text), p.Proper :=
  fun p hp => Piece.proper_ofText text p (mem_of_mem_tidy hp)

theorem separatorPlaces_of_segment (h : segment file text = .rewritten d) :
    separatorPlaces d.text = d.contexts.map Context.lineIndex := by
  have hb := congrArg (List.map Prod.fst) (map_brief_of_segment h)
  simp only [List.map_map, Function.comp_def, Context.brief] at hb
  rw [separatorPlaces, rows_of_segment h, List.findIdxs_append,
    Piece.findIdxs_allLines file 0 (proper_tidy text)]
  simp only [List.findIdxs_singleton, Marker.isOn_empty, Bool.false_eq_true, if_false,
    List.append_nil]
  exact hb.symm

/-- The contexts begin with the opening headers, in page order. -/
theorem map_head?_of_segment (h : segment file text = .rewritten d) :
    d.contexts.map (fun c => c.lines.head?) = (openingHeaders (lines text)).map some := by
  have hb := congrArg (List.map fun b => b.2.2) (map_brief_of_segment h)
  simp only [List.map_map, Function.comp_def, Context.brief] at hb
  rw [hb, Piece.map_head?_contexts, Piece.filterMap_header?_tidy, Piece.filterMap_header?_ofText]

/-- Each context stands at a block of its own header. -/
theorem block_of_segment (h : segment file text = .rewritten d) {c : Context}
    (hc : c ∈ d.contexts) : Piece.Block false (rows d.text) c.lineIndex c.lines.head? := by
  have hm : c.brief ∈ d.contexts.map Context.brief := List.mem_map_of_mem hc
  rw [map_brief_of_segment h] at hm
  obtain ⟨c', hc', he⟩ := List.mem_map.1 hm
  have hs : Piece.Settled .start false (tidy Piece.isBlank (Piece.ofText text)) :=
    (Piece.settled_ofText text).tidy (.refl _)
  obtain ⟨i, hi, hh, hb⟩ := hs.block file 0 c' hc'
  rw [Nat.zero_add] at hi
  obtain ⟨header, hh⟩ := Option.isSome_iff_exists.1 hh
  simp only [Context.brief, Prod.mk.injEq] at he
  rw [hh] at hb
  rw [rows_of_segment h, ← he.1, ← he.2.2, hi, hh]
  exact hb.append_right [""]

/-- **Boundaries.** The separators of a marked text are as many as the opening headers of the page
and as the contexts. Each context stands at its separator: a line with the bare sentinel, below an
even number of fences and above an empty line and the opening header that comes first in the
context. -/
theorem separators_above_opening_headers (h : segment file text = .rewritten d) :
    (separatorPlaces d.text).length = (openingHeaders (lines text)).length ∧
      (separatorPlaces d.text).length = d.contexts.length ∧
      (∀ (k : Nat) (c : Context), d.contexts[k]? = some c →
        (separatorPlaces d.text)[k]? = some c.lineIndex ∧
        (rows d.text)[c.lineIndex]? = some Marker.separator.sentinel ∧
        (rows d.text)[c.lineIndex + 1]? = some "" ∧
        (rows d.text)[c.lineIndex + 2]? = (openingHeaders (lines text))[k]? ∧
        c.lines[0]? = (openingHeaders (lines text))[k]? ∧
        outsideCode (rows d.text) c.lineIndex = true) ∧
      d.contexts.Pairwise fun c c' => c.lineIndex < c'.lineIndex := by
  have hp := separatorPlaces_of_segment h
  have hh := map_head?_of_segment h
  have hn : d.contexts.length = (openingHeaders (lines text)).length := by
    simpa using congrArg List.length hh
  refine ⟨?_, ?_, ?_, ?_⟩
  · rw [hp, List.length_map, hn]
  · rw [hp, List.length_map]
  · intro k c hc
    have hb := block_of_segment h (List.mem_of_getElem? hc)
    have hk : (openingHeaders (lines text))[k]? = c.lines.head? := by
      have := congrArg (fun hs => hs[k]?) hh
      simp only [List.getElem?_map, hc, Option.map_some] at this
      cases ho : (openingHeaders (lines text))[k]? with
      | none => simp [ho] at this
      | some header => simpa [ho, eq_comm] using this
    have ho : outsideCode (rows d.text) c.lineIndex = true := by
      have := hb.outside
      rw [codeAfter_eq, Bool.false_xor, decide_eq_false_iff_not] at this
      rw [outsideCode, beq_iff_eq]
      omega
    exact ⟨by rw [hp, List.getElem?_map, hc]; rfl, hb.separator, hb.empty, hb.header.trans hk.symm,
      by rw [hk, List.head?_eq_getElem?], ho⟩
  · have hs : (separatorPlaces d.text).Pairwise (· < ·) := List.pairwise_findIdxs
    rwa [hp, List.pairwise_map] at hs

/-- A page with a separator of an earlier run, a shielded header and a header in a code block. -/
def mixedPage : String :=
  "[comment]: # (mx-context-auto)\n\n# A\n\n\n[comment]: # (mx-abstract)\n# B\n```\n# C\n```\n# D"

/-- The same page with its contexts marked. -/
def mixedDocument : Document :=
  { text := "[comment]: # (mx-context-auto)\n\n# A\n\n[comment]: # (mx-abstract)\n# B\n" ++
      "```\n# C\n```\n[comment]: # (mx-context-auto)\n\n# D\n"
    contexts := [⟨"page.md", 0, ["# A", "", "", "# B", "```", "# C", "```"]⟩, ⟨"page.md", 9, ["# D"]⟩] }

theorem separators_above_opening_headers_mixed :
    segment "page.md" mixedPage = .rewritten mixedDocument ∧
      (separatorPlaces mixedDocument.text).length = (openingHeaders (lines mixedPage)).length ∧
      (rows mixedDocument.text)[11]? = (openingHeaders (lines mixedPage))[1]? ∧
      (openingHeaders (lines mixedPage))[1]? = some "# D" := by
  have h : segment "page.md" mixedPage = .rewritten mixedDocument := by decide
  obtain ⟨hn, -, hk, -⟩ := separators_above_opening_headers h
  obtain ⟨-, -, -, hh, hf, -⟩ := hk 1 ⟨"page.md", 9, ["# D"]⟩ rfl
  exact ⟨h, hn, hh, hf.symm⟩

end PagePrep
