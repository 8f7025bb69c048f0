import PagePrep.Proofs.Page.MarkedText
import PagePrep.Proofs.Region.Rebuild

/-!
# Repeated builds

A build fills the regions of a page and marks its contexts. A second build from the same remote
content finds marked lines outside of regions and puts the unmarked ones back inside. It makes the
same page of them.
-/

set_option autoImplicit false

namespace PagePrep

open Text

/-- What was fetched for the regions of one kind. -/
inductive Content where
  /-- Page fragments. -/
  | fragments (fetched : Fetched String)
  /-- Notebooks, for a site with the given root. -/
  | notebooks (root : String) (fetched : Fetched Notebook)

namespace Content

/-- The kind of the regions. -/
def kind : Content → RegionKind
  | fragments _ => .fragment
  | notebooks _ _ => .notebook

/-- The page with the content in its regions. -/
def fill : Content → String → Except RegionFault String
  | fragments fetched, text => fillFragments fetched text
  | notebooks root fetched, text => fillNotebooks root fetched text

/-- The lines for an address. -/
def linesAt : Content → Url → Except RegionFault (List String)
  | fragments fetched => fetched.fill .fragment fragmentLines
  | notebooks root fetched => fetched.fill .notebook (Notebook.pageLines root)

/-- The lines for the region that a line opens. -/
def linesFor (c : Content) (line : String) : Except RegionFault (List String) :=
  RegionKind.linesFor id c.linesAt line

/-- The page with the content in its regions and its contexts marked. -/
def build (c : Content) (file text : String) : Except RegionFault String :=
  (c.fill text).map (markedText file)

/-- The same lines, or none if the line gives no address with content. -/
def bodyFor (c : Content) (line : String) : List String := RegionKind.bodyFor id c.linesAt line

/-- The same lines as they are read back from the filled page. -/
def bodyRead (c : Content) (line : String) : List String := (c.bodyFor line).map chomp

variable {c : Content} {file text : String} {L : Layout}

theorem fill_eq_ok_iff {s : String} :
    c.fill text = .ok s ↔ ∃ L : Layout, L.Fits c.kind ∧ L.lines = lines text ∧
      (∀ o ∈ L.openings, c.linesFor o = .ok (c.bodyFor o)) ∧
      unlines (L.fill c.bodyFor).lines = s := by
  have hf : c.fill text = (c.kind.fillFrom id c.linesAt none 1 (lines text)).map unlines := by
    cases c <;> rfl
  rw [hf, map_eq_ok_iff]
  simp only [RegionKind.fillFrom_eq_ok_iff]
  constructor
  · rintro ⟨_, ⟨L, hL, hl, hb, rfl⟩, rfl⟩
    exact ⟨L, hL, hl, hb, rfl⟩
  · rintro ⟨L, hL, hl, hb, rfl⟩
    exact ⟨_, ⟨L, hL, hl, hb, rfl⟩, rfl⟩

/-- Content fills a region with lines of a text, and maybe an empty one. -/
theorem newline_not_mem_linesFor {o l : String} {ls : List String} (h : c.linesFor o = .ok ls)
    (hl : l ∈ ls) : '\n' ∉ l.toList := by
  obtain ⟨url, -, h⟩ := bind_eq_ok_iff.1 h
  cases c with
  | fragments fetched =>
    obtain ⟨body, -, rfl⟩ := Fetched.fill_eq_ok_iff.1 h
    rcases List.mem_append.1 hl with hl | hl
    · exact newline_not_mem_of_mem_lines hl
    · rw [List.mem_singleton.1 hl]
      decide
  | notebooks root fetched =>
    obtain ⟨n, -, rfl⟩ := Fetched.fill_eq_ok_iff.1 h
    exact newline_not_mem_of_mem_lines hl

/-! ## Pages that can be filled again -/

/-- There is something to fill each region with, which neither opens nor closes a region, and the
lines outside of regions are read back as they are written. -/
structure Suits (c : Content) (L : Layout) : Prop where
  fits : L.Fits c.kind
  filled : ∀ o ∈ L.openings, c.linesFor o = .ok (c.bodyFor o)
  plain : ∀ o ∈ L.openings, ∀ l ∈ c.bodyFor o, c.kind.isPlain l = true
  outside : ∀ l ∈ L.outside, '\n' ∉ l.toList ∧ chomp l = l

namespace Suits

variable (h : c.Suits L)
include h

theorem fill (ht : lines text = L.lines) : c.fill text = .ok (unlines (L.fill c.bodyFor).lines) :=
  fill_eq_ok_iff.2 ⟨L, h.fits, ht.symm, h.filled, rfl⟩

theorem newline_not_mem {l : String} (hl : l ∈ (L.fill c.bodyFor).lines) : '\n' ∉ l.toList := by
  rcases Layout.mem_lines_fill.1 hl with hl | ⟨o, ho, hl⟩
  · exact (h.outside l hl).1
  · exact newline_not_mem_linesFor (h.filled o ho) hl

/-- A filled page is read back with the same layout. -/
theorem lines_filled : lines (unlines (L.fill c.bodyFor).lines) = (L.fill c.bodyRead).lines := by
  rw [lines_unlines fun l hl => h.newline_not_mem hl,
    Layout.map_lines_fill fun l hl => (h.outside l hl).2]
  rfl

theorem plain_read : ∀ o ∈ L.openings, ∀ l ∈ c.bodyRead o, c.kind.isPlain l = true := by
  intro o ho l hl
  obtain ⟨k, hk, rfl⟩ := List.mem_map.1 hl
  rw [RegionKind.isPlain_chomp, h.plain o ho k hk]

/-- A filled page can be filled again. -/
theorem fill_read : c.Suits (L.fill c.bodyRead) where
  fits := h.fits.fill h.plain_read
  filled := by rw [Layout.openings_fill]; exact h.filled
  plain := by rw [Layout.openings_fill]; exact h.plain
  outside := by rw [Layout.outside_fill]; exact h.outside

/-- So can a page without the carriage returns at the ends of its lines. -/
theorem map_chomp : c.Suits (L.map chomp) where
  fits := Layout.fits_map_chomp h.fits
  filled := by rw [Layout.openings_map fun l hl => (h.outside l hl).2]; exact h.filled
  plain := by rw [Layout.openings_map fun l hl => (h.outside l hl).2]; exact h.plain
  outside := by
    rw [Layout.outside_map]
    intro l hl
    obtain ⟨k, hk, rfl⟩ := List.mem_map.1 hl
    rw [(h.outside k hk).2]
    exact h.outside k hk

/-- After marking, the page can be filled again, and is then read into the same pieces. Filling
brings no line to it that was not there but for the blocks of separators. -/
theorem exists_rebuilt
    (hs : L.lines.IsChain fun k l => c.kind.opens l = true → Marker.separator.isOn k = false) :
    ∃ K : Layout, c.Suits K ∧
      K.lines = Piece.allLines (Piece.tidied .start false (L.fill c.bodyRead).lines) ∧
      Piece.tidied .start false (K.fill c.bodyRead).lines =
        Piece.tidied .start false (L.fill c.bodyRead).lines ∧
      ∀ k ∈ (K.fill c.bodyFor).lines, k ∈ (L.fill c.bodyFor).lines ∨
        k = Marker.separator.sentinel ∨ k = "" := by
  obtain ⟨K, hK, ho, hout, hl, hr⟩ := Layout.exists_rebuilt h.fits h.plain_read hs .start false
  refine ⟨K, ⟨hK, ?_, ?_, ?_⟩, hl, hr, ?_⟩
  · rw [ho]
    exact h.filled
  · rw [ho]
    exact h.plain
  · intro l hm
    rcases hout l hm with hm | rfl | rfl
    · exact h.outside l hm
    · decide
    · decide
  · intro k hk
    rcases Layout.mem_lines_fill.1 hk with hk | ⟨o, hm, hk⟩
    · exact (hout k hk).imp_left fun hk => Layout.mem_lines_fill.2 (.inl hk)
    · exact .inl (Layout.mem_lines_fill.2 (.inr ⟨o, ho ▸ hm, hk⟩))

/-- The marked page can be filled, and marking brings it back. -/
theorem fill_markedText
    (hs : L.lines.IsChain fun k l => c.kind.opens l = true → Marker.separator.isOn k = false)
    (file : String) :
    ∃ filled, c.fill (markedText file (unlines (L.fill c.bodyFor).lines)) = .ok filled ∧
      markedText file filled = markedText file (unlines (L.fill c.bodyFor).lines) := by
  cases hx : isExcluded (unlines (L.fill c.bodyFor).lines) with
  | true =>
    refine ⟨unlines (L.fill c.bodyFor).lines, ?_, rfl⟩
    rw [markedText_of_isExcluded hx, h.fill_read.fill h.lines_filled, Layout.fill_fill]
  | false =>
    obtain ⟨K, hK, hl, hr, hm⟩ := h.exists_rebuilt hs
    have ht : markedText file (unlines (L.fill c.bodyFor).lines) = unlines K.lines := by
      rw [markedText_of_not_isExcluded hx, h.lines_filled, hl]
    have hread : lines (unlines K.lines) = (K.map chomp).lines := by
      rw [Layout.lines_map, lines_unlines]
      intro l hm
      rw [hl, ← h.lines_filled] at hm
      exact Piece.newline_not_mem_allLines hm
    have hx' : isExcluded (unlines (K.fill c.bodyFor).lines) = false := by
      apply isExcluded_unlines hm
      intro l hl
      rw [Bool.eq_false_iff]
      intro hc
      rw [isExcluded, (contains_unlines_iff (by decide) (by decide)).2 ⟨l, hl, hc⟩] at hx
      cases hx
    refine ⟨unlines (K.fill c.bodyFor).lines, ?_, ?_⟩
    · rw [ht, hK.map_chomp.fill hread, Layout.fill_map fun l hl => (hK.outside l hl).2]
    · rw [markedText_of_not_isExcluded hx', hK.lines_filled, hr, ht, hl]

end Suits

/-- **A repeated build** from the same content succeeds and keeps the page. Only carriage returns
at the ends of the page's lines, separators directly above regions, and content that opens or
closes regions itself are ruled out. -/
theorem build_of_built {built : String}
    (hr : ∀ l ∈ lines text, l.toList.getLast? ≠ some '\r')
    (hs : (lines text).IsChain fun k l => c.kind.opens l = true → Marker.separator.isOn k = false)
    (hb : ∀ o ∈ lines text, c.kind.opens o = true → ∀ ls, c.linesFor o = .ok ls →
      ∀ l ∈ ls, c.kind.opens l = false ∧ c.kind.closes l = false)
    (h : c.build file text = .ok built) :
    (∃ filled, c.fill built = .ok filled) ∧ c.build file built = .ok built := by
  obtain ⟨s, hf, rfl⟩ := map_eq_ok_iff.1 h
  obtain ⟨L, hL, hl, hfill, rfl⟩ := fill_eq_ok_iff.1 hf
  have hsuits : c.Suits L := by
    refine ⟨hL, hfill, ?_, ?_⟩
    · intro o ho l hm
      have ho' : o ∈ lines text :=
        hl ▸ Layout.mem_lines_of_mem_outside (Layout.mem_outside_of_mem_openings ho)
      apply RegionKind.isPlain_eq_true_iff.2
      exact hb o ho' (Layout.opens_of_mem_openings hL ho) _ (hfill o ho) l hm
    · intro l hm
      have hm' : l ∈ lines text := hl ▸ Layout.mem_lines_of_mem_outside hm
      exact ⟨newline_not_mem_of_mem_lines hm', chomp_eq_self (hr l hm')⟩
  obtain ⟨filled, hf', hm⟩ := hsuits.fill_markedText (hl ▸ hs) file
  exact ⟨⟨filled, hf'⟩, map_eq_ok_iff.2 ⟨filled, hf', hm⟩⟩

/-! ## A page with a fragment -/

/-- A fragment with a header and a code block that it does not close. -/
def partContent : Content :=
  .fragments [(⟨"file", some ⟨"", "", .name "", none⟩, .steps ["part.md"], none, none⟩,
    "\n\n# B\n\x60\x60\x60")]

/-- A page with a region for this fragment, which another fragment filled before. -/
def partPage : String :=
  "# A\n<!-- BEGIN_INCLUDE_FILE \x7b\"url\":\"file:///part.md\"\x7d -->\nold\n" ++
    "<!-- END_INCLUDE_FILE -->\n# C\n"

/-- The page with the fragment, marked. The last header stands in the code block. -/
def partBuilt : String :=
  "[comment]: # (mx-context-auto)\n\n# A\n" ++
    "<!-- BEGIN_INCLUDE_FILE \x7b\"url\":\"file:///part.md\"\x7d -->\n\n" ++
    "[comment]: # (mx-context-auto)\n\n# B\n\x60\x60\x60\n\n<!-- END_INCLUDE_FILE -->\n# C\n"

theorem build_of_built_part :
    partContent.build "page.md" partPage = .ok partBuilt ∧
      partContent.build "page.md" partBuilt = .ok partBuilt := by
  have h : partContent.build "page.md" partPage = .ok partBuilt :=
    eq_ok_of_toOption (by decide +kernel)
  have hb : ∀ o ∈ lines partPage, partContent.kind.opens o = true → ∀ l ∈ partContent.bodyFor o,
      partContent.kind.opens l = false ∧ partContent.kind.closes l = false := by decide +kernel
  refine ⟨h, (build_of_built (by decide) (by decide) ?_ h).2⟩
  intro o ho hop ls hls
  obtain rfl : partContent.bodyFor o = ls :=
    Except.ok.inj ((RegionKind.linesFor_eq_bodyFor hls).symm.trans hls)
  exact hb o ho hop

end Content

end PagePrep
