import PagePrep.Proofs.Region.RepeatedBuild

/-!
# Filling a page again

A filled page can be filled again, and keeps its addresses, just where the content holds no line that
opens or closes regions itself (`Content.refill_iff`). A page with `n` regions has `n` lines that open
and `n` lines that close one, and each further such line upsets a count.
-/

set_option autoImplicit false

namespace PagePrep

open Text

/-! ## Addresses behind a carriage return -/

theorem commentText_chomp (line : String) : commentText (chomp line) = commentText line := by
  rcases toList_chomp line with he | he
  · rw [String.toList_injective he.symm]
  · have ho := toList_replaceAll_concat "<!--" "" (by decide) (by decide) he
    have hc := toList_replaceAll_concat "-->" "" (by decide) (by decide) ho
    exact (trim_concat (by decide) hc).symm

theorem addressOfLine_chomp (line : String) : addressOfLine (chomp line) = addressOfLine line := by
  unfold addressOfLine
  rw [commentText_chomp]

theorem mapM_addressOfLine_map_chomp (ls : List String) :
    (ls.map chomp).mapM addressOfLine = ls.mapM addressOfLine := by
  induction ls with
  | nil => rfl
  | cons l ls ih => rw [List.map_cons, List.mapM_cons, List.mapM_cons, addressOfLine_chomp, ih]

namespace Content

theorem linesFor_chomp (c : Content) (line : String) : c.linesFor (chomp line) = c.linesFor line := by
  rw [linesFor, linesFor, RegionKind.linesFor, RegionKind.linesFor, addressOfLine_chomp]

theorem bodyFor_chomp (c : Content) (line : String) : c.bodyFor (chomp line) = c.bodyFor line := by
  show ((c.linesFor (chomp line)).toOption).getD [] = _
  rw [linesFor_chomp]
  rfl

end Content

/-! ## Lines that open and close regions -/

namespace RegionKind

variable {kind : RegionKind}

/-- A line that closes a region and opens none. -/
def onlyCloses (kind : RegionKind) (line : String) : Bool := !kind.opens line && kind.closes line

/-- Of the two lines around a region exactly one is counted, and no line elsewhere. -/
structure CountsRegions (kind : RegionKind) (p : String → Bool) : Prop where
  plain : ∀ l, kind.isPlain l = true → p l = false
  pair : ∀ o c, kind.opens o = true → kind.opens c = false → kind.closes c = true →
    [o, c].countP p = 1

theorem countsRegions_opens (kind : RegionKind) : kind.CountsRegions kind.opens where
  plain := fun l h => (isPlain_eq_true_iff.1 h).1
  pair := fun o c ho hc _ => by simp [ho, hc]

theorem countsRegions_onlyCloses (kind : RegionKind) : kind.CountsRegions kind.onlyCloses where
  plain := fun l h => by simp [onlyCloses, isPlain_eq_true_iff.1 h]
  pair := fun o c ho hc hc' => by simp [onlyCloses, ho, hc, hc']

end RegionKind

namespace Layout

variable {kind : RegionKind} {L : Layout} {p : String → Bool} {body : String → List String}

theorem countP_plain (h : kind.CountsRegions p) {ls : List String}
    (hl : ∀ l ∈ ls, kind.isPlain l = true) : ls.countP p = 0 := by
  rw [List.countP_eq_zero]
  intro l hm
  simp [h.plain l (hl l hm)]

theorem filter_opens_plain {ls : List String} (hl : ∀ l ∈ ls, kind.isPlain l = true) :
    ls.filter kind.opens = [] := by
  rw [List.filter_eq_nil_iff]
  intro l hm
  simp [(RegionKind.isPlain_eq_true_iff.1 (hl l hm)).1]

/-- The lines that open regions are the opening lines of the layout. -/
theorem filter_opens_lines (hL : L.Fits kind) : L.lines.filter kind.opens = L.openings := by
  induction hL with
  | page hp => exact filter_opens_plain hp
  | region ha ho hi hn _ _ ih =>
    simp [lines, openings, filter_opens_plain ha, filter_opens_plain hi, ho, hn, ih]

/-- There are as many lines to count as regions. -/
theorem countP_lines (h : kind.CountsRegions p) (hL : L.Fits kind) :
    L.lines.countP p = L.openings.length := by
  induction hL with
  | page hp => exact countP_plain h hp
  | @region above opening inner closing rest ha ho hi hn hc _ ih =>
    have hpair := h.pair opening closing ho hn hc
    simp only [List.countP_cons, List.countP_nil] at hpair
    simp only [lines, openings, List.countP_append, List.countP_cons, countP_plain h ha,
      countP_plain h hi, ih, List.length_cons]
    omega

/-- In a filled layout there are at least as many, and if no more, then none of them fills a region. -/
theorem countP_lines_fill (h : kind.CountsRegions p) (hL : L.Fits kind) :
    L.openings.length ≤ (L.fill body).lines.countP p ∧
      ((L.fill body).lines.countP p = L.openings.length →
        ∀ o ∈ L.openings, ∀ l ∈ body o, p l = false) := by
  induction hL with
  | page hp => exact ⟨Nat.zero_le _, fun _ o ho => by cases ho⟩
  | @region above opening inner closing rest ha ho hi hn hc _ ih =>
    obtain ⟨hle, heq⟩ := ih
    have hpair := h.pair opening closing ho hn hc
    have hcount : ((region above opening inner closing rest).fill body).lines.countP p =
        (body opening).countP p + (rest.fill body).lines.countP p + 1 := by
      simp only [List.countP_cons, List.countP_nil] at hpair
      simp only [fill, lines, List.countP_append, List.countP_cons, countP_plain h ha]
      omega
    refine ⟨by rw [hcount, openings, List.length_cons]; omega, ?_⟩
    intro hn
    rw [hcount, openings, List.length_cons] at hn
    have hb : (body opening).countP p = 0 := by omega
    intro o hom l hl
    rcases List.mem_cons.1 hom with rfl | hom
    · simpa using List.countP_eq_zero.1 hb l hl
    · exact heq (by omega) o hom l hl

end Layout

/-! ## Addresses -/

namespace Content

open RegionKind

variable {c : Content} {text filled : String} {L : Layout}

/-- A line that content is found for gives an address. -/
theorem exists_addressOfLine {o : String} {ls : List String} (h : c.linesFor o = .ok ls) :
    ∃ url, addressOfLine o = .ok url := by
  obtain ⟨url, hu, -⟩ := bind_eq_ok_iff.1 h
  cases ha : addressOfLine o with
  | error f =>
    rw [ha] at hu
    cases hu
  | ok url => exact ⟨url, rfl⟩

section Filled

variable (hL : L.Fits c.kind) (hl : L.lines = lines text)
  (hb : ∀ o ∈ L.openings, c.linesFor o = .ok (c.bodyFor o))

include hL hl in
theorem filter_opens_eq_openings : (lines text).filter c.kind.opens = L.openings :=
  hl ▸ Layout.filter_opens_lines hL

include hl hb in
/-- What a filled page is read back as. -/
theorem lines_filled_eq :
    lines (unlines (L.fill c.bodyFor).lines) = (L.fill c.bodyFor).lines.map chomp := by
  apply lines_unlines
  intro l hm
  rcases Layout.mem_lines_fill.1 hm with hm | ⟨o, ho, hm⟩
  · exact newline_not_mem_of_mem_lines (hl ▸ Layout.mem_lines_of_mem_outside hm)
  · exact newline_not_mem_linesFor (hb o ho) hm

include hl hb in
/-- Reading a filled page back keeps the number of lines of a sort that does not depend on carriage
returns. -/
theorem countP_lines_filled {p : String → Bool} (hp : ∀ l, p (chomp l) = p l) :
    (lines (unlines (L.fill c.bodyFor).lines)).countP p = (L.fill c.bodyFor).lines.countP p := by
  rw [lines_filled_eq hl hb, List.countP_map]
  exact List.countP_congr fun l _ => by rw [Function.comp_apply, hp]

include hL hl hb in
/-- With as many addresses as before, there are as many lines that open a region. -/
theorem countP_opens_filled
    (ha : c.kind.addresses (unlines (L.fill c.bodyFor).lines) = c.kind.addresses text) :
    (L.fill c.bodyFor).lines.countP c.kind.opens = L.openings.length := by
  have hopens := filter_opens_eq_openings hL hl
  obtain ⟨us, hus⟩ : ∃ us, c.kind.addresses text = .ok us := by
    rw [addresses, hopens]
    exact exists_mapM_eq_ok fun o ho => exists_addressOfLine (hb o ho)
  have hr := length_of_mapM_eq_ok (ha.trans hus)
  have ht := length_of_mapM_eq_ok hus
  rw [← countP_lines_filled hl hb (opens_chomp _), List.countP_eq_length_filter, ← hr, ht, hopens]

include hl hb in
/-- A filled page that can be filled has a layout, so as many lines that close a region as lines that
open one. -/
theorem countP_onlyCloses_filled {again : String}
    (hf : c.fill (unlines (L.fill c.bodyFor).lines) = .ok again) :
    (L.fill c.bodyFor).lines.countP c.kind.onlyCloses =
      (L.fill c.bodyFor).lines.countP c.kind.opens := by
  obtain ⟨K, hK, hKl, -, -⟩ := fill_eq_ok_iff.1 hf
  have hc (l : String) : c.kind.onlyCloses (chomp l) = c.kind.onlyCloses l := by
    rw [onlyCloses, onlyCloses, opens_chomp, closes_chomp]
  rw [← countP_lines_filled hl hb hc, ← countP_lines_filled hl hb (opens_chomp _), ← hKl,
    Layout.countP_lines (countsRegions_onlyCloses _) hK,
    Layout.countP_lines (countsRegions_opens _) hK]

include hL hl hb in
/-- If the addresses are kept and the page can be filled again, then no line that fills a region upsets
a count. -/
theorem isPlain_of_refilled {again : String}
    (ha : c.kind.addresses (unlines (L.fill c.bodyFor).lines) = c.kind.addresses text)
    (hf : c.fill (unlines (L.fill c.bodyFor).lines) = .ok again) :
    ∀ o ∈ L.openings, ∀ l ∈ c.bodyFor o, c.kind.isPlain l = true := by
  have hn := countP_opens_filled hL hl hb ha
  have hn' := (countP_onlyCloses_filled hl hb hf).trans hn
  intro o ho l hlm
  have hlo := (Layout.countP_lines_fill (countsRegions_opens _) hL).2 hn o ho l hlm
  have hlc := (Layout.countP_lines_fill (countsRegions_onlyCloses _) hL).2 hn' o ho l hlm
  exact isPlain_eq_true_iff.2 ⟨hlo, by simpa [onlyCloses, hlo] using hlc⟩

include hL hl hb in
/-- If each line that fills a region is plain, then the filled page has the layout of the page, and
its addresses. -/
theorem refilled_of_isPlain (hp : ∀ o ∈ L.openings, ∀ l ∈ c.bodyFor o, c.kind.isPlain l = true) :
    c.kind.addresses (unlines (L.fill c.bodyFor).lines) = c.kind.addresses text ∧
      ∃ again, c.fill (unlines (L.fill c.bodyFor).lines) = .ok again := by
  let K := (L.fill c.bodyFor).map chomp
  have hK : K.Fits c.kind := Layout.fits_map_chomp (hL.fill hp)
  have hKl : K.lines = lines (unlines (L.fill c.bodyFor).lines) := by
    rw [lines_filled_eq hl hb, Layout.lines_map]
  have hKo : K.openings = L.openings.map chomp := by
    rw [Layout.map_openings, Layout.openings_fill]
  constructor
  · rw [addresses, addresses, filter_opens_eq_openings hL hl, filter_opens_eq_openings hK hKl, hKo,
      mapM_addressOfLine_map_chomp]
  · refine ⟨_, fill_eq_ok_iff.2 ⟨K, hK, hKl, ?_, rfl⟩⟩
    rw [hKo]
    intro o ho
    obtain ⟨k, hk, rfl⟩ := List.mem_map.1 ho
    rw [linesFor_chomp, bodyFor_chomp, hb k hk]

end Filled

/-- **Filling a page again.** The filled page has the addresses of the page and can be filled again
with the same content just where this content has no line that opens or closes regions. -/
theorem refill_iff (h : c.fill text = .ok filled) :
    (c.kind.addresses filled = c.kind.addresses text ∧ ∃ again, c.fill filled = .ok again) ↔
      ∀ o ∈ lines text, c.kind.opens o = true → ∀ ls, c.linesFor o = .ok ls →
        ∀ l ∈ ls, c.kind.opens l = false ∧ c.kind.closes l = false := by
  obtain ⟨L, hL, hl, hb, rfl⟩ := fill_eq_ok_iff.1 h
  have hopens (o : String) : o ∈ L.openings ↔ o ∈ lines text ∧ c.kind.opens o = true := by
    rw [← filter_opens_eq_openings hL hl, List.mem_filter]
  constructor
  · rintro ⟨ha, again, hf⟩ o hot ho ls hls l hlm
    have hom := (hopens o).2 ⟨hot, ho⟩
    obtain rfl : c.bodyFor o = ls := Except.ok.inj ((hb o hom).symm.trans hls)
    exact isPlain_eq_true_iff.1 (isPlain_of_refilled hL hl hb ha hf o hom l hlm)
  · intro hp
    apply refilled_of_isPlain hL hl hb
    intro o hom l hlm
    obtain ⟨hot, ho⟩ := (hopens o).1 hom
    exact isPlain_eq_true_iff.2 (hp o hot ho _ (hb o hom) l hlm)

/-- The page with a code block, filled and filled again. -/
theorem refill_iff_part :
    ∃ filled, partContent.fill partPage = .ok filled ∧
      partContent.kind.addresses filled = partContent.kind.addresses partPage ∧
      ∃ again, partContent.fill filled = .ok again := by
  have h : partContent.fill partPage = .ok
      ("# A\n<!-- BEGIN_INCLUDE_FILE \x7b\"url\":\"file:///part.md\"\x7d -->\n\n\n# B\n" ++
        "\x60\x60\x60\n\n<!-- END_INCLUDE_FILE -->\n# C\n") :=
    eq_ok_of_toOption (by decide +kernel)
  have hp : ∀ o ∈ lines partPage, partContent.kind.opens o = true → ∀ l ∈ partContent.bodyFor o,
      partContent.kind.opens l = false ∧ partContent.kind.closes l = false := by decide +kernel
  refine ⟨_, h, (refill_iff h).2 ?_⟩
  intro o ho hop ls hls
  obtain rfl : partContent.bodyFor o = ls :=
    Except.ok.inj ((linesFor_eq_bodyFor hls).symm.trans hls)
  exact hp o ho hop

/-! ## A fragment that closes its region -/

/-- A fragment with a line that closes a region. -/
def closingContent : Content :=
  .fragments [(⟨"file", some ⟨"", "", .name "", none⟩, .steps ["part.md"], none, none⟩,
    "END_INCLUDE_FILE\n")]

/-- A page with an empty region for this fragment. -/
def emptyRegionPage : String :=
  "<!-- BEGIN_INCLUDE_FILE \x7b\"url\":\"file:///part.md\"\x7d -->\n<!-- END_INCLUDE_FILE -->\n"

/-- Filled with the fragment, the page cannot be filled again: the line that closed the region before is
left over. -/
theorem refill_closing_fragment :
    ∃ filled, closingContent.fill emptyRegionPage = .ok filled ∧
      closingContent.fill filled = .error (.strayEnd .fragment 4) := by
  refine ⟨"<!-- BEGIN_INCLUDE_FILE \x7b\"url\":\"file:///part.md\"\x7d -->\nEND_INCLUDE_FILE\n\n" ++
    "<!-- END_INCLUDE_FILE -->\n", eq_ok_of_toOption (by decide +kernel), ?_⟩
  decide +kernel

end Content

end PagePrep
