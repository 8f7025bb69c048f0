import PagePrep.Proofs.Notebook.CellLines
import PagePrep.Proofs.Page.Boundary
import PagePrep.Proofs.Region.Refilling

/-!
# Code cells on a page

A filled page shows each notebook between the lines of its region (`exists_notebookPlace`). Where the
fences above pair off, and those of the cells do, a header in a code cell stands in a code block, and below
the notebook the page goes on as if the region were empty (`code_cells_open_no_context`). A code cell is
written between fences whatever it holds, so that a fence in its code ends the block, and a header looks
two lines back whatever these are, so that a marker at the end of a notebook reaches the first line below
(`notebooks_reach_beyond_blocks`).
-/

set_option autoImplicit false

namespace PagePrep

open Text

/-! ## Where a notebook is shown -/

/-- The place of a notebook on a filled page: the region that the line `opening` opens, which `above`
stands above on the page. -/
structure NotebookPlace (root : String) (fetched : Fetched Notebook) (above : List String)
    (opening filled : String) where
  url : Url
  notebook : Notebook
  /-- The regions above. -/
  upper : Layout
  closing : String
  below : List String
  address : addressOfLine opening = .ok url
  content : fetched.get? url = some notebook
  upper_fits : upper.Fits .notebook
  upper_lines : upper.lines = above
  closes : RegionKind.notebook.closes closing = true
  /-- The regions above are filled, then comes the notebook. -/
  lines_filled : lines filled =
    (upper.fill (Content.notebooks root fetched).bodyFor).lines.map chomp ++ chomp opening ::
      ((notebook.pageLines root).map chomp ++ closing :: below)

theorem exists_notebookPlace {root text filled opening : String} {fetched : Fetched Notebook}
    {above rest : List String} (h : fillNotebooks root fetched text = .ok filled)
    (hl : lines text = above ++ opening :: rest) (ho : RegionKind.notebook.opens opening = true) :
    Nonempty (NotebookPlace root fetched above opening filled) := by
  let c := Content.notebooks root fetched
  obtain ⟨L, hL, hlines, hb, rfl⟩ := (Content.fill_eq_ok_iff (c := c)).1 h
  obtain ⟨upper, closing, lower, hu, hul, hc, hf⟩ := hL.exists_split (hlines.trans hl) ho
  have hm : opening ∈ L.openings := by
    rw [← Content.filter_opens_eq_openings hL hlines, List.mem_filter, hl]
    exact ⟨by simp, ho⟩
  obtain ⟨url, ha, hbody⟩ := bind_eq_ok_iff.1 (hb opening hm)
  obtain ⟨n, hn, hlinesFor⟩ := Fetched.fill_eq_ok_iff.1 hbody
  refine ⟨⟨url, n, upper, chomp closing, (lower.fill c.bodyFor).lines.map chomp, ?_, hn, hu, hul, ?_,
    ?_⟩⟩
  · cases hao : addressOfLine opening with
    | error f =>
      rw [hao] at ha
      cases ha
    | ok url' =>
      rw [hao] at ha
      exact ha
  · exact (RegionKind.closes_chomp .notebook closing).trans hc
  · rw [Content.lines_filled_eq hlines hb, hf, hlinesFor]
    simp only [List.map_append, List.map_cons]
    rfl

namespace NotebookPlace

variable {root filled opening : String} {fetched : Fetched Notebook} {above : List String}
  (p : NotebookPlace root fetched above opening filled)

/-- The lines of the filled page up to the one that opens the region. -/
def upTo : List String :=
  (p.upper.fill (Content.notebooks root fetched).bodyFor).lines.map chomp ++ [chomp opening]

/-- The lines of the filled page if the region were empty. -/
def emptied : List String := p.upTo ++ p.closing :: p.below

theorem lines_eq :
    lines filled = p.upTo ++ ((p.notebook.pageLines root).map chomp ++ p.closing :: p.below) := by
  rw [p.lines_filled, upTo, List.append_assoc]
  rfl

/-- A header in a code cell stands in a code block. -/
theorem not_opensAt_code (hu : fencesPair p.upTo = true) {earlier later : List Cell} {c : Cell}
    (hn : p.notebook.cells = earlier ++ c :: later)
    (hm : ∀ e ∈ earlier, e.kind = "markdown" → fencesPair (e.pageLines root) = true)
    (hc : c.kind = "code") {k : Nat} {line : String} (hk : (c.pageLines root)[k]? = some line) :
    (lines filled)[p.upTo.length + (earlier.flatMap (Cell.pageLines root)).length + k]? =
        some (chomp line) ∧
      (fencesPair (codeLinesOf earlier ++ c.codeLines.take (k - 2)) = true →
        opensAt (lines filled)
          (p.upTo.length + (earlier.flatMap (Cell.pageLines root)).length + k) = false) := by
  -- the lines above this one
  let front := p.upTo ++ ((earlier.flatMap (Cell.pageLines root)).map chomp ++
    ((c.pageLines root).take k).map chomp)
  have hlt : k < (c.pageLines root).length := (List.getElem?_eq_some_iff.1 hk).1
  have hlen : front.length =
      p.upTo.length + (earlier.flatMap (Cell.pageLines root)).length + k := by
    simp only [front, List.length_append, List.length_map, List.length_take]
    omega
  obtain ⟨back, hback⟩ : ∃ back, lines filled = front ++ chomp line :: back := by
    have hcell : c.pageLines root =
        (c.pageLines root).take k ++ line :: (c.pageLines root).drop (k + 1) := by
      conv_lhs => rw [← List.take_append_drop k (c.pageLines root), List.drop_eq_getElem_cons hlt,
        (List.getElem?_eq_some_iff.1 hk).2]
    have hall : p.notebook.pageLines root = earlier.flatMap (Cell.pageLines root) ++
        ((c.pageLines root).take k ++ line :: (c.pageLines root).drop (k + 1)) ++
          later.flatMap (Cell.pageLines root) := by
      rw [← hcell, Notebook.pageLines_eq, hn, List.flatMap_append, List.flatMap_cons,
        List.append_assoc]
    refine ⟨((c.pageLines root).drop (k + 1)).map chomp ++
      ((later.flatMap (Cell.pageLines root)).map chomp ++ p.closing :: p.below), ?_⟩
    simp only [p.lines_eq, hall, front, List.map_append, List.map_cons, List.append_assoc,
      List.cons_append]
  rw [← hlen, hback]
  refine ⟨by simp, fun hp => ?_⟩
  rw [opensAt_above, isHeader_chomp]
  cases hh : isHeader line with
  | false => rfl
  | true =>
    obtain ⟨i, rfl, hi⟩ := Cell.exists_codeLine hc hk hh
    rw [Nat.add_sub_cancel, fencesPair_append, beq_iff_eq] at hp
    have hfront : fencesPair front = false := by
      rw [fencesPair_append, fencesPair_append, hu, fencesPair_map_chomp, fencesPair_cells hm, hp,
        fencesPair_map_chomp, hi]
      cases fencesPair (c.codeLines.take i) <;> rfl
    rw [codeAfter_eq_xor, hfront]
    rfl

theorem not_shields_upTo (ho : RegionKind.notebook.opens opening = true) :
    p.upTo.getLast?.any shields = false := by
  have hp := RegionKind.not_isPlain_of_opens ho
  rw [upTo, List.getLast?_concat, Option.any_some, shields_chomp, shields,
    RegionKind.not_isOn_of_not_isPlain _ hp, RegionKind.not_isOn_of_not_isPlain _ hp]
  rfl

/-- No code block is open behind a notebook just where its fences pair off. -/
theorem outsideCode_closing (hu : fencesPair p.upTo = true) :
    outsideCode (lines filled) (p.upTo.length + (p.notebook.pageLines root).length) =
      fencesPair (p.notebook.pageLines root) := by
  have ht : (lines filled).take (p.upTo.length + (p.notebook.pageLines root).length) =
      p.upTo ++ (p.notebook.pageLines root).map chomp := by
    rw [p.lines_eq, ← List.append_assoc]
    exact List.take_left' (by simp)
  show fencesPair ((lines filled).take _) = _
  rw [ht, fencesPair_append, fencesPair_map_chomp, hu]
  exact Bool.true_beq _

/-- Then the page goes on below as if there were no notebook, unless it ends with a shield. -/
theorem opensAt_below (ho : RegionKind.notebook.opens opening = true)
    (hb : fencesPair (p.notebook.pageLines root) = true) {j : Nat}
    (hj : 0 < j ∨ (p.notebook.pageLines root).getLast?.any shields = false) :
    opensAt (lines filled) (p.upTo.length + (p.notebook.pageLines root).length + 1 + j) =
      opensAt p.emptied (p.upTo.length + 1 + j) := by
  have hlast : ((p.notebook.pageLines root).map chomp).getLast?.any shields =
      (p.notebook.pageLines root).getLast?.any shields := by
    simp only [List.getLast?_map, Option.any_map, shields_chomp]
  rw [← fencesPair_map_chomp] at hb
  rw [← hlast] at hj
  rw [p.lines_eq, emptied, ← opensAt_left_out p.closing (p.not_shields_upTo ho) hb hj,
    List.length_map]

end NotebookPlace

/-- **Notebook code stays code.** Say that the fences of the filled page pair off up to the line that opens
a region, and so do those of each markdown cell of its notebook. Then a line of a code cell opens no context
if the fences in the notebook's code above it pair off. No code block is open behind the notebook just where
the fences in all its code pair off, and then the same headers below the region open contexts as if it were
empty; only for the line directly below it counts whether the notebook ends with a shield. The contexts of
the marked page begin with the headers that open contexts, and its separators are those of the contexts. -/
theorem code_cells_open_no_context {root text filled opening : String} {fetched : Fetched Notebook}
    {above rest : List String} (h : fillNotebooks root fetched text = .ok filled)
    (hl : lines text = above ++ opening :: rest) (ho : RegionKind.notebook.opens opening = true) :
    ∃ p : NotebookPlace root fetched above opening filled,
      ((∀ c ∈ p.notebook.cells, c.kind = "markdown" → fencesPair (c.pageLines root) = true) →
        fencesPair p.upTo = true →
        (∀ earlier c later, p.notebook.cells = earlier ++ c :: later → c.kind = "code" →
          ∀ k line, (c.pageLines root)[k]? = some line →
            (lines filled)[p.upTo.length + (earlier.flatMap (Cell.pageLines root)).length + k]? =
                some (chomp line) ∧
              (fencesPair (codeLinesOf earlier ++ c.codeLines.take (k - 2)) = true →
                opensAt (lines filled)
                  (p.upTo.length + (earlier.flatMap (Cell.pageLines root)).length + k) = false)) ∧
        outsideCode (lines filled) (p.upTo.length + (p.notebook.pageLines root).length) =
          fencesPair (codeLinesOf p.notebook.cells) ∧
        (fencesPair (codeLinesOf p.notebook.cells) = true →
          ∀ j, 0 < j ∨ (p.notebook.pageLines root).getLast?.any shields = false →
            opensAt (lines filled) (p.upTo.length + (p.notebook.pageLines root).length + 1 + j) =
              opensAt p.emptied (p.upTo.length + 1 + j))) ∧
      ∀ file d, segment file filled = .rewritten d →
        d.contexts.map (fun c => c.lines.head?) = (openingHeaders (lines filled)).map some ∧
        separatorPlaces d.text = d.contexts.map Context.lineIndex := by
  obtain ⟨p⟩ := exists_notebookPlace h hl ho
  refine ⟨p, fun hm hu => ?_, fun file d hd =>
    ⟨map_head?_of_segment hd, separatorPlaces_of_segment hd⟩⟩
  have hpairs : fencesPair (p.notebook.pageLines root) = fencesPair (codeLinesOf p.notebook.cells) := by
    rw [Notebook.pageLines_eq, fencesPair_cells hm]
  refine ⟨?_, ?_, ?_⟩
  · intro earlier c later hn hc k line hk
    exact p.not_opensAt_code hu hn (fun e he => hm e (by rw [hn]; simp [he])) hc hk
  · rw [p.outsideCode_closing hu, hpairs]
  · intro hc j hj
    exact p.opensAt_below ho (hpairs.trans hc) hj

/-! ## Some pages -/

/-- The address of a notebook. -/
def notebookUrl : Url := ⟨"file", some ⟨"", "", .name "", none⟩, .steps ["n.ipynb"], none, none⟩

/-- A line that opens a region for it. -/
def beginLine : String := "<!-- BEGIN_NOTEBOOK \x7b\"url\":\"file:///n.ipynb\"\x7d -->"

def endLine : String := "<!-- END_NOTEBOOK -->"

theorem addressOfLine_beginLine : addressOfLine beginLine = .ok notebookUrl :=
  eq_ok_of_toOption (by decide +kernel)

/-- A page with this notebook in all of its regions. -/
theorem fillNotebooks_beginLine (n : Notebook) {text : String} {L : Layout} (hL : L.Fits .notebook)
    (ho : ∀ o ∈ L.openings, o = beginLine) (hl : lines text = L.lines) :
    fillNotebooks "" [(notebookUrl, n)] text = .ok (unlines (L.fill fun _ => n.pageLines "").lines) := by
  let c := Content.notebooks "" [(notebookUrl, n)]
  have hb : c.linesFor beginLine = .ok (n.pageLines "") := by
    rw [Content.linesFor, RegionKind.linesFor, addressOfLine_beginLine]
    rfl
  have hf : ∀ o ∈ L.openings, c.linesFor o = .ok (n.pageLines "") := fun o h => ho o h ▸ hb
  have hc : ∀ o ∈ L.openings, c.bodyFor o = n.pageLines "" := fun o h =>
    Except.ok.inj ((RegionKind.linesFor_eq_bodyFor (hf o h)).symm.trans (hf o h))
  refine (Content.fill_eq_ok_iff (c := c)).2 ⟨L, hL, hl.symm, fun o h => ?_, ?_⟩
  · rw [hf o h, hc o h]
  · rw [Layout.fill_congr hc]

/-- A page with one region and a header below it. -/
def regionPage : Layout := .region [] beginLine [] endLine (.page ["# C"])

theorem regionPage_fits : regionPage.Fits .notebook :=
  .region (by simp) (by decide) (by simp) (by decide) (by decide) (.page (by decide))

theorem lines_regionPage : lines (unlines regionPage.lines) = regionPage.lines :=
  lines_unlines_eq_self (by decide +kernel)

theorem fillNotebooks_regionPage (n : Notebook) :
    fillNotebooks "" [(notebookUrl, n)] (unlines regionPage.lines) =
      .ok (unlines (beginLine :: (n.pageLines "" ++ [endLine, "# C"]))) :=
  fillNotebooks_beginLine n regionPage_fits (by simp [regionPage, Layout.openings])
    lines_regionPage

/-- A notebook with a header in each of its cells. -/
def twoHeaders : Notebook := ⟨[⟨"markdown", .text "# A"⟩, ⟨"code", .lines ["# B\n", "b()"]⟩]⟩

theorem pageLines_twoHeaders : twoHeaders.pageLines "" =
    ["", "# A", "", "\x60\x60\x60", "# B", "b()", "\x60\x60\x60"] := by decide +kernel

/-- The lines of the page with this notebook. -/
def twoHeadersShown : List String :=
  [beginLine, "", "# A", "", "\x60\x60\x60", "# B", "b()", "\x60\x60\x60", endLine, "# C"]

theorem lines_twoHeadersShown : lines (unlines twoHeadersShown) = twoHeadersShown :=
  lines_unlines_eq_self (by decide +kernel)

/-- The header of the code cell opens no context, and the one below the notebook does as before. -/
theorem code_cells_open_no_context_two_headers :
    ∃ filled, fillNotebooks "" [(notebookUrl, twoHeaders)] (unlines regionPage.lines) = .ok filled ∧
      (lines filled)[5]? = some "# B" ∧ opensAt (lines filled) 5 = false ∧
      outsideCode (lines filled) 8 = true ∧
      opensAt (lines filled) 9 = opensAt regionPage.lines 2 := by
  have h : fillNotebooks "" [(notebookUrl, twoHeaders)] (unlines regionPage.lines) =
      .ok (unlines twoHeadersShown) := by
    rw [fillNotebooks_regionPage, pageLines_twoHeaders]
    rfl
  obtain ⟨p, hp, -⟩ := code_cells_open_no_context h lines_regionPage (by decide)
  have hn : p.notebook = twoHeaders := by
    have hurl : p.url = notebookUrl := Except.ok.inj (p.address.symm.trans addressOfLine_beginLine)
    have hc := p.content
    rw [hurl] at hc
    exact (Option.some.inj hc).symm
  have hu : p.upTo = [beginLine] := by
    have hnil := p.upper_lines
    cases hupper : p.upper with
    | page above =>
      rw [hupper] at hnil
      obtain rfl : above = [] := hnil
      rw [NotebookPlace.upTo, hupper]
      decide
    | region above opening inner closing lower =>
      rw [hupper, Layout.lines] at hnil
      simp at hnil
  have hread := lines_twoHeadersShown
  have hend : p.emptied = regionPage.lines := by
    have hshown : twoHeadersShown =
        [beginLine] ++ ((twoHeaders.pageLines "").map chomp ++ [endLine, "# C"]) := by
      rw [pageLines_twoHeaders]
      decide
    have hlines := p.lines_eq
    rw [hn, hu, hread] at hlines
    rw [NotebookPlace.emptied, hu,
      ← List.append_cancel_left (List.append_cancel_left (hshown.symm.trans hlines))]
    rfl
  rw [hn, hu, hend, hread, pageLines_twoHeaders] at hp
  obtain ⟨hcode, hclosed, hbelow⟩ := hp (by decide +kernel) (by decide)
  obtain ⟨hb, hopen⟩ := hcode [⟨"markdown", .text "# A"⟩] ⟨"code", .lines ["# B\n", "b()"]⟩ [] rfl rfl
    2 "# B" (by decide +kernel)
  refine ⟨_, h, ?_⟩
  rw [hread]
  exact ⟨hb, hopen (by decide), hclosed.trans (by decide), hbelow (by decide) 0 (.inr (by decide))⟩

/-- A notebook with a fence in its code. -/
def fencedCode : Notebook := ⟨[⟨"code", .text "\x60\x60\x60\n# B"⟩]⟩

theorem pageLines_fencedCode : fencedCode.pageLines "" =
    ["", "\x60\x60\x60", "\x60\x60\x60", "# B", "\x60\x60\x60"] := by decide +kernel

/-- A notebook that ends with a marker. -/
def endingMarker : Notebook := ⟨[⟨"markdown", .text Marker.excludeContext.sentinel⟩]⟩

theorem pageLines_endingMarker : endingMarker.pageLines "" = ["", Marker.excludeContext.sentinel] := by
  decide +kernel

/-- A notebook with a header in its code. -/
def headerCode : Notebook := ⟨[⟨"code", .text "# B"⟩]⟩

theorem pageLines_headerCode : headerCode.pageLines "" = ["", "\x60\x60\x60", "# B", "\x60\x60\x60"] := by
  decide +kernel

/-- A page with two regions, the first of which holds a fence. -/
def fencedPage : Layout :=
  .region [] beginLine ["\x60\x60\x60"] endLine
    (.region ["\x60\x60\x60"] beginLine [] endLine (.page []))

theorem fencedPage_fits : fencedPage.Fits .notebook :=
  .region (by simp) (by decide) (by decide) (by decide) (by decide)
    (.region (by decide) (by decide) (by simp) (by decide) (by decide) (.page (by simp)))

/-- A code cell with a fence in its code ends its block early: its header opens a context, and the one
below the notebook does no more. A notebook that ends with a marker shields the header below. And fences
that another region held before the page was filled are of no account. -/
theorem notebooks_reach_beyond_blocks :
    (∃ filled, fillNotebooks "" [(notebookUrl, fencedCode)] (unlines regionPage.lines) = .ok filled ∧
      outsideCode regionPage.lines 1 = true ∧ (lines filled)[4]? = some "# B" ∧
      opensAt (lines filled) 4 = true ∧ outsideCode (lines filled) 6 = false ∧
      opensAt (lines filled) 7 = false ∧ opensAt regionPage.lines 2 = true) ∧
    (∃ filled, fillNotebooks "" [(notebookUrl, endingMarker)] (unlines regionPage.lines) = .ok filled ∧
      outsideCode regionPage.lines 1 = true ∧ fencesPair (endingMarker.pageLines "") = true ∧
      (lines filled)[4]? = some "# C" ∧ opensAt (lines filled) 4 = false ∧
      opensAt regionPage.lines 2 = true) ∧
    ∃ filled, fillNotebooks "" [(notebookUrl, headerCode)] (unlines fencedPage.lines) = .ok filled ∧
      outsideCode fencedPage.lines 5 = true ∧ (lines filled)[10]? = some "# B" ∧
      opensAt (lines filled) 10 = true := by
  refine ⟨⟨_, fillNotebooks_regionPage _, ?_⟩, ⟨_, fillNotebooks_regionPage _, ?_⟩,
    ⟨_, fillNotebooks_beginLine _ fencedPage_fits (by simp [fencedPage, Layout.openings])
      (lines_unlines_eq_self (by decide +kernel)), ?_⟩⟩
  · rw [pageLines_fencedCode, lines_unlines_eq_self (by decide +kernel)]
    decide +kernel
  · rw [pageLines_endingMarker, lines_unlines_eq_self (by decide +kernel)]
    decide +kernel
  · rw [pageLines_headerCode, lines_unlines_eq_self (by decide +kernel)]
    decide +kernel

end PagePrep
