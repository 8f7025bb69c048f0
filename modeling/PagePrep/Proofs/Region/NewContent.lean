import PagePrep.Proofs.Region.RepeatedBuild

/-!
# New content for a filled page

A page with a layout is filled from its lines outside of regions and from the content for its opening
lines, and from nothing else (`RegionKind.fillFrom_lines_eq`). So what filled the regions before is lost
without a trace, whether the new content can fill them or not (`Content.fill_of_filled`).
-/

set_option autoImplicit false

namespace PagePrep

open Text

/-! ## Filling a layout -/

namespace Layout

variable {ε : Type}

/-- All lines, with fresh ones inside each region as `fresh` makes them of the opening line, or the first
failure to make them. -/
def linesWith (fresh : String → Except ε (List String)) : Layout → Except ε (List String)
  | page below => .ok below
  | region above opening _ closing rest => do
    let inner ← fresh opening
    let below ← rest.linesWith fresh
    return above ++ opening :: (inner ++ closing :: below)

/-- The lines that stood inside the regions do not matter. -/
theorem linesWith_fill (fresh : String → Except ε (List String)) (body : String → List String)
    (L : Layout) : (L.fill body).linesWith fresh = L.linesWith fresh := by
  induction L with
  | page below => rfl
  | region above opening inner closing rest ih => simp only [fill, linesWith, ih]

end Layout

namespace RegionKind

variable {ε : Type} {kind : RegionKind} {refuse : RegionFault → ε}
  {fill : Url → Except ε (List String)}

/-- Plain lines outside of regions are passed on, whatever becomes of the rest. -/
theorem fillFrom_above_eq {above : List String} (hp : ∀ l ∈ above, kind.isPlain l = true)
    (rest : List String) (n : Nat) :
    kind.fillFrom refuse fill none n (above ++ rest) =
      (kind.fillFrom refuse fill none (n + above.length) rest).map (above ++ ·) := by
  induction above generalizing n with
  | nil =>
    show _ = Except.map id _
    rw [Except.map_id]
    rfl
  | cons l above ih =>
    rw [List.cons_append, fillFrom_plain (hp l (by simp)),
      ih fun k hk => hp k (List.mem_cons_of_mem _ hk), List.length_cons]
    have hn : n + 1 + above.length = n + (above.length + 1) := by omega
    rw [hn]
    cases kind.fillFrom refuse fill none (n + (above.length + 1)) rest <;> rfl

/-- Plain lines inside of a region are passed over. -/
theorem fillFrom_inside_eq {inner : List String} (hp : ∀ l ∈ inner, kind.isPlain l = true)
    (earlier : Nat) (rest : List String) (n : Nat) :
    kind.fillFrom refuse fill (some earlier) n (inner ++ rest) =
      kind.fillFrom refuse fill (some earlier) (n + inner.length) rest := by
  induction inner generalizing n with
  | nil => rfl
  | cons l inner ih =>
    rw [List.cons_append, fillFrom_inner (hp l (by simp)),
      ih fun k hk => hp k (List.mem_cons_of_mem _ hk), List.length_cons]
    congr 1
    omega

/-- A page with a layout is filled as its layout is, or fails where the layout does. -/
theorem fillFrom_lines_eq {L : Layout} (hL : L.Fits kind) (n : Nat) :
    kind.fillFrom refuse fill none n L.lines = L.linesWith (linesFor refuse fill) := by
  induction hL generalizing n with
  | @page below hp =>
    have h : kind.fillFrom refuse fill none n (below ++ []) =
        (kind.fillFrom refuse fill none (n + below.length) []).map (below ++ ·) :=
      fillFrom_above_eq hp [] n
    rw [List.append_nil] at h
    rw [Layout.lines, Layout.linesWith, h]
    exact congrArg Except.ok (List.append_nil below)
  | @region above opening inner closing rest ha ho hi hn hc _ ih =>
    rw [Layout.lines, Layout.linesWith, fillFrom_above_eq ha, fillFrom_opening ho]
    cases linesFor refuse fill opening with
    | error e => rfl
    | ok body =>
      show Except.map _ (Except.map _ _) = _
      rw [fillFrom_inside_eq hi, fillFrom_closing hn hc, ih]
      show _ = rest.linesWith (linesFor refuse fill) >>= _
      cases rest.linesWith (linesFor refuse fill) <;> rfl

end RegionKind

/-! ## Filling a filled page -/

namespace Content

variable {c c' : Content} {text filled : String} {L : Layout}

theorem fill_eq_linesWith (hL : L.Fits c.kind) (hl : lines text = L.lines) :
    c.fill text = (L.linesWith c.linesFor).map unlines := by
  have hf : c.fill text = (c.kind.fillFrom id c.linesAt none 1 (lines text)).map unlines := by
    cases c <;> rfl
  rw [hf, hl, RegionKind.fillFrom_lines_eq hL]
  rfl

/-- A page that is filled suits the content, if no line of it ends in a carriage return and the content
neither opens nor closes regions. -/
theorem exists_suits (hr : ∀ l ∈ lines text, l.toList.getLast? ≠ some '\r')
    (hb : ∀ o ∈ lines text, c.kind.opens o = true → ∀ ls, c.linesFor o = .ok ls →
      ∀ l ∈ ls, c.kind.opens l = false ∧ c.kind.closes l = false)
    (h : c.fill text = .ok filled) :
    ∃ L : Layout, c.Suits L ∧ L.lines = lines text ∧ unlines (L.fill c.bodyFor).lines = filled := by
  obtain ⟨L, hL, hl, hfill, rfl⟩ := fill_eq_ok_iff.1 h
  refine ⟨L, ⟨hL, hfill, ?_, ?_⟩, hl, rfl⟩
  · intro o ho l hm
    have hot : o ∈ lines text :=
      hl ▸ Layout.mem_lines_of_mem_outside (Layout.mem_outside_of_mem_openings ho)
    apply RegionKind.isPlain_eq_true_iff.2
    exact hb o hot (Layout.opens_of_mem_openings hL ho) _ (hfill o ho) l hm
  · intro l hm
    have hlt : l ∈ lines text := hl ▸ Layout.mem_lines_of_mem_outside hm
    exact ⟨newline_not_mem_of_mem_lines hlt, chomp_eq_self (hr l hlt)⟩

/-- **New content.** Filling a filled page with other content of its kind comes to what filling the page
itself comes to: the same text or the same fault. Only carriage returns at the ends of the page's lines,
and first content that opens or closes regions itself, are ruled out. -/
theorem fill_of_filled (hk : c'.kind = c.kind)
    (hr : ∀ l ∈ lines text, l.toList.getLast? ≠ some '\r')
    (hb : ∀ o ∈ lines text, c.kind.opens o = true → ∀ ls, c.linesFor o = .ok ls →
      ∀ l ∈ ls, c.kind.opens l = false ∧ c.kind.closes l = false)
    (h : c.fill text = .ok filled) : c'.fill filled = c'.fill text := by
  obtain ⟨L, hL, hl, rfl⟩ := exists_suits hr hb h
  calc c'.fill (unlines (L.fill c.bodyFor).lines)
    _ = ((L.fill c.bodyRead).linesWith c'.linesFor).map unlines :=
      fill_eq_linesWith (hk ▸ hL.fill_read.fits) hL.lines_filled
    _ = (L.linesWith c'.linesFor).map unlines := by rw [Layout.linesWith_fill]
    _ = c'.fill text := (fill_eq_linesWith (hk ▸ hL.fits) hl.symm).symm

/-- A fragment that another version of `partContent` brings. -/
def laterContent : Content :=
  .fragments [(⟨"file", some ⟨"", "", .name "", none⟩, .steps ["part.md"], none, none⟩, "later")]

/-- The page with a fragment, filled with a later one and with none. -/
theorem fill_of_filled_part :
    ∃ filled, partContent.fill partPage = .ok filled ∧
      laterContent.fill filled = laterContent.fill partPage ∧
      (fragments []).fill filled = (fragments []).fill partPage := by
  have h : partContent.fill partPage = .ok
      ("# A\n<!-- BEGIN_INCLUDE_FILE \x7b\"url\":\"file:///part.md\"\x7d -->\n\n\n# B\n" ++
        "\x60\x60\x60\n\n<!-- END_INCLUDE_FILE -->\n# C\n") :=
    eq_ok_of_toOption (by decide +kernel)
  have hr : ∀ l ∈ lines partPage, l.toList.getLast? ≠ some '\r' := by decide
  have hp : ∀ o ∈ lines partPage, partContent.kind.opens o = true → ∀ l ∈ partContent.bodyFor o,
      partContent.kind.opens l = false ∧ partContent.kind.closes l = false := by decide +kernel
  have hb : ∀ o ∈ lines partPage, partContent.kind.opens o = true → ∀ ls,
      partContent.linesFor o = .ok ls →
      ∀ l ∈ ls, partContent.kind.opens l = false ∧ partContent.kind.closes l = false := by
    intro o ho hop ls hls
    obtain rfl : partContent.bodyFor o = ls :=
      Except.ok.inj ((RegionKind.linesFor_eq_bodyFor hls).symm.trans hls)
    exact hp o ho hop
  refine ⟨_, h, ?_, ?_⟩
  · exact fill_of_filled (c := partContent) rfl hr hb h
  · exact fill_of_filled (c := partContent) rfl hr hb h

end Content

end PagePrep
