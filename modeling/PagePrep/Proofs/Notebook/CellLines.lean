import PagePrep.Notebook.Rendering
import PagePrep.Proofs.Page.Position

/-!
# The lines of a notebook

Each cell ends the last of its lines, so the lines of a notebook are those of its cells, one after the
other (`Notebook.pageLines_eq`). Those of a code cell are the lines of its code between two fences
(`Cell.pageLines_of_code`), so that the fences of a notebook pair off if those in its code do, and those of
its markdown cells (`fencesPair_cells`).
-/

set_option autoImplicit false

namespace PagePrep

open Text

namespace Cell

variable {c : Cell} {root : String}

/-- The lines that show a cell on a page. -/
def pageLines (root : String) (c : Cell) : List String := Text.lines (c.render root)

/-- The lines between the fences of a code cell. -/
def codeLines (c : Cell) : List String := Text.lines (String.join c.source.items ++ "\n")

/-- A code cell is shown as an empty line and its code between two fences. -/
theorem pageLines_of_code (h : c.kind = "code") :
    c.pageLines root = "" :: "\x60\x60\x60" :: (c.codeLines ++ ["\x60\x60\x60"]) := by
  have hr : c.render root =
      "" ++ "\n" ++ ("\x60\x60\x60" ++ "\n" ++
        (String.join c.source.items ++ "\n" ++ ("\x60\x60\x60" ++ "\n"))) := by
    have hm : ("code" : String) ≠ "markdown" := by decide
    apply String.toList_injective
    simp [render, h, hm]
  rw [pageLines, hr, lines_append, lines_append, lines_append]
  rfl

theorem pageLines_of_other (hm : c.kind ≠ "markdown") (hc : c.kind ≠ "code") :
    c.pageLines root = [""] := by
  rw [pageLines, render, if_neg hm, if_neg hc]
  rfl

theorem fencesPair_of_code (h : c.kind = "code") :
    fencesPair (c.pageLines root) = fencesPair c.codeLines := by
  have hf : isFence "\x60\x60\x60" = true := by decide
  have he : isFence "" = false := by decide
  simp only [fencesPair, pageLines_of_code h, List.countP_cons, List.countP_append, hf, he,
    List.countP_nil]
  congr 1
  simp only [Bool.false_eq_true, if_false, if_true]
  omega

/-- A header among the lines of a code cell is a line of its code, and one fence more stands above it
than in the code above it. -/
theorem exists_codeLine (h : c.kind = "code") {k : Nat} {line : String}
    (hk : (c.pageLines root)[k]? = some line) (hl : isHeader line = true) :
    ∃ i, k = i + 2 ∧ fencesPair ((c.pageLines root).take k) = !fencesPair (c.codeLines.take i) := by
  have hf : isFence "\x60\x60\x60" = true := by decide
  have hhf : isHeader "\x60\x60\x60" = false := not_isHeader_of_isFence hf
  rw [pageLines_of_code h] at hk ⊢
  match k with
  | 0 =>
    obtain rfl : "" = line := by simpa using hk
    cases hl
  | 1 =>
    obtain rfl : "\x60\x60\x60" = line := by simpa using hk
    rw [hhf] at hl
    cases hl
  | i + 2 =>
    refine ⟨i, rfl, ?_⟩
    have hi : i < c.codeLines.length := by
      rcases Nat.lt_or_ge i c.codeLines.length with hi | hi
      · exact hi
      · have hk' : ["\x60\x60\x60"][i - c.codeLines.length]? = some line := by
          simpa [List.getElem?_append_right hi] using hk
        have : line = "\x60\x60\x60" := by simpa using List.mem_of_getElem? hk'
        rw [this, hhf] at hl
        cases hl
    rw [List.take_succ_cons, List.take_succ_cons, List.take_append_of_le_length (Nat.le_of_lt hi)]
    show fencesPair (["", "\x60\x60\x60"] ++ _) = _
    rw [fencesPair_append]
    have h2 : fencesPair ["", "\x60\x60\x60"] = false := by decide
    rw [h2]
    cases fencesPair (c.codeLines.take i) <;> rfl

end Cell

/-- The lines of code in some cells. -/
def codeLinesOf (cells : List Cell) : List String :=
  (cells.filter fun c => c.kind = "code").flatMap Cell.codeLines

/-- Where the fences of markdown cells pair off, only those in the code of cells matter. -/
theorem fencesPair_cells {root : String} {cells : List Cell}
    (hm : ∀ c ∈ cells, c.kind = "markdown" → fencesPair (c.pageLines root) = true) :
    fencesPair (cells.flatMap (Cell.pageLines root)) = fencesPair (codeLinesOf cells) := by
  induction cells with
  | nil => rfl
  | cons c cells ih =>
    have hrest := ih fun c' h => hm c' (List.mem_cons_of_mem _ h)
    rw [List.flatMap_cons, fencesPair_append, hrest]
    by_cases hc : c.kind = "code"
    · have hcode : codeLinesOf (c :: cells) = c.codeLines ++ codeLinesOf cells := by
        simp [codeLinesOf, hc]
      rw [hcode, fencesPair_append, Cell.fencesPair_of_code hc]
    · have hcode : codeLinesOf (c :: cells) = codeLinesOf cells := by
        simp [codeLinesOf, hc]
      have hpair : fencesPair (c.pageLines root) = true := by
        by_cases h : c.kind = "markdown"
        · exact hm c (by simp) h
        · rw [Cell.pageLines_of_other h hc]
          rfl
      rw [hcode, hpair]
      exact Bool.true_beq _

/-- The lines of a notebook are those of its cells. -/
theorem Notebook.pageLines_eq (root : String) (n : Notebook) :
    n.pageLines root = n.cells.flatMap (Cell.pageLines root) := by
  obtain ⟨cells⟩ := n
  rw [pageLines, render]
  show lines (String.join (cells.map (Cell.render root))) = cells.flatMap (Cell.pageLines root)
  induction cells with
  | nil => rfl
  | cons c cells ih =>
    rw [List.map_cons, String.join_cons, List.flatMap_cons, ← ih]
    exact lines_append _ _

end PagePrep
