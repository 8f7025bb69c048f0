import PagePrep.Proofs.Page.Boundary
import Mathlib.Algebra.BigOperators.Group.List.Basic

/-!
# The lines of contexts

The contexts of a page share out its lines from the first header that opens one, in order. Separators,
the blank lines that they take along and the marks that shield headers belong to none. Each context
begins with an opening header and goes on up to the next one, so that it is told by the positions of its
lines alone (`Piece.map_lines_contexts`).
-/

set_option autoImplicit false

namespace PagePrep

open Text

/-! ## Runs -/

section Runs

variable {α : Type} (starts : α → Bool)

/-- The runs of a list: each begins with an element that starts one, and goes on up to the next such
element. What stands before the first belongs to none. -/
def runs : List α → List (List α)
  | [] => []
  | a :: as => if starts a then (a :: as.takeWhile fun b => !starts b) :: runs as else runs as

/-- A run begins with an element that starts one, and holds no other. -/
theorem exists_cons_of_mem_runs {as r : List α} (h : r ∈ runs starts as) :
    ∃ a bs, r = a :: bs ∧ starts a = true ∧ ∀ b ∈ bs, starts b = false := by
  induction as with
  | nil => cases h
  | cons a as ih =>
    rw [runs] at h
    cases ha : starts a with
    | false => exact ih (by simpa [ha] using h)
    | true =>
      rw [ha, if_pos rfl] at h
      rcases List.mem_cons.1 h with rfl | h
      · refine ⟨a, _, rfl, ha, fun b hb => ?_⟩
        simpa using List.all_eq_true.1 List.all_takeWhile b hb
      · exact ih h

/-- The runs together are the list from the first element that starts one. -/
theorem flatten_runs (as : List α) : (runs starts as).flatten = as.dropWhile fun a => !starts a := by
  induction as with
  | nil => rfl
  | cons a as ih =>
    rw [runs]
    cases ha : starts a with
    | false => simp [ih, ha]
    | true =>
      rw [if_pos rfl, List.flatten_cons, ih, List.cons_append, List.takeWhile_append_dropWhile,
        List.dropWhile_cons_of_neg (by simp [ha])]

/-- Elements that start no run may be left out before or after the beginning is cut. -/
theorem dropWhile_filter {keep : α → Bool} {as : List α}
    (h : ∀ a ∈ as, starts a = true → keep a = true) :
    (as.filter keep).dropWhile (fun a => !starts a) =
      (as.dropWhile fun a => !starts a).filter keep := by
  induction as with
  | nil => rfl
  | cons a as ih =>
    have has := ih fun b hb => h b (List.mem_cons_of_mem _ hb)
    cases ha : starts a with
    | true =>
      have hk : keep a = true := h a (by simp) ha
      simp [ha, hk]
    | false =>
      rw [List.dropWhile_cons_of_pos (by simp [ha]), ← has]
      cases hk : keep a <;> simp [hk, ha]

end Runs

/-! ## Contexts by position -/

/-- The numbered lines that contexts share out: those from the first opening header, without separators,
without the blank lines that these take along, and without the marks that shield headers. -/
def contextEntries (ls : List String) : List (String × Nat) :=
  (ls.zipIdx.dropWhile fun e => !opensAt ls e.2).filter fun e => staysAt ls e.2 && !shields e.1

namespace Piece

section Entries

variable {ls : List String} {es : List (String × Nat)}
  (h : ∀ e ∈ es, opensAt ls e.2 = true → shields e.1 = false)
include h

/-- The body of a section goes up to the next opening header. -/
theorem sectionBody_map_at :
    sectionBody (es.map (Piece.at ls)) =
      ((es.filter fun e => !shields e.1).takeWhile fun e => !opensAt ls e.2).map Prod.fst := by
  induction es with
  | nil => rfl
  | cons e es ih =>
    have hes := ih fun e' he' => h e' (List.mem_cons_of_mem _ he')
    rw [List.map_cons, Piece.at]
    cases hs : shields e.1 with
    | true => simpa [hs, sectionBody] using hes
    | false =>
      cases ho : opensAt ls e.2 with
      | true => simp [hs, ho, sectionBody]
      | false => simpa [hs, ho, sectionBody] using hes

/-- The lines of each context are a run of the lines that are no shields. -/
theorem map_lines_contexts (file : String) (n : Nat) :
    (contexts file n (es.map (Piece.at ls))).map Context.lines =
      (runs (fun e => opensAt ls e.2) (es.filter fun e => !shields e.1)).map (List.map Prod.fst) := by
  induction es generalizing n with
  | nil => rfl
  | cons e es ih =>
    have hes : ∀ e' ∈ es, opensAt ls e'.2 = true → shields e'.1 = false :=
      fun e' he' => h e' (List.mem_cons_of_mem _ he')
    rw [List.map_cons, Piece.at]
    cases hs : shields e.1 with
    | true => simpa [hs, contexts] using ih hes (n + 1)
    | false =>
      cases ho : opensAt ls e.2 with
      | false => simpa [hs, ho, contexts, runs] using ih hes (n + 1)
      | true =>
        have hbody := sectionBody_map_at hes
        simpa [hs, ho, contexts, runs, hbody] using ih hes (n + 3)

end Entries

end Piece

/-! ## The contexts of a page -/

variable {file text : String} {d : Document}

theorem not_shields_of_opensAt {ls : List String} {e : String × Nat} (he : e ∈ ls.zipIdx)
    (h : opensAt ls e.2 = true) : shields e.1 = false :=
  not_shields_of_isHeader (Piece.isHeader_of_opensAt (List.mem_zipIdx_iff_getElem?.1 he) h)

/-- The contexts are the runs of the lines that stay and are no shields. -/
theorem map_lines_of_segment (h : segment file text = .rewritten d) :
    d.contexts.map Context.lines =
      (runs (fun e => opensAt (lines text) e.2)
        ((lines text).zipIdx.filter fun e => staysAt (lines text) e.2 && !shields e.1)).map
          (List.map Prod.fst) := by
  have hd : d.contexts.map Context.lines =
      (Piece.contexts file 0 (Piece.ofText text)).map Context.lines := by
    rw [(segment_eq_rewritten_iff.1 h).2]
    exact List.map_map
  rw [hd, Piece.ofText_eq_positions, Piece.map_lines_contexts, List.filter_filter]
  · simp only [Bool.and_comm]
  · exact fun e he => not_shields_of_opensAt (List.mem_of_mem_filter he)

/-- Of the lines that stay and are no shields, those from the first opening header on are shared out. -/
theorem contextEntries_eq (ls : List String) :
    contextEntries ls =
      (ls.zipIdx.filter fun e => staysAt ls e.2 && !shields e.1).dropWhile
        fun e => !opensAt ls e.2 := by
  symm
  apply dropWhile_filter fun e : String × Nat => opensAt ls e.2
  intro e he ho
  have hl := List.mem_zipIdx_iff_getElem?.1 he
  rw [Piece.staysAt_of_opensAt hl ho, not_shields_of_opensAt he ho]
  rfl

/-- **Contexts share out lines.** One after the other, the contexts of a page hold its lines from the first
opening header on, without separators, the blank lines that these take along, and the marks that shield
headers. Each context begins with an opening header, and none of its other lines is one. So the scores
of the contexts add up to the words on these lines. -/
theorem contexts_share_lines (h : segment file text = .rewritten d) :
    (d.contexts.map Context.lines).flatten = (contextEntries (lines text)).map Prod.fst ∧
      (∃ shares : List (List (String × Nat)), shares.flatten = contextEntries (lines text) ∧
        d.contexts.map Context.lines = shares.map (List.map Prod.fst) ∧
        ∀ share ∈ shares, ∃ header below, share = header :: below ∧
          opensAt (lines text) header.2 = true ∧ ∀ e ∈ below, opensAt (lines text) e.2 = false) ∧
      total (d.contexts.map Context.score) =
        total ((contextEntries (lines text)).map fun e => wordCount e.1) := by
  have hruns := map_lines_of_segment h
  have hflat : (d.contexts.map Context.lines).flatten =
      (contextEntries (lines text)).map Prod.fst := by
    rw [hruns, ← List.map_flatten, flatten_runs, contextEntries_eq]
  refine ⟨hflat, ⟨_, ?_, hruns, fun share hs => exists_cons_of_mem_runs _ hs⟩, ?_⟩
  · rw [flatten_runs, contextEntries_eq]
  · calc total (d.contexts.map Context.score)
      _ = total (((d.contexts.map Context.lines).map (List.map wordCount)).map total) := by
          rw [List.map_map, List.map_map]
          rfl
      _ = total ((d.contexts.map Context.lines).flatten.map wordCount) := by
          rw [List.map_flatten]
          exact List.sum_flatten.symm
      _ = _ := by
          rw [hflat, List.map_map]
          rfl

/-- The mixed page has two contexts; the shield above the second header belongs to none. -/
theorem contexts_share_lines_mixed :
    segment "page.md" mixedPage = .rewritten mixedDocument ∧
      (mixedDocument.contexts.map Context.lines).flatten =
        (contextEntries (lines mixedPage)).map Prod.fst ∧
      contextEntries (lines mixedPage) = [("# A", 2), ("", 3), ("", 4), ("# B", 6),
        ("\x60\x60\x60", 7), ("# C", 8), ("\x60\x60\x60", 9), ("# D", 10)] := by
  have h : segment "page.md" mixedPage = .rewritten mixedDocument := by decide
  exact ⟨h, (contexts_share_lines h).1, by decide⟩

end PagePrep
