import PagePrep.Page.BlankRun
import PagePrep.Proofs.Text.LineEnding
import Mathlib.Data.List.Chain

/-!
# Blank runs in one pass

Shrinking the runs of blank lines and cutting the blank end of a page come to one pass, `tidy`,
which drops a blank line if another one or the end of the page follows. The pass works on lists of
any kind, so that it can be made before lines are written for the entries of a list as well as
after (`tidy_flatMap`).
-/

set_option autoImplicit false

namespace PagePrep

open Text

section Tidy

variable {α β : Type} (blank : α → Bool)

/-- A list without the blank entries that another blank entry or the end follows. -/
def tidy : List α → List α
  | [] => []
  | a :: as => if blank a && as.head?.all blank then tidy as else a :: tidy as

@[simp] theorem tidy_nil : tidy blank [] = [] := rfl

variable {blank}

theorem tidy_cons_drop {a : α} {as : List α} (ha : blank a = true)
    (h : as.head?.all blank = true) : tidy blank (a :: as) = tidy blank as := by
  simp [tidy, ha, h]

theorem tidy_cons_keep {a : α} {as : List α} (h : (blank a && as.head?.all blank) = false) :
    tidy blank (a :: as) = a :: tidy blank as := by
  simp [tidy, h]

theorem tidy_cons_solid {a : α} (as : List α) (h : blank a = false) :
    tidy blank (a :: as) = a :: tidy blank as :=
  tidy_cons_keep (by simp [h])

theorem tidy_sublist (as : List α) : (tidy blank as).Sublist as := by
  induction as with
  | nil => simp
  | cons a as ih =>
    unfold tidy
    split
    · exact ih.cons a
    · exact ih.cons_cons a

theorem mem_of_mem_tidy {a : α} {as : List α} (h : a ∈ tidy blank as) : a ∈ as :=
  (tidy_sublist as).subset h

/-- Behind an entry that is not blank the pass starts afresh. -/
theorem tidy_append_cons {x : α} (as bs : List α) (h : blank x = false) :
    tidy blank (as ++ x :: bs) = tidy blank (as ++ [x]) ++ tidy blank bs := by
  induction as with
  | nil => simp [tidy, h]
  | cons a as ih =>
    have hh : (as ++ x :: bs).head?.all blank = (as ++ [x]).head?.all blank := by
      cases as <;> rfl
    simp only [List.cons_append, tidy, hh, ih]
    split <;> rfl

/-- The last entry stays if it is not blank. -/
theorem tidy_concat {x : α} (as : List α) (h : blank x = false) :
    ∃ bs, tidy blank (as ++ [x]) = bs ++ [x] ∧ bs.Sublist as := by
  induction as with
  | nil => exact ⟨[], by simp [tidy, h], .slnil⟩
  | cons a as ih =>
    obtain ⟨bs, hb, hs⟩ := ih
    simp only [List.cons_append, tidy, hb]
    split
    · exact ⟨bs, rfl, hs.cons a⟩
    · exact ⟨a :: bs, rfl, hs.cons_cons a⟩

/-- The last two entries stay if the last is not blank. -/
theorem tidy_append_pair {x y : α} (as : List α) (h : blank y = false) :
    ∃ bs, tidy blank (as ++ [x, y]) = bs ++ [x, y] := by
  induction as with
  | nil => exact ⟨[], by simp [tidy, h]⟩
  | cons a as ih =>
    obtain ⟨bs, hb⟩ := ih
    simp only [List.cons_append, tidy, hb]
    split
    · exact ⟨bs, rfl⟩
    · exact ⟨a :: bs, rfl⟩

theorem head?_tidy {as : List α} (h : as.head?.all blank = false) :
    (tidy blank as).head? = as.head? := by
  cases as with
  | nil => cases h
  | cons a as => simp [tidy_cons_solid as (by simpa using h)]

/-- After one pass nothing is left to drop. -/
theorem tidy_tidy (as : List α) : tidy blank (tidy blank as) = tidy blank as := by
  induction as with
  | nil => rfl
  | cons a as ih =>
    cases hb : blank a && as.head?.all blank with
    | true => rw [tidy, if_pos hb, ih]
    | false =>
      rw [tidy_cons_keep hb]
      cases ha : blank a with
      | false => rw [tidy_cons_solid _ ha, ih]
      | true =>
        have hh : as.head?.all blank = false := by simpa [ha] using hb
        rw [tidy_cons_keep (by rw [head?_tidy hh, hb]), ih]

/-- What the pass leaves holds no two blank entries in a row. -/
theorem isChain_tidy (as : List α) :
    (tidy blank as).IsChain fun a b => ¬(blank a = true ∧ blank b = true) := by
  induction as with
  | nil => exact .nil
  | cons a as ih =>
    cases hd : blank a && as.head?.all blank with
    | true => rwa [tidy, if_pos hd]
    | false =>
      rw [tidy_cons_keep hd, List.isChain_cons]
      refine ⟨?_, ih⟩
      rintro b hb ⟨ha, hbb⟩
      -- the entry below would be the first of the rest already
      have hh : as.head?.all blank = false := by simpa [ha] using hd
      rw [head?_tidy hh] at hb
      simp [Option.mem_def.1 hb, hbb] at hh

/-- Nor does it end in a blank entry. -/
theorem not_blank_of_getLast?_tidy {as : List α} {a : α} (h : (tidy blank as).getLast? = some a) :
    blank a = false := by
  induction as with
  | nil => cases h
  | cons b as ih =>
    cases hd : blank b && as.head?.all blank with
    | true =>
      rw [tidy, if_pos hd] at h
      exact ih h
    | false =>
      rw [tidy_cons_keep hd, List.getLast?_cons] at h
      cases hl : (tidy blank as).getLast? with
      | some c => exact ih (by rwa [hl] at h ⊢)
      | none =>
        obtain rfl : b = a := by simpa [hl] using h
        -- nothing is left below, so what stood there was blank
        cases as with
        | nil => simpa using hd
        | cons c as =>
          cases hc : blank c with
          | true => simpa [hc] using hd
          | false =>
            rw [tidy_cons_solid as hc] at hl
            simp at hl

theorem tidy_map (f : β → α) (bs : List β) :
    tidy blank (bs.map f) = (tidy (fun b => blank (f b)) bs).map f := by
  induction bs with
  | nil => rfl
  | cons b bs ih =>
    have hh : (bs.map f).head?.all blank = bs.head?.all fun b => blank (f b) := by
      cases bs <;> rfl
    simp only [List.map_cons, tidy, hh, ih]
    split <;> rfl

/-- An entry that `f` spreads over some entries: one blank entry for a blank one, and otherwise
entries of which none can be dropped. -/
structure Spreads (blank : α → Bool) (blank' : β → Bool) (f : α → List β) (a : α) : Prop where
  one : blank a = true → ∃ b, f a = [b] ∧ blank' b = true
  starts : blank a = false → (f a).head?.all blank' = false
  stays : blank a = false → ∀ bs, tidy blank' (f a ++ bs) = f a ++ tidy blank' bs

variable {blank' : β → Bool} {f : α → List β}

theorem Spreads.head?_append {a : α} (h : Spreads blank blank' f a) (bs : List β) :
    (f a ++ bs).head?.all blank' = blank a := by
  cases ha : blank a with
  | true =>
    obtain ⟨b, hf, hb⟩ := h.one ha
    simpa [hf] using hb
  | false =>
    have hs := h.starts ha
    cases hf : f a with
    | nil => simp [hf] at hs
    | cons b cs => simpa [hf] using hs

theorem head?_flatMap_spreads {as : List α} (h : ∀ a ∈ as, Spreads blank blank' f a) :
    (as.flatMap f).head?.all blank' = as.head?.all blank := by
  cases as with
  | nil => rfl
  | cons a as =>
    rw [List.flatMap_cons, (h a (by simp)).head?_append]
    simp

/-- The pass may be made before the entries are spread. -/
theorem tidy_flatMap {as : List α} (h : ∀ a ∈ as, Spreads blank blank' f a) :
    tidy blank' (as.flatMap f) = (tidy blank as).flatMap f := by
  induction as with
  | nil => rfl
  | cons a as ih =>
    have ha := h a (by simp)
    have has : ∀ b ∈ as, Spreads blank blank' f b := fun b hb => h b (List.mem_cons_of_mem _ hb)
    rw [List.flatMap_cons]
    cases hb : blank a with
    | true =>
      obtain ⟨b, hf, hb'⟩ := ha.one hb
      simp only [hf, List.singleton_append, tidy, hb, hb', head?_flatMap_spreads has, ih has]
      split <;> simp [hf]
    | false =>
      rw [ha.stays hb, ih has, tidy_cons_solid as hb, List.flatMap_cons]

end Tidy

/-! ## The two passes over a page -/

theorem startsBlank_eq (ls : List String) (h : ls ≠ []) :
    startsBlank ls = ls.head?.all isBlank := by
  cases ls with
  | nil => exact absurd rfl h
  | cons l ls => rfl

theorem dropBlankEnd_cons {l : String} {ls : List String}
    (h : isBlank l = false ∨ dropBlankEnd ls ≠ []) :
    dropBlankEnd (l :: ls) = l :: dropBlankEnd ls := by
  unfold dropBlankEnd at *
  rw [List.reverse_cons, List.dropWhile_append]
  split
  · rename_i he
    rw [List.isEmpty_iff] at he
    simp only [he, List.reverse_nil, ne_eq, not_true_eq_false, or_false] at h
    simp [he, h]
  · simp

theorem dropBlankEnd_singleton {l : String} (h : isBlank l = true) : dropBlankEnd [l] = [] := by
  simp [dropBlankEnd, h]

/-- Shrinking the runs and cutting the end is one pass. -/
theorem dropBlankEnd_collapseBlank (ls : List String) :
    dropBlankEnd (collapseBlank ls) = tidy isBlank ls := by
  induction ls with
  | nil => rfl
  | cons l ls ih =>
    cases hl : isBlank l with
    | false => rw [collapseBlank, hl, Bool.false_and, if_neg (by simp), dropBlankEnd_cons (.inl hl),
        ih, tidy_cons_solid ls hl]
    | true =>
      cases ls with
      | nil => simp [collapseBlank, tidy, startsBlank, hl, dropBlankEnd_singleton hl]
      | cons k ls =>
        cases hk : isBlank k with
        | true =>
          have hs : collapseBlank (l :: k :: ls) = collapseBlank (k :: ls) := by
            rw [collapseBlank, if_pos (by simp [startsBlank, hl, hk])]
          rw [hs, ih, tidy_cons_drop hl (by simp [hk])]
        | false =>
          have hne : dropBlankEnd (collapseBlank (k :: ls)) ≠ [] := by
            rw [ih, tidy_cons_solid ls hk]
            simp
          have hs : collapseBlank (l :: k :: ls) = l :: collapseBlank (k :: ls) := by
            simp [collapseBlank, startsBlank, hk]
          rw [hs, dropBlankEnd_cons (.inr hne), ih, tidy_cons_keep (a := l) (by simp [hk])]

theorem finishText_collapseBlank (ls : List String) :
    finishText (collapseBlank ls) = unlines (tidy isBlank ls) := by
  rw [finishText, dropBlankEnd_collapseBlank]

end PagePrep
