import PagePrep.Page.BlankRun
import Mathlib.Data.List.Chain

/-!
# Where lines go when blank runs shrink

Shrinking the blank runs of a page selects some of its lines, and a map tells which. A line goes just
where it and the line below are blank. Each fact about the map is shown for the map that starts at any
number, by induction over the lines; what a second pass does follows from there being no two blank lines
in a row any more.
-/

set_option autoImplicit false

namespace PagePrep

open Text

/-- Line `i` is blank, and so is the line below. -/
def DropsAt (ls : List String) (i : Nat) : Prop :=
  ∃ l k, ls[i]? = some l ∧ ls[i + 1]? = some k ∧ isBlank l = true ∧ isBlank k = true

/-- The `n` lines from line `i` on are blank, and no more lines around them are. -/
structure BlankRun (ls : List String) (i n : Nat) : Prop where
  blank : ∀ k < n, ∃ l, ls[i + k]? = some l ∧ isBlank l = true
  above : ∀ (j : Nat) l, j + 1 = i → ls[j]? = some l → isBlank l = false
  below : ∀ l, ls[i + n]? = some l → isBlank l = false

namespace Collapsed

/-- The lines left of `ls` are a selection in order, without the lines of blank runs before the last
of each, and the map tells where each line went. -/
structure Selects (c : Collapsed) (ls : List String) : Prop where
  length : c.indexMap.length = ls.length
  dropped : ∀ i, c.indexMap[i]? = some none ↔ DropsAt ls i
  places : c.indexMap.filterMap id = List.range c.lines.length
  unchanged : ∀ (i j : Nat), c.indexMap[i]? = some (some j) → ∃ l, ls[i]? = some l ∧ c.lines[j]? = some l
  kept : ∀ i l, ls[i]? = some l → isBlank l = false ∨ i + 1 = ls.length →
    ∃ j, c.indexMap[i]? = some (some j)
  apart : c.lines.IsChain fun l k => ¬(isBlank l = true ∧ isBlank k = true)
  runs : ∀ i n, BlankRun ls i n → ∀ k < n, (∃ j, c.indexMap[i + k]? = some (some j)) ↔ k + 1 = n

end Collapsed

/-! ## One pass -/

theorem startsBlank_iff {ls : List String} :
    startsBlank ls = true ↔ ∃ k, ls[0]? = some k ∧ isBlank k = true := by
  cases ls <;> simp [startsBlank]

theorem dropsAt_zero_iff {l : String} {ls : List String} :
    DropsAt (l :: ls) 0 ↔ (isBlank l && startsBlank ls) = true := by
  rw [Bool.and_eq_true, startsBlank_iff, ← exists_and_left]
  simp only [DropsAt, List.getElem?_cons_zero, List.getElem?_cons_succ]
  constructor
  · rintro ⟨m, k, hm, hk, hbm, hbk⟩
    obtain rfl := Option.some.inj hm
    exact ⟨k, hbm, hk, hbk⟩
  · rintro ⟨k, hl, hk, hb⟩
    exact ⟨l, k, rfl, hk, hl, hb⟩

theorem dropsAt_succ_iff {l : String} {ls : List String} {i : Nat} :
    DropsAt (l :: ls) (i + 1) ↔ DropsAt ls i := by
  simp [DropsAt]

theorem collapseMap_eq_none_iff (next : Nat) (ls : List String) (i : Nat) :
    (collapseMap next ls)[i]? = some none ↔ DropsAt ls i := by
  induction ls generalizing next i with
  | nil => simp [collapseMap, DropsAt]
  | cons l ls ih =>
    cases i with
    | zero =>
      rw [dropsAt_zero_iff, collapseMap]
      split <;> simp_all
    | succ i =>
      rw [dropsAt_succ_iff, collapseMap]
      split
      · exact ih next i
      · exact ih (next + 1) i

/-- The places given are one after the other, from the first on. -/
theorem filterMap_collapseMap (next : Nat) (ls : List String) :
    (collapseMap next ls).filterMap id = List.range' next (collapseBlank ls).length := by
  induction ls generalizing next with
  | nil => rfl
  | cons l ls ih =>
    rw [collapseMap, collapseBlank]
    split
    · exact ih next
    · rw [List.length_cons, List.range'_succ, ← ih (next + 1)]
      rfl

/-- A line with a place is the line that stands there afterwards. -/
theorem exists_of_collapseMap {next : Nat} {ls : List String} {i j : Nat}
    (h : (collapseMap next ls)[i]? = some (some j)) :
    ∃ k l, j = next + k ∧ ls[i]? = some l ∧ (collapseBlank ls)[k]? = some l := by
  induction ls generalizing next i with
  | nil => simp [collapseMap] at h
  | cons l ls ih =>
    rw [collapseMap] at h
    rw [collapseBlank]
    cases i with
    | zero =>
      split at h
      · simp at h
      · rw [if_neg ‹_›]
        refine ⟨0, l, ?_, rfl, rfl⟩
        simpa using h.symm
    | succ i =>
      split at h
      · rw [if_pos ‹_›]
        exact ih h
      · -- A line above stays, so the places below count from one further on.
        rw [if_neg ‹_›]
        obtain ⟨k, m, rfl, hm, hk⟩ := ih h
        exact ⟨k + 1, m, by omega, hm, hk⟩

theorem not_dropsAt {ls : List String} {i : Nat} {l : String} (hl : ls[i]? = some l)
    (h : isBlank l = false ∨ i + 1 = ls.length) : ¬DropsAt ls i := by
  rintro ⟨m, k, hm, hk, hbm, -⟩
  rcases h with hb | hlast
  · obtain rfl : l = m := Option.some.inj (hl.symm.trans hm)
    rw [hb] at hbm
    cases hbm
  · rw [hlast, List.getElem?_eq_none (Nat.le_refl _)] at hk
    cases hk

/-- A line that does not go has a place. -/
theorem exists_place (next : Nat) {ls : List String} {i : Nat} (hi : i < ls.length)
    (hd : ¬DropsAt ls i) : ∃ j, (collapseMap next ls)[i]? = some (some j) := by
  have hlen : i < (collapseMap next ls).length := by rwa [length_collapseMap]
  cases hm : (collapseMap next ls)[i] with
  | none =>
    have hnone : (collapseMap next ls)[i]? = some none := by rw [List.getElem?_eq_getElem hlen, hm]
    exact absurd ((collapseMap_eq_none_iff next ls i).1 hnone) hd
  | some j => exact ⟨j, by rw [List.getElem?_eq_getElem hlen, hm]⟩

theorem exists_place_iff (next : Nat) {ls : List String} {i : Nat} (hi : i < ls.length) :
    (∃ j, (collapseMap next ls)[i]? = some (some j)) ↔ ¬DropsAt ls i := by
  refine ⟨?_, exists_place next hi⟩
  rintro ⟨j, hj⟩ hd
  rw [(collapseMap_eq_none_iff next ls i).2 hd] at hj
  cases hj

/-- Of a blank run only the last line stays. -/
theorem BlankRun.dropsAt_iff {ls : List String} {i n k : Nat} (h : BlankRun ls i n) (hk : k < n) :
    DropsAt ls (i + k) ↔ k + 1 ≠ n := by
  obtain ⟨l, hl, hbl⟩ := h.blank k hk
  constructor
  · rintro ⟨-, m, -, hm, -, hbm⟩ rfl
    have := h.below m hm
    simp [hbm] at this
  · intro hne
    obtain ⟨m, hm, hbm⟩ := h.blank (k + 1) (by omega)
    exact ⟨l, m, hl, hm, hbl, hbm⟩

/-! ## A second pass -/

theorem startsBlank_collapseBlank (ls : List String) :
    startsBlank (collapseBlank ls) = startsBlank ls := by
  induction ls with
  | nil => rfl
  | cons l ls ih =>
    rw [collapseBlank]
    split
    · next h =>
      rw [Bool.and_eq_true] at h
      rw [ih, h.2]
      exact h.1.symm
    · rfl

theorem isChain_collapseBlank (ls : List String) :
    (collapseBlank ls).IsChain fun l k => ¬(isBlank l = true ∧ isBlank k = true) := by
  induction ls with
  | nil => exact .nil
  | cons l ls ih =>
    rw [collapseBlank]
    split
    · exact ih
    · next h =>
      refine List.isChain_cons.2 ⟨?_, ih⟩
      rintro k hk ⟨hl, hbk⟩
      have hs : startsBlank (collapseBlank ls) = true :=
        startsBlank_iff.2 ⟨k, by rwa [← List.head?_eq_getElem?], hbk⟩
      rw [startsBlank_collapseBlank] at hs
      exact h (by simp [hl, hs])

/-- Nothing goes where no two blank lines follow one another. -/
theorem collapse_of_isChain (next : Nat) {ls : List String}
    (h : ls.IsChain fun l k => ¬(isBlank l = true ∧ isBlank k = true)) :
    collapseBlank ls = ls ∧ collapseMap next ls = (List.range' next ls.length).map some := by
  induction ls generalizing next with
  | nil => exact ⟨rfl, rfl⟩
  | cons l ls ih =>
    obtain ⟨hl, hls⟩ := List.isChain_cons.1 h
    have hkeep : ¬(isBlank l && startsBlank ls) = true := by
      rw [Bool.and_eq_true, startsBlank_iff]
      rintro ⟨hbl, k, hk, hbk⟩
      exact hl k (by rwa [Option.mem_def, List.head?_eq_getElem?]) ⟨hbl, hbk⟩
    obtain ⟨hc, hm⟩ := ih (next + 1) hls
    rw [collapseBlank, if_neg hkeep, hc, collapseMap, if_neg hkeep, hm, List.length_cons,
      List.range'_succ, List.map_cons]
    exact ⟨rfl, rfl⟩

/-- **Shrinking blank runs selects lines.** What is left of a page's lines are those that are not blank
or that end a blank run, in order and unchanged, and the map gives each its place. Another pass changes
nothing. -/
theorem collapse_selects (ls : List String) :
    (Collapsed.ofLines ls).Selects ls ∧
      Collapsed.ofLines (Collapsed.ofLines ls).lines =
        ⟨(Collapsed.ofLines ls).lines,
          (List.range (Collapsed.ofLines ls).lines.length).map some⟩ := by
  constructor
  · exact {
      length := length_collapseMap 0 ls
      dropped := collapseMap_eq_none_iff 0 ls
      places := by rw [List.range_eq_range']; exact filterMap_collapseMap 0 ls
      unchanged := by
        intro i j h
        obtain ⟨k, l, rfl, hl, hk⟩ := exists_of_collapseMap h
        exact ⟨l, hl, by rwa [Nat.zero_add]⟩
      kept := by
        intro i l hl hk
        obtain ⟨hi, -⟩ := List.getElem?_eq_some_iff.1 hl
        exact exists_place 0 hi (not_dropsAt hl hk)
      apart := isChain_collapseBlank ls
      runs := by
        intro i n h k hk
        obtain ⟨l, hl, -⟩ := h.blank k hk
        obtain ⟨hi, -⟩ := List.getElem?_eq_some_iff.1 hl
        exact (exists_place_iff 0 hi).trans ((not_congr (h.dropsAt_iff hk)).trans not_not) }
  · obtain ⟨hc, hm⟩ := collapse_of_isChain 0 (isChain_collapseBlank ls)
    rw [← List.range_eq_range'] at hm
    exact congrArg₂ Collapsed.mk hc hm

example : Collapsed.ofLines ["a", "", " \t", "b", "", ""] =
    ⟨["a", " \t", "b", ""], [some 0, none, some 1, some 2, none, some 3]⟩ := by decide

end PagePrep
