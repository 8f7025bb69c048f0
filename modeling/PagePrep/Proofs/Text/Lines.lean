import PagePrep.Text.Lines
import PagePrep.Text.Search
import Mathlib.Data.List.Basic

/-!
# Texts and their lines

A text written line by line is read back as the same lines, each without the one carriage return
that a reader takes for a part of the ending. What a text holds, apart from line endings, its lines
hold.
-/

set_option autoImplicit false

namespace PagePrep.Text

/-- A line without the carriage return at its end, as it is read back once it was written. -/
def chomp (l : String) : String := String.ofList (dropReturn l.toList.reverse).reverse

/-- The pieces of a text between its newlines. -/
def rows (s : String) : List String := (splitAt '\n' s.toList).map String.ofList

/-! ## Lines that are read -/

theorem newline_not_mem_of_mem_linesFrom {held cs : List Char} {l : String} (hh : '\n' ∉ held)
    (h : l ∈ linesFrom held cs) : '\n' ∉ l.toList := by
  induction cs generalizing held with
  | nil =>
    unfold linesFrom at h
    split at h
    · cases h
    · rw [List.mem_singleton.1 h]
      simpa using hh
  | cons c cs ih =>
    unfold linesFrom at h
    split at h
    · rcases List.mem_cons.1 h with rfl | h
      · have hd : '\n' ∉ dropReturn held := by
          unfold dropReturn
          split
          · exact fun m => hh (List.mem_cons_of_mem _ m)
          · exact hh
        simpa using hd
      · exact ih (by simp) h
    · rename_i hc
      exact ih (by simp [hh, Ne.symm hc]) h

/-- A line holds no newline. -/
theorem newline_not_mem_of_mem_lines {s l : String} (h : l ∈ lines s) : '\n' ∉ l.toList :=
  newline_not_mem_of_mem_linesFrom (by simp) h

theorem dropReturn_suffix (held : List Char) : dropReturn held <:+ held := by
  unfold dropReturn
  split
  · exact List.suffix_cons _ _
  · exact List.suffix_refl _

theorem infix_of_mem_linesFrom {held cs : List Char} {l : String} (h : l ∈ linesFrom held cs) :
    l.toList <:+: held.reverse ++ cs := by
  induction cs generalizing held with
  | nil =>
    unfold linesFrom at h
    split at h
    · cases h
    · rw [List.mem_singleton.1 h]
      simp
  | cons c cs ih =>
    unfold linesFrom at h
    split at h
    · rcases List.mem_cons.1 h with rfl | h
      · have hp : (dropReturn held).reverse <+: held.reverse :=
          List.reverse_prefix.2 (dropReturn_suffix held)
        simpa using (hp.trans (List.prefix_append _ (c :: cs))).isInfix
      · have hi : l.toList <:+: cs := by simpa using ih h
        exact hi.trans ((List.suffix_cons c cs).trans (List.suffix_append _ _)).isInfix
    · have hi := ih h
      simpa using hi

/-- A line is a part of its text. -/
theorem infix_of_mem_lines {s l : String} (h : l ∈ lines s) : l.toList <:+: s.toList := by
  simpa using infix_of_mem_linesFrom h

/-! ## Lines that are written and read back -/

theorem linesFrom_append_newline {held cs : List Char} (rest : List Char) (h : '\n' ∉ cs) :
    linesFrom held (cs ++ '\n' :: rest) =
      String.ofList (dropReturn (cs.reverse ++ held)).reverse :: linesFrom [] rest := by
  induction cs generalizing held with
  | nil => simp [linesFrom]
  | cons c cs ih =>
    have hc : c ≠ '\n' := fun e => h (e ▸ List.mem_cons_self)
    have hcs : '\n' ∉ cs := fun m => h (List.mem_cons_of_mem _ m)
    simp [linesFrom, hc, ih hcs]

/-- Written lines are read back without the carriage returns at their ends. -/
theorem lines_unlines {ls : List String} (h : ∀ l ∈ ls, '\n' ∉ l.toList) :
    lines (unlines ls) = ls.map chomp := by
  unfold lines
  rw [toList_unlines]
  induction ls with
  | nil => rfl
  | cons l ls ih =>
    have hl : '\n' ∉ l.toList := h l (by simp)
    rw [List.flatMap_cons, List.append_assoc, List.singleton_append, linesFrom_append_newline _ hl,
      ih fun k hk => h k (List.mem_cons_of_mem _ hk)]
    simp [chomp]

/-- Lines that end in no carriage return are read back as they are. -/
theorem lines_unlines_eq_self {ls : List String} (h : ∀ l ∈ ls, '\n' ∉ l.toList ∧ chomp l = l) :
    lines (unlines ls) = ls := by
  rw [lines_unlines fun l hl => (h l hl).1]
  exact (List.map_congr_left fun l hl => (h l hl).2).trans (List.map_id ls)

theorem linesFrom_append (held cs rest : List Char) :
    linesFrom held (cs ++ '\n' :: rest) = linesFrom held (cs ++ ['\n']) ++ linesFrom [] rest := by
  induction cs generalizing held with
  | nil => rfl
  | cons c cs ih =>
    rw [List.cons_append, List.cons_append, linesFrom, linesFrom]
    split
    · rw [ih, List.cons_append]
    · exact ih (c :: held)

/-- Behind a newline the lines of a text begin anew. -/
theorem lines_append (s t : String) : lines (s ++ "\n" ++ t) = lines (s ++ "\n") ++ lines t := by
  simpa [lines] using linesFrom_append [] s.toList t.toList

/-- What stands before and behind a separator is split apart. -/
theorem splitAt_append_cons (sep : Char) (cs rest : List Char) :
    splitAt sep (cs ++ sep :: rest) = splitAt sep cs ++ splitAt sep rest := by
  induction cs with
  | nil => simp [splitAt]
  | cons c cs ih =>
    rw [List.cons_append, splitAt, splitAt, ih]
    split
    · rfl
    · cases h : splitAt sep cs with
      | nil => exact absurd h (splitAt_ne_nil sep cs)
      | cons p ps => rfl

theorem splitAt_of_not_mem {sep : Char} {cs : List Char} (h : sep ∉ cs) : splitAt sep cs = [cs] := by
  induction cs with
  | nil => rfl
  | cons c cs ih =>
    have hc : c ≠ sep := fun e => h (e ▸ List.mem_cons_self)
    simp [splitAt, hc, ih fun m => h (List.mem_cons_of_mem _ m)]

/-- Between the newlines of a written text stand its lines, and nothing after the last newline. -/
theorem rows_unlines {ls : List String} (h : ∀ l ∈ ls, '\n' ∉ l.toList) :
    rows (unlines ls) = ls ++ [""] := by
  unfold rows
  rw [toList_unlines]
  induction ls with
  | nil => rfl
  | cons l ls ih =>
    have hl : '\n' ∉ l.toList := h l (by simp)
    rw [List.flatMap_cons, List.append_assoc, List.singleton_append, splitAt_append_cons,
      splitAt_of_not_mem hl, List.singleton_append, List.map_cons,
      ih fun k hk => h k (List.mem_cons_of_mem _ hk)]
    simp

theorem unlines_cons (l : String) (ls : List String) :
    unlines (l :: ls) = l ++ "\n" ++ unlines ls := by
  simp [unlines, String.join_cons]

theorem unlines_eq_empty_iff {ls : List String} : unlines ls = "" ↔ ls = [] := by
  cases ls with
  | nil => simp
  | cons l ls => simp [unlines_cons]

/-- Lines put between newlines, with nothing after the last, are the lines written. -/
theorem intercalate_concat_empty (ls : List String) :
    "\n".intercalate (ls ++ [""]) = unlines ls := by
  induction ls with
  | nil => simp
  | cons l ls ih =>
    rw [List.cons_append, String.intercalate_cons_of_ne_nil (by simp), ih, unlines_cons]

/-- A newline at the end of a text begins one more row. -/
theorem rows_append_newline (s : String) : rows (s ++ "\n") = rows s ++ [""] := by
  simp [rows, splitAt_append_cons, splitAt]

theorem exists_of_unlines {ls : List String} (h : ls ≠ []) : ∃ s, unlines ls = s ++ "\n" := by
  obtain ⟨init, l, rfl⟩ := (List.eq_nil_or_concat ls).resolve_left h
  refine ⟨unlines init ++ l, ?_⟩
  rw [← String.toList_inj]
  simp [toList_unlines]

/-- A text whose last row is not empty does not end in a newline. -/
theorem getLast?_ne_newline {s l : String} (h : (rows s).getLast? = some l) (hl : l ≠ "") :
    s.toList.getLast? ≠ some '\n' := by
  intro hs
  obtain ⟨cs, hcs⟩ := List.getLast?_eq_some_iff.1 hs
  have hrows : rows s = rows (String.ofList cs) ++ [""] := by
    rw [← rows_append_newline]
    congr 1
    rw [← String.toList_inj, hcs]
    simp
  rw [hrows, List.getLast?_concat] at h
  exact hl (Option.some.inj h).symm

/-! ## What a text holds -/

theorem occurs_iff_isInfix {needle cs : List Char} : occurs needle cs = true ↔ needle <:+: cs := by
  induction cs with
  | nil => simp [occurs]
  | cons c cs ih =>
    rw [occurs, Bool.or_eq_true, ih, List.infix_cons_iff, List.isPrefixOf_iff_prefix]

theorem contains_iff_isInfix {s needle : String} :
    contains s needle = true ↔ needle.toList <:+: s.toList :=
  occurs_iff_isInfix

theorem infix_append_cons_iff {x : Char} {needle left right : List Char} (h : x ∉ needle) :
    needle <:+: left ++ x :: right ↔ needle <:+: left ∨ needle <:+: right := by
  constructor
  · rintro ⟨a, b, hab⟩
    rw [List.append_assoc] at hab
    rcases List.append_eq_append_iff.1 hab with ⟨m, rfl, hm⟩ | ⟨m, rfl, hm⟩
    · -- the needle starts inside `left`, and cannot reach beyond `x`
      rcases List.append_eq_append_iff.1 hm with ⟨k, rfl, -⟩ | ⟨k, rfl, hk⟩
      · exact .inl ⟨a, k, by simp⟩
      · cases k with
        | nil => exact .inl ⟨a, [], by simp⟩
        | cons y k =>
          have hy : x = y := (List.cons.inj hk).1
          exact absurd (by simp [hy]) h
    · cases m with
      | nil =>
        cases needle with
        | nil => exact .inl (List.nil_infix)
        | cons y k =>
          have hy : x = y := (List.cons.inj (by simpa using hm)).1
          exact absurd (by simp [hy]) h
      | cons y m =>
        have hr : right = m ++ (needle ++ b) := (List.cons.inj hm).2
        exact .inr ⟨m, b, by simp [hr]⟩
  · rintro (hl | hr)
    · exact hl.trans (List.prefix_append _ _).isInfix
    · exact hr.trans ((List.suffix_cons _ _).trans (List.suffix_append _ _)).isInfix

/-- A written text holds a piece without newlines just where one of its lines does. -/
theorem contains_unlines_iff {ls : List String} {needle : String} (h : '\n' ∉ needle.toList)
    (hne : needle ≠ "") :
    contains (unlines ls) needle = true ↔ ∃ l ∈ ls, contains l needle = true := by
  simp only [contains_iff_isInfix, toList_unlines]
  induction ls with
  | nil =>
    have hn : needle.toList ≠ [] := by simpa using hne
    simp [hn]
  | cons l ls ih =>
    rw [List.flatMap_cons, List.append_assoc, List.singleton_append, infix_append_cons_iff h, ih]
    simp

theorem contains_of_mem_lines {s l needle : String} (hl : l ∈ lines s)
    (h : contains l needle = true) : contains s needle = true :=
  contains_iff_isInfix.2 ((contains_iff_isInfix.1 h).trans (infix_of_mem_lines hl))

end PagePrep.Text
