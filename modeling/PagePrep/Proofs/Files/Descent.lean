import PagePrep.Proofs.Files.Contents
import PagePrep.Proofs.Files.PathOrder

/-!
# The way down from a folder

A path to a folder with names joined to it leads where the names lead from the folder
(`FileTree.walk_append`). Over folders they lead to the folder at their end, so that a folder below can
be listed unless the path to it is too long (`FileTree.listingFault?_joinAll`).
-/

set_option autoImplicit false

namespace PagePrep

open Text

namespace Path

/-! ## Joined paths -/

section Join

variable {base name : String} (hb : base ≠ "") (hn : IsName name)
include hb hn

theorem endsInSlash_join : endsInSlash (join base name) = false := by
  obtain ⟨cs, -, hj⟩ := toList_join hb hn
  obtain ⟨c, rest, hc⟩ := List.exists_cons_of_ne_nil (l := name.toList) (by simpa using hn.nonempty)
  rw [endsInSlash, hj, List.getLast?_append, hc, List.getLast?_cons_cons, beq_eq_false_iff_ne]
  intro h
  have hs : '/' ∈ c :: rest := List.mem_of_getLast? (by simpa using h)
  exact hn.noSlash (hc ▸ hs)

theorem nul_not_mem_join (h0 : '\x00' ∉ base.toList) : '\x00' ∉ (join base name).toList := by
  obtain ⟨cs, hc, hj⟩ := toList_join hb hn
  have hcs : '\x00' ∉ cs := by
    rcases hc with hc | hc <;> rw [hc] at h0
    · exact h0
    · exact fun h => h0 (List.mem_append_left _ h)
  rw [hj, List.mem_append, List.mem_cons]
  rintro (h | h | h)
  · exact hcs h
  · cases h
  · exact hn.noNul h

end Join

theorem le_utf8ByteSize_join {base sub : String} (h : isAbsolute sub = false) :
    base.utf8ByteSize + sub.utf8ByteSize ≤ (join base sub).utf8ByteSize := by
  rw [join, h, if_neg (by decide)]
  split <;> simp only [String.utf8ByteSize_append] <;> omega

/-- A slash at the end adds no step. -/
theorem steps_append_slash (path : String) : steps (path ++ "/") = steps path := by
  have hs : (path ++ "/").toList = path.toList ++ '/' :: [] := by simp
  rw [steps, steps, hs, splitAt_append_cons, List.filter_append]
  simp [splitAt]

section JoinAll

variable {root : String} {names : List String} (hr : root ≠ "") (hs : ∀ n ∈ names, IsName n)
include hr hs

theorem joinAll_ne_empty : joinAll root names ≠ "" := by
  induction names generalizing root with
  | nil => exact hr
  | cons n names ih => exact ih (join_ne_empty hr n) fun m hm => hs m (List.mem_cons_of_mem _ hm)

theorem isAbsolute_joinAll : isAbsolute (joinAll root names) = isAbsolute root := by
  induction names generalizing root with
  | nil => rfl
  | cons n names ih =>
    rw [← isAbsolute_join hr (hs n List.mem_cons_self)]
    exact ih (join_ne_empty hr n) fun m hm => hs m (List.mem_cons_of_mem _ hm)

theorem nul_not_mem_joinAll (h0 : '\x00' ∉ root.toList) : '\x00' ∉ (joinAll root names).toList := by
  induction names generalizing root with
  | nil => exact h0
  | cons n names ih =>
    exact ih (join_ne_empty hr n) (fun m hm => hs m (List.mem_cons_of_mem _ hm))
      (nul_not_mem_join hr (hs n List.mem_cons_self) h0)

theorem steps_joinAll : steps (joinAll root names) = steps root ++ names := by
  induction names generalizing root with
  | nil => rw [List.append_nil]; rfl
  | cons n names ih =>
    have hrest := ih (join_ne_empty hr n) fun m hm => hs m (List.mem_cons_of_mem _ hm)
    rw [steps_join hr (hs n List.mem_cons_self), List.append_assoc] at hrest
    exact hrest

theorem endsInSlash_joinAll (hne : names ≠ []) : endsInSlash (joinAll root names) = false := by
  induction names generalizing root with
  | nil => exact absurd rfl hne
  | cons n names ih =>
    have hn := hs n List.mem_cons_self
    by_cases he : names = []
    · subst he
      exact endsInSlash_join hr hn
    · exact ih (join_ne_empty hr n) (fun m hm => hs m (List.mem_cons_of_mem _ hm)) he

/-- Names at the end of a path are its last steps, with no slash behind them. -/
theorem walkSteps_joinAll (hne : names ≠ []) : walkSteps (joinAll root names) = steps root ++ names := by
  rw [walkSteps, endsInSlash_joinAll hr hs hne, steps_joinAll hr hs]
  simp

end JoinAll

end Path

namespace FileTree

variable {t : FileTree} {at_ top : Location} {root : String} {names : List String}

/-! ## Names -/

/-- The steps of every location are what things in folders can be called. -/
def WellNamed (t : FileTree) : Prop := ∀ e ∈ t.entries, ∀ n ∈ e.1, Path.IsName n

theorem WellNamed.isName (hw : t.WellNamed) (h : (t.get? at_).isSome = true) :
    ∀ n ∈ at_, Path.IsName n := by
  obtain ⟨e, he⟩ := Option.isSome_iff_exists.1 h
  intro n hn
  exact hw _ (mem_entries_of_get? he (List.ne_nil_of_mem hn)) n hn

/-! ## Walking down -/

/-- Steps that lead to a folder, whether a slash follows them or not, lead on from there. -/
theorem walk_append {links : Nat} {steps tail : List String} (ht : tail = [] ∨ tail = [""])
    (h : t.walk .access links at_ (steps ++ tail) = .ok (.taken top .folder)) :
    ∃ links', ∀ rest, t.walk .access links at_ (steps ++ rest) = t.walk .access links' top rest := by
  fun_induction t.walk .access links at_ steps with
  | case1 links at_ =>
    obtain rfl : at_ = top := by rcases ht with rfl | rfl <;> simpa [walk] using h
    exact ⟨links, fun _ => rfl⟩
  | case2 links at_ steps ih =>
    rw [List.cons_append, walk] at h
    obtain ⟨links', hl⟩ := ih h
    exact ⟨links', fun rest => by rw [List.cons_append, walk, hl]⟩
  | case3 links at_ steps ih =>
    rw [List.cons_append, walk] at h
    obtain ⟨links', hl⟩ := ih h
    exact ⟨links', fun rest => by rw [List.cons_append, walk, hl]⟩
  | case4 links at_ steps ih =>
    rw [List.cons_append, walk] at h
    obtain ⟨links', hl⟩ := ih h
    exact ⟨links', fun rest => by rw [List.cons_append, walk, hl]⟩
  | case5 _ _ _ _ _ _ _ hw => simp at hw
  | case9 links at_ name steps _ _ _ _ hl hg ih =>
    have hstep (rest : List String) :
        t.walk .access links at_ (name :: rest) = t.walk .access links (at_ ++ [name]) rest := by
      simp [walk, *]
    rw [List.cons_append, hstep] at h
    obtain ⟨links', hl⟩ := ih h
    exact ⟨links', fun rest => by rw [List.cons_append, hstep, hl]⟩
  | case13 at_ name steps _ _ _ _ hl target hg links start ih =>
    have hstep (rest : List String) : t.walk .access (links + 1) at_ (name :: rest) =
        t.walk .access links start (Path.walkSteps target ++ rest) := by
      simp [walk, *, start]
    rw [List.cons_append, hstep, ← List.append_assoc] at h
    obtain ⟨links', hl⟩ := ih h
    exact ⟨links', fun rest => by rw [List.cons_append, hstep, ← List.append_assoc, hl]⟩
  | _ =>
    exfalso
    revert h
    rcases ht with rfl | rfl <;> simp [walk, *]

/-- Names of folders, one in the other, lead to the last of them. -/
theorem walk_names (links : Nat) (hs : ∀ n ∈ names, Path.IsName n)
    (hf : ∀ above name, above ++ [name] <+: names → t.get? (at_ ++ above ++ [name]) = some .folder) :
    t.walk .access links at_ names = .ok (.taken (at_ ++ names) .folder) := by
  induction names generalizing at_ with
  | nil => rw [walk, List.append_nil]
  | cons name names ih =>
    have hn := hs name List.mem_cons_self
    have hg : t.get? (at_ ++ [name]) = some .folder := by simpa using hf [] name (by simp)
    have hstep : t.walk .access links at_ (name :: names) = t.walk .access links (at_ ++ [name]) names := by
      simp [walk, hn.nonempty, hn.noStep, hn.short.not_gt, hg]
    rw [hstep, ih (fun m hm => hs m (List.mem_cons_of_mem _ hm))]
    · simp
    · intro above m hm
      simpa using hf (name :: above) m (by simpa using hm)

/-! ## Listing folders below a folder -/

theorem refusal?_eq_none_iff {path : String} : refusal? path = none ↔
    '\x00' ∉ path.toList ∧ path.utf8ByteSize ≤ pathLimit ∧ path ≠ "" := by
  unfold refusal?
  split_ifs <;> simp_all

theorem refusal?_of_locate {place : Place} {path : String} (h : t.locate path = .ok place) :
    refusal? path = none := by
  unfold locate at h
  split at h
  · cases h
  · assumption

/-- Names joined to a path that is not refused can make it too long, and nothing worse. -/
theorem refusal?_joinAll (hr : refusal? root = none) (hs : ∀ n ∈ names, Path.IsName n) :
    refusal? (Path.joinAll root names) =
      if pathLimit < (Path.joinAll root names).utf8ByteSize then some .nameTooLong else none := by
  obtain ⟨h0, -, he⟩ := refusal?_eq_none_iff.1 hr
  have h0' := Path.nul_not_mem_joinAll he hs h0
  have he' := Path.joinAll_ne_empty he hs
  unfold refusal?
  rw [if_neg (by simpa using h0'), if_neg (c := _ = true) (by simpa using he')]

/-- Where names of folders lead from a folder, a path to the folder leads with the names joined to it. -/
theorem walk_joinAll (hl : t.locate root = .ok (.taken top .folder))
    (hs : ∀ n ∈ names, Path.IsName n) (hne : names ≠ [])
    (hf : ∀ above name, above ++ [name] <+: names → t.get? (top ++ above ++ [name]) = some .folder) :
    t.walk .access linkLimit (t.start (Path.joinAll root names))
      (Path.walkSteps (Path.joinAll root names)) = .ok (.taken (top ++ names) .folder) := by
  have hr := refusal?_of_locate hl
  obtain ⟨-, -, he⟩ := refusal?_eq_none_iff.1 hr
  rw [locate, hr] at hl
  obtain ⟨links, hw⟩ := walk_append (by split <;> simp) hl
  rw [start, Path.isAbsolute_joinAll he hs, Path.walkSteps_joinAll he hs hne]
  exact (hw names).trans (walk_names links hs hf)

/-- With names of folders joined to it, a path to a folder leads to the last of these, unless it gets too
long. -/
theorem locate_joinAll (hw : t.WellNamed) (hl : t.locate root = .ok (.taken top .folder))
    (hf : ∀ above name, above ++ [name] <+: names → t.get? (top ++ above ++ [name]) = some .folder) :
    t.locate (Path.joinAll root names) =
      if pathLimit < (Path.joinAll root names).utf8ByteSize then .error .nameTooLong
      else .ok (.taken (top ++ names) .folder) := by
  have hr := refusal?_of_locate hl
  rcases List.eq_nil_or_concat' names with rfl | ⟨above, name, rfl⟩
  · have hsize : root.utf8ByteSize ≤ pathLimit := (refusal?_eq_none_iff.1 hr).2.1
    show t.locate root = if pathLimit < root.utf8ByteSize then _ else _
    rw [if_neg hsize.not_gt, List.append_nil, hl]
  · have hg := hf above name (List.prefix_refl _)
    have hsome : (t.get? (top ++ above ++ [name])).isSome = true := by rw [hg]; rfl
    have hs : ∀ n ∈ above ++ [name], Path.IsName n := by
      intro n hn
      apply hw.isName hsome
      rw [List.append_assoc]
      exact List.mem_append_right _ hn
    rw [locate, refusal?_joinAll hr hs]
    split_ifs
    · rfl
    · exact walk_joinAll hl hs (by simp) hf

/-- A folder below a folder can be listed unless the path to it is too long. -/
theorem listingFault?_joinAll (hw : t.WellNamed) (hl : t.locate root = .ok (.taken top .folder))
    (hf : ∀ above name, above ++ [name] <+: names → t.get? (top ++ above ++ [name]) = some .folder) :
    t.listingFault? (Path.joinAll root names) =
      if pathLimit < (Path.joinAll root names).utf8ByteSize then some .nameTooLong else none := by
  rw [listingFault?, locate_joinAll hw hl hf]
  split_ifs <;> rfl

end FileTree

end PagePrep
