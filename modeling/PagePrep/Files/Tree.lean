/-!
# File trees

What a file system holds: at each location, named from the top down, a file, a link or a folder.
Paths are seen from a working folder.
-/

set_option autoImplicit false

namespace PagePrep

/-- Names from the top down. -/
abbrev Location := List String

/-- What is at a location. -/
inductive Entry where
  | file (content : ByteArray)
  /-- A link to a path, as seen from the folder that the link is in. -/
  | link (target : String)
  | folder

/-- Files, links and folders. -/
structure FileTree where
  entries : List (Location × Entry)
  /-- The folder that paths are seen from. -/
  working : Location

namespace FileTree

/-- A working folder and nothing else. -/
def empty (working : Location) : FileTree := ⟨[], working⟩

/-- What is at a location. The folder at the top is always there. -/
def get? (t : FileTree) (at_ : Location) : Option Entry :=
  if at_ = [] then some .folder
  else (t.entries.find? fun e => e.1 == at_).map Prod.snd

/-- The tree with `entry` at a location, in place of what was there. -/
def put (t : FileTree) (at_ : Location) (entry : Entry) : FileTree :=
  if t.entries.any fun e => e.1 == at_ then
    { t with entries := t.entries.map fun e => (e.1, if e.1 == at_ then entry else e.2) }
  else { t with entries := (at_, entry) :: t.entries }

/-- The greatest number of names in a location of the tree. -/
def depth (t : FileTree) : Nat := (t.entries.map fun e => e.1.length).foldr max 0

/-- The names in the folder at a location. -/
def names (t : FileTree) (at_ : Location) : List String :=
  (t.entries.filterMap fun e =>
    if e.1.dropLast = at_ then e.1.getLast? else none).eraseDups

@[simp] theorem get?_nil (t : FileTree) : t.get? [] = some .folder := rfl

section Entries

variable {t : FileTree} {at_ other : Location} {entry : Entry}

/-- What is at a location, save the top, is an entry of the tree. -/
theorem mem_entries_of_get? (h : t.get? at_ = some entry) (hn : at_ ≠ []) :
    (at_, entry) ∈ t.entries := by
  rw [get?, if_neg hn, Option.map_eq_some_iff] at h
  obtain ⟨e, he, rfl⟩ := h
  have hl : e.1 = at_ := by simpa using List.find?_some he
  rw [← hl]
  exact List.mem_of_find?_eq_some he

@[simp] theorem working_put : (t.put at_ entry).working = t.working := by
  unfold put
  split <;> rfl

theorem get?_put_self (h : at_ ≠ []) : (t.put at_ entry).get? at_ = some entry := by
  rw [get?, if_neg h, put]
  split
  · rename_i ha
    obtain ⟨e, he⟩ : ∃ e, (t.entries.find? fun e => e.1 == at_) = some e := by
      rwa [← Option.isSome_iff_exists, List.isSome_find?]
    have hf : e.1 = at_ := by simpa using List.find?_some he
    simp only [List.find?_map, Function.comp_def]
    rw [he]
    simp [hf]
  · simp

theorem get?_put_of_ne (h : other ≠ at_) : (t.put at_ entry).get? other = t.get? other := by
  unfold get? put
  split
  · rfl
  congr 1
  split
  · simp only [List.find?_map, Function.comp_def]
    cases hf : t.entries.find? fun e => e.1 == other with
    | none => rfl
    | some e =>
      have he : e.1 = other := by simpa using List.find?_some hf
      subst he
      simp [h]
  · rw [List.find?_cons_of_neg (by simpa using Ne.symm h)]

/-- Where something is replaced the names stay, in their order. -/
theorem names_put (h : (t.get? at_).isSome = true) (hn : at_ ≠ []) :
    (t.put at_ entry).names other = t.names other := by
  rw [get?, if_neg hn, Option.isSome_map, List.isSome_find?] at h
  rw [names, names, put, if_pos h, List.filterMap_map]
  rfl

end Entries

theorem le_foldr_max_of_mem {n : Nat} {ns : List Nat} (h : n ∈ ns) : n ≤ ns.foldr max 0 := by
  induction ns with
  | nil => cases h
  | cons m ms ih =>
    rcases List.mem_cons.1 h with rfl | h
    · exact Nat.le_max_left _ _
    · exact Nat.le_trans (ih h) (Nat.le_max_right _ _)

theorem le_depth_of_mem {t : FileTree} {e : Location × Entry} (h : e ∈ t.entries) :
    e.1.length ≤ t.depth :=
  le_foldr_max_of_mem (List.mem_map.2 ⟨e, h, rfl⟩)

theorem mem_names_of_mem {t : FileTree} {at_ : Location} {name : String} :
    name ∈ t.names at_ ↔ ∃ e ∈ t.entries, e.1 = at_ ++ [name] := by
  simp only [names, List.mem_eraseDups, List.mem_filterMap]
  constructor
  · rintro ⟨e, he, h⟩
    split at h
    · rename_i hd
      refine ⟨e, he, ?_⟩
      obtain ⟨ys, hy⟩ := List.getLast?_eq_some_iff.1 h
      rw [hy, List.dropLast_concat] at hd
      rw [hy, hd]
    · cases h
  · rintro ⟨e, he, h⟩
    exact ⟨e, he, by simp [h]⟩

end FileTree

end PagePrep
