import PagePrep.Files.Access

/-!
# Trees that differ in contents

Two trees are alike if nothing but the contents of their files differs. Every path leads to the same
place in both (`FileTree.locate_outline`), so that what can be read in one can be read in the other,
and what cannot fails alike. For that it does not matter in which order folders list what is in them
(`FileTree.SameOutline`).
-/

set_option autoImplicit false

namespace PagePrep

/-- The entry with nothing in its file. -/
def Entry.outline : Entry → Entry
  | file _ => file .empty
  | link target => link target
  | folder => folder

/-- The place with nothing in its file. -/
def Place.outline : Place → Place
  | taken at_ entry => taken at_ entry.outline
  | free folder name => free folder name

theorem Entry.outline_eq_file {e : Entry} (h : e.outline = file .empty) :
    ∃ content, e = file content := by
  cases e <;> simp [outline] at h ⊢

theorem Entry.outline_eq_link {e : Entry} {target : String} (h : e.outline = link target) :
    e = link target := by
  cases e <;> simp_all [outline]

theorem Entry.outline_eq_folder {e : Entry} (h : e.outline = folder) : e = folder := by
  cases e <;> simp [outline] at h ⊢

namespace FileTree

variable {t t' : FileTree} {at_ : Location} {path : String}

/-- `t'` holds the same as `t` at every location, up to the contents of files. -/
structure SameOutline (t t' : FileTree) : Prop where
  working : t'.working = t.working
  outline : ∀ at_, (t'.get? at_).map Entry.outline = (t.get? at_).map Entry.outline

/-- `t'` is `t` up to the contents of files: folders list what is in them in the same order, too. -/
structure Alike (t t' : FileTree) : Prop extends SameOutline t t' where
  names : ∀ at_, t'.names at_ = t.names at_

namespace Alike

theorem refl (t : FileTree) : t.Alike t := ⟨⟨rfl, fun _ => rfl⟩, fun _ => rfl⟩

theorem trans {t'' : FileTree} (h : t.Alike t') (h' : t'.Alike t'') : t.Alike t'' where
  working := h'.working.trans h.working
  outline := fun a => (h'.outline a).trans (h.outline a)
  names := fun a => (h'.names a).trans (h.names a)

end Alike

namespace SameOutline

theorem symm (h : t.SameOutline t') : t'.SameOutline t :=
  ⟨h.working.symm, fun a => (h.outline a).symm⟩

variable (h : t.SameOutline t')
include h

theorem get?_none (hg : t.get? at_ = none) : t'.get? at_ = none := by
  have ho := h.outline at_
  rwa [hg, Option.map_none, Option.map_eq_none_iff] at ho

theorem get?_some {e : Entry} (hg : t.get? at_ = some e) :
    ∃ e', t'.get? at_ = some e' ∧ e'.outline = e.outline := by
  have ho := h.outline at_
  rwa [hg, Option.map_some, Option.map_eq_some_iff] at ho

theorem get?_folder (hg : t.get? at_ = some .folder) : t'.get? at_ = some .folder := by
  obtain ⟨e, he, ho⟩ := h.get?_some hg
  rw [he, Entry.outline_eq_folder ho]

theorem get?_link {target : String} (hg : t.get? at_ = some (.link target)) :
    t'.get? at_ = some (.link target) := by
  obtain ⟨e, he, ho⟩ := h.get?_some hg
  rw [he, Entry.outline_eq_link ho]

theorem get?_file {content : ByteArray} (hg : t.get? at_ = some (.file content)) :
    ∃ content', t'.get? at_ = some (.file content') := by
  obtain ⟨e, he, ho⟩ := h.get?_some hg
  obtain ⟨content', rfl⟩ := Entry.outline_eq_file ho
  exact ⟨content', he⟩

end SameOutline

/-! ## Where paths lead -/

theorem walk_outline (h : t.SameOutline t') (purpose : Purpose) (links : Nat) (at_ : Location)
    (steps : List String) :
    (t'.walk purpose links at_ steps).map Place.outline =
      (t.walk purpose links at_ steps).map Place.outline := by
  fun_induction t.walk purpose links at_ steps with
  | case1 => rw [walk]
  | case2 links at_ rest ih => rw [walk, ih]
  | case3 links at_ rest ih => rw [walk, ih]
  | case4 links at_ rest ih => rw [walk, ih]
  | case5 links at_ name rest => simp [walk, *]
  | case6 links at_ name rest => simp [walk, *]
  | case7 links at_ name _ _ _ _ hg => simp [walk, *, h.get?_none hg]
  | case8 links at_ name rest _ _ _ _ _ hg => simp [walk, *, h.get?_none hg]
  | case9 links at_ name rest _ _ _ _ _ hg ih => simp [walk, *, h.get?_folder hg]
  | case10 links at_ name _ _ _ _ content hg =>
    obtain ⟨content', hg'⟩ := h.get?_file hg
    simp [walk, *, Except.map, Place.outline, Entry.outline]
  | case11 links at_ name rest _ _ _ _ _ content hg =>
    obtain ⟨content', hg'⟩ := h.get?_file hg
    simp [walk, *]
  | case12 at_ name rest _ _ _ _ _ target hg => simp [walk, *, h.get?_link hg]
  | case13 at_ name rest _ _ _ hw hl target hg links start ih =>
    rw [walk, if_neg hw, if_neg hl, h.get?_link hg]
    · exact ih
    all_goals assumption

/-- A path that leads to a file leads to one that is there. -/
theorem get?_of_walk {purpose : Purpose} {links : Nat} {start : Location} {steps : List String}
    {content : ByteArray} (h : t.walk purpose links start steps = .ok (.taken at_ (.file content))) :
    t.get? at_ = some (.file content) := by
  fun_induction t.walk purpose links start steps <;> simp_all

/-- No file is behind a slash at the end. -/
theorem walk_ne_file_of_slash {purpose : Purpose} {links : Nat} {start : Location}
    {steps : List String} (hs : steps.getLast? = some "") (content : ByteArray) :
    t.walk purpose links start steps ≠ .ok (.taken at_ (.file content)) := by
  have tail {step : String} {rest : List String} (hn : step ≠ "" ∨ rest ≠ [])
      (hl : (step :: rest).getLast? = some "") : rest.getLast? = some "" := by
    cases rest with
    | nil => simp_all
    | cons => simpa using hl
  fun_induction t.walk purpose links start steps with
  | case1 => simp at hs
  | case2 links at_ rest ih =>
    by_cases hr : rest = []
    · simp [hr, walk]
    · exact ih (tail (.inr hr) hs)
  | case3 links at_ rest ih => exact ih (tail (.inl (by decide)) hs)
  | case4 links at_ rest ih => exact ih (tail (.inl (by decide)) hs)
  | case9 links at_ name rest hn _ _ _ _ _ ih => exact ih (tail (.inl hn) hs)
  | case10 links at_ name hn => exact absurd (by simpa using hs) hn
  | case13 at_ name rest hn _ _ _ _ target _ links start ih =>
    exact ih (by rw [List.getLast?_append, tail (.inl hn) hs]; rfl)
  | _ => simp

/-- A file that can be reached can be written. -/
theorem walk_writing {links : Nat} {start : Location} {steps : List String} {content : ByteArray}
    (h : t.walk .access links start steps = .ok (.taken at_ (.file content))) :
    t.walk .writing links start steps = .ok (.taken at_ (.file content)) := by
  fun_induction t.walk .access links start steps with
  | case1 => simp at h
  | case2 links at_ rest ih => rw [walk, ih h]
  | case3 links at_ rest ih => rw [walk, ih h]
  | case4 links at_ rest ih => rw [walk, ih h]
  | case9 links at_ name rest h0 h1 h2 _ hl hg ih =>
    have hr : rest ≠ [""] := by
      rintro rfl
      exact walk_ne_file_of_slash rfl content h
    simp [walk, hr, hl, hg, ih h]
  | case10 links at_ name _ _ _ hl content' hg => simpa [walk, hl, hg] using h
  | case13 at_ name rest h0 h1 h2 _ hl target hg links start ih =>
    have hr : rest ≠ [""] := by
      rintro rfl
      exact walk_ne_file_of_slash (by simp) content h
    rw [walk, if_neg (by simp [hr]), if_neg hl, hg]
    · exact ih h
    all_goals assumption
  | _ => simp at h

theorem locate_outline (h : t.SameOutline t') (path : String) (purpose : Purpose) :
    (t'.locate path purpose).map Place.outline = (t.locate path purpose).map Place.outline := by
  unfold locate start
  rw [h.working]
  split
  · rfl
  · exact walk_outline h _ _ _ _

theorem get?_of_locate {purpose : Purpose} {content : ByteArray}
    (h : t.locate path purpose = .ok (.taken at_ (.file content))) :
    t.get? at_ = some (.file content) := by
  unfold locate at h
  split at h
  · cases h
  · exact get?_of_walk h

theorem locate_writing {content : ByteArray} (h : t.locate path = .ok (.taken at_ (.file content))) :
    t.locate path .writing = .ok (.taken at_ (.file content)) := by
  unfold locate at h ⊢
  split at h
  · cases h
  · exact walk_writing h

theorem isFolder_eq_true_iff :
    t.isFolder path = true ↔ ∃ at_, t.locate path = .ok (.taken at_ .folder) := by
  unfold isFolder
  split
  · rename_i at_ h
    exact ⟨fun _ => ⟨at_, h⟩, fun _ => rfl⟩
  · rename_i h
    simp only [Bool.false_eq_true, false_iff]
    rintro ⟨at_, ha⟩
    exact h at_ ha

namespace SameOutline

variable (h : t.SameOutline t')
include h

theorem locate_ok {purpose : Purpose} {place : Place} (hl : t.locate path purpose = .ok place) :
    ∃ place', t'.locate path purpose = .ok place' ∧ place'.outline = place.outline := by
  have ho := locate_outline h path purpose
  rw [hl] at ho
  cases hl' : t'.locate path purpose with
  | error f =>
    rw [hl'] at ho
    cases ho
  | ok place' =>
    rw [hl'] at ho
    exact ⟨place', rfl, Except.ok.inj ho⟩

theorem locate_error {purpose : Purpose} {f : FileFault}
    (hl : t.locate path purpose = .error f) : t'.locate path purpose = .error f := by
  have ho := locate_outline h path purpose
  rw [hl] at ho
  cases hl' : t'.locate path purpose with
  | error f' =>
    rw [hl'] at ho
    rw [Except.error.inj ho]
  | ok place' =>
    rw [hl'] at ho
    cases ho

theorem locate_taken {purpose : Purpose} {e : Entry}
    (hl : t.locate path purpose = .ok (.taken at_ e)) :
    ∃ e', t'.locate path purpose = .ok (.taken at_ e') ∧ e'.outline = e.outline := by
  obtain ⟨place', hp, ho⟩ := h.locate_ok hl
  cases place' with
  | taken at' e' =>
    obtain ⟨rfl, he⟩ : at' = at_ ∧ e'.outline = e.outline := by simpa [Place.outline] using ho
    exact ⟨e', hp, he⟩
  | free folder name => simp [Place.outline] at ho

theorem locate_folder (hl : t.locate path = .ok (.taken at_ .folder)) :
    t'.locate path = .ok (.taken at_ .folder) := by
  obtain ⟨e', hp, he⟩ := h.locate_taken hl
  rw [hp, Entry.outline_eq_folder he]

theorem locate_file {content : ByteArray} (hl : t.locate path = .ok (.taken at_ (.file content))) :
    ∃ content', t'.locate path = .ok (.taken at_ (.file content')) := by
  obtain ⟨e', hp, he⟩ := h.locate_taken hl
  obtain ⟨content', rfl⟩ := Entry.outline_eq_file he
  exact ⟨content', hp⟩

theorem isFolder_eq (path : String) : t'.isFolder path = t.isFolder path := by
  rw [Bool.eq_iff_iff, isFolder_eq_true_iff, isFolder_eq_true_iff]
  exact ⟨fun ⟨a, ha⟩ => ⟨a, h.symm.locate_folder ha⟩, fun ⟨a, ha⟩ => ⟨a, h.locate_folder ha⟩⟩

/-- What cannot be listed in one tree cannot be listed in the other, for the same reason. -/
theorem listingFault?_eq (path : String) : t'.listingFault? path = t.listingFault? path := by
  unfold listingFault?
  cases hl : t.locate path with
  | error f => rw [h.locate_error hl]
  | ok place =>
    cases place with
    | free folder name =>
      obtain ⟨place', hl', ho⟩ := h.locate_ok hl
      rw [hl']
      cases place' <;> simp [Place.outline] at ho ⊢
    | taken at_ e =>
      obtain ⟨e', hl', ho⟩ := h.locate_taken hl
      rw [hl']
      cases e <;> cases e' <;> simp [Entry.outline] at ho ⊢

end SameOutline

end FileTree

end PagePrep
