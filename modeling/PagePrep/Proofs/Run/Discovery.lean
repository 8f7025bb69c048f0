import PagePrep.Proofs.Files.Contents
import PagePrep.Proofs.Outcome
import PagePrep.Run.Discovery
import Mathlib.Data.List.Nodup
import Mathlib.Data.List.Perm.Basic

/-!
# Discovery and the contents of files

Paths are listed in a total order (`FileTree.namesLe_trans`, `namesLe_total`, `namesLe_antisymm`), so
that the list depends on nothing but what is found. Discovery depends on names, folders and links
alone, and comes to the same in trees that differ in contents (`FileTree.Alike.pages_eq`).
-/

set_option autoImplicit false

namespace PagePrep.FileTree

/-! ## The order of paths -/

theorem charsLe_trans {as bs cs : List Char} (h : charsLe as bs = true)
    (h' : charsLe bs cs = true) : charsLe as cs = true := by
  induction as generalizing bs cs with
  | nil => rfl
  | cons a as ih =>
    cases bs with
    | nil => cases h
    | cons b bs =>
      cases cs with
      | nil => cases h'
      | cons c cs =>
        simp only [charsLe] at h h' ⊢
        grind [Char.toNat_inj]

theorem charsLe_total (as bs : List Char) : (charsLe as bs || charsLe bs as) = true := by
  induction as generalizing bs with
  | nil => rfl
  | cons a as ih =>
    cases bs with
    | nil => rfl
    | cons b bs =>
      have := ih bs
      simp only [charsLe]
      grind [Char.toNat_inj]

theorem charsLe_antisymm {as bs : List Char} (h : charsLe as bs = true)
    (h' : charsLe bs as = true) : as = bs := by
  induction as generalizing bs with
  | nil =>
    cases bs with
    | nil => rfl
    | cons b bs => cases h'
  | cons a as ih =>
    cases bs with
    | nil => cases h
    | cons b bs =>
      simp only [charsLe] at h h'
      grind

theorem namesLe_trans {as bs cs : List String} (h : namesLe as bs = true)
    (h' : namesLe bs cs = true) : namesLe as cs = true := by
  induction as generalizing bs cs with
  | nil => rfl
  | cons a as ih =>
    cases bs with
    | nil => cases h
    | cons b bs =>
      cases cs with
      | nil => cases h'
      | cons c cs =>
        simp only [namesLe] at h h' ⊢
        grind [charsLe_trans, charsLe_antisymm, String.toList_inj]

theorem namesLe_total (as bs : List String) : (namesLe as bs || namesLe bs as) = true := by
  induction as generalizing bs with
  | nil => rfl
  | cons a as ih =>
    cases bs with
    | nil => rfl
    | cons b bs =>
      have := ih bs
      have := charsLe_total a.toList b.toList
      simp only [namesLe]
      grind

theorem namesLe_antisymm {as bs : List String} (h : namesLe as bs = true)
    (h' : namesLe bs as = true) : as = bs := by
  induction as generalizing bs with
  | nil =>
    cases bs with
    | nil => rfl
    | cons b bs => cases h'
  | cons a as ih =>
    cases bs with
    | nil => cases h
    | cons b bs =>
      simp only [namesLe] at h h'
      grind [charsLe_antisymm, String.toList_inj]

theorem pairwise_mergeSort_namesLe (ps : List (List String)) :
    (ps.mergeSort namesLe).Pairwise fun p q => namesLe p q = true := by
  apply List.pairwise_mergeSort
  · exact fun _ _ _ => namesLe_trans
  · exact namesLe_total

/-- Paths are listed in the same order however they were found. -/
theorem mergeSort_eq_of_perm {ps qs : List (List String)} (h : ps.Perm qs) :
    ps.mergeSort namesLe = qs.mergeSort namesLe := by
  apply List.Perm.eq_of_pairwise (fun _ _ _ _ => namesLe_antisymm) (pairwise_mergeSort_namesLe ps)
    (pairwise_mergeSort_namesLe qs)
  exact (List.mergeSort_perm ps _).trans (h.trans (List.mergeSort_perm qs _).symm)

/-! ## What is found -/

theorem nodup_eraseDups (as : List String) : as.eraseDups.Nodup := by
  generalize hn : as.length = n
  induction n using Nat.strongRecOn generalizing as with
  | ind n ih =>
    cases as with
    | nil => simp
    | cons a as =>
      rw [List.eraseDups_cons, List.nodup_cons]
      have hl : (as.filter fun b => !b == a).length < n := by
        have := List.length_filter_le (fun b => !b == a) as
        simp only [List.length_cons] at hn
        omega
      exact ⟨by simp, ih _ hl _ rfl⟩

variable {t t' : FileTree} {root : String} {skip : Exclusions} {at_ : Location}
  {names : List String}

theorem mem_names_iff {name : String} :
    name ∈ t.names at_ ↔ (t.get? (at_ ++ [name])).isSome = true := by
  rw [mem_names_of_mem, get?, if_neg (by simp), Option.isSome_map, List.find?_isSome]
  simp

/-! ## The scan of a folder -/

/-- What the scan of a folder finds by a name in it. -/
def pagesAt (t : FileTree) (root : String) (skip : Exclusions) (at_ : Location)
    (names : List String) (name : String) : Except Failure (List (List String)) :=
  match t.get? (at_ ++ [name]) with
  | none => .ok []
  | some .folder =>
    if skip.folders.contains name then .ok []
    else t.pagesBelow root skip (at_ ++ [name]) (names ++ [name])
  | some entry => .ok (if t.isPage root skip names name entry then [names ++ [name]] else [])

section PagesAt

variable {name : String}

theorem pagesAt_of_folder (h : t.get? (at_ ++ [name]) = some .folder) :
    t.pagesAt root skip at_ names name =
      if skip.folders.contains name then .ok []
      else t.pagesBelow root skip (at_ ++ [name]) (names ++ [name]) := by
  rw [pagesAt, h]

theorem pagesAt_of_entry {e : Entry} (h : t.get? (at_ ++ [name]) = some e) (he : e ≠ .folder) :
    t.pagesAt root skip at_ names name =
      .ok (if t.isPage root skip names name e then [names ++ [name]] else []) := by
  rw [pagesAt, h]
  cases e with
  | folder => exact absurd rfl he
  | file | link => rfl

end PagesAt

theorem pagesBelow_of_fault {f : FileFault}
    (h : t.listingFault? (Path.joinAll root names) = some f) :
    t.pagesBelow root skip at_ names = .error (.file (Path.joinAll root names) f) := by
  rw [pagesBelow, h]

/-- A folder that can be listed is gone over name by name. -/
theorem pagesBelow_of_listed (h : t.listingFault? (Path.joinAll root names) = none) :
    t.pagesBelow root skip at_ names =
      ((t.names at_).mapM (t.pagesAt root skip at_ names)).map List.flatten := by
  rw [pagesBelow, h]
  simp only
  rw [List.mapM_subtype (g := t.pagesAt root skip at_ names) fun _ _ => rfl, List.unattach_attach]
  cases (t.names at_).mapM (t.pagesAt root skip at_ names) <;> rfl

theorem pagesBelow_eq_ok_iff {found : List (List String)} :
    t.pagesBelow root skip at_ names = .ok found ↔
      t.listingFault? (Path.joinAll root names) = none ∧
        ∃ parts, (t.names at_).mapM (t.pagesAt root skip at_ names) = .ok parts ∧
          parts.flatten = found := by
  cases h : t.listingFault? (Path.joinAll root names) with
  | some f => simp [pagesBelow_of_fault h]
  | none => rw [pagesBelow_of_listed h, map_eq_ok_iff]; simp

theorem pages_of_locate (skip : Exclusions) {top : Location}
    (h : t.locate root = .ok (.taken top .folder)) :
    t.pages root skip = (t.pagesBelow root skip top []).map fun found =>
      (found.mergeSort namesLe).map (Path.joinAll root) := by
  rw [pages, h]

theorem pages_of_not_isFolder (h : t.isFolder root = false) :
    t.pages root skip = .error (.config (.rootNotFolder root)) := by
  unfold pages
  split
  · rename_i top hl
    exact absurd (isFolder_eq_true_iff.2 ⟨top, hl⟩) (by simp [h])
  · rfl

/-! ## Trees that differ in contents -/

theorem SameOutline.isPage_eq (h : t.SameOutline t') (root : String) (skip : Exclusions)
    (names : List String) (name : String) {e e' : Entry} (ho : e'.outline = e.outline) :
    t'.isPage root skip names name e' = t.isPage root skip names name e := by
  unfold isPage
  rw [h.isFolder_eq]
  cases e <;> cases e' <;> simp [Entry.outline] at ho ⊢

namespace Alike

variable (h : t.Alike t')
include h

theorem pagesBelow_eq (root : String) (skip : Exclusions) (at_ : Location) (names : List String) :
    t'.pagesBelow root skip at_ names = t.pagesBelow root skip at_ names := by
  induction at_, names using pagesBelow.induct t root with
  | case1 at_ names f hf =>
    rw [pagesBelow_of_fault hf, pagesBelow_of_fault ((h.listingFault?_eq _).trans hf)]
  | case2 at_ names hf ih =>
    rw [pagesBelow_of_listed hf, pagesBelow_of_listed ((h.listingFault?_eq _).trans hf), h.names]
    refine congrArg _ (mapM_congr fun name hn => ?_)
    obtain ⟨e, hg⟩ := Option.isSome_iff_exists.1 (mem_names_iff.1 hn)
    obtain ⟨e', hg', ho⟩ := h.get?_some hg
    by_cases he : e = .folder
    · subst he
      rw [pagesAt_of_folder hg, pagesAt_of_folder (h.get?_folder hg), ih name hn]
    · have he' : e' ≠ .folder := by
        rintro rfl
        exact he (Entry.outline_eq_folder ho.symm)
      rw [pagesAt_of_entry hg he, pagesAt_of_entry hg' he', h.isPage_eq root skip names name ho]

/-- Discovery comes to the same in trees that differ in contents. -/
theorem pages_eq (root : String) (skip : Exclusions) : t'.pages root skip = t.pages root skip := by
  cases hf : t.isFolder root with
  | false => rw [pages_of_not_isFolder hf, pages_of_not_isFolder ((h.isFolder_eq root).trans hf)]
  | true =>
    obtain ⟨top, hl⟩ := isFolder_eq_true_iff.1 hf
    rw [pages_of_locate skip hl, pages_of_locate skip (h.locate_folder hl), h.pagesBelow_eq]

end Alike

end PagePrep.FileTree
