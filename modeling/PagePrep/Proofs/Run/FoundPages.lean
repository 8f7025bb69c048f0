import PagePrep.Proofs.Files.Descent
import PagePrep.Proofs.Run.Discovery

/-!
# What is found

Discovery goes from folder to folder (`FileTree.Scans`), and a page is told by the folders on the way to
it (`FileTree.PageBelow`). The scan of a folder takes the pages in it and what the scans of its folders
find, so by induction it finds just the pages below (`FileTree.mem_pagesBelow_iff`); and it fails just
where one of these folders cannot be listed (`FileTree.exists_fault_of_pagesBelow_error`,
`FileTree.listed_of_pagesBelow_ok`). The sort makes a list of the pages in the order of paths.
-/

set_option autoImplicit false

namespace PagePrep

namespace Path

/-- A name has the ending if it is the ending behind some text. -/
theorem isPageName_iff {name : String} :
    isPageName name = true ↔ ∃ stem, stem ≠ "" ∧ name = stem ++ ".md" := by
  rw [isPageName, Bool.and_eq_true, beq_iff_eq, decide_eq_true_iff, ← String.length_toList]
  constructor
  · rintro ⟨h, hl⟩
    have hd : name.toList = (name.toList.reverse.drop 3).reverse ++ ['.', 'm', 'd'] := by
      rw [← List.reverse_inj, List.reverse_append, List.reverse_reverse]
      exact (List.take_append_drop 3 _).symm.trans (by rw [h]; rfl)
    refine ⟨String.ofList (name.toList.reverse.drop 3).reverse, ?_, ?_⟩
    · intro he
      rw [String.ofList_eq_empty_iff] at he
      rw [he] at hd
      rw [hd] at hl
      exact absurd hl (by decide)
    · rw [← String.toList_inj, String.toList_append, String.toList_ofList]
      exact hd
  · rintro ⟨stem, hs, rfl⟩
    have hl : 0 < stem.toList.length := List.length_pos_iff.2 (by simpa using hs)
    rw [String.toList_append]
    exact ⟨by simp, by simpa using hl⟩

end Path

namespace FileTree

/-! ## Folders and pages below a folder -/

/-- A scan of the folder at a location comes to the folder that `folders` lead to: every step on the way
is a folder, no link to one, and it is not passed over. -/
def Scans (t : FileTree) (skip : Exclusions) (at_ : Location) (folders : List String) : Prop :=
  ∀ above folder, above ++ [folder] <+: folders →
    t.get? (at_ ++ above ++ [folder]) = some .folder ∧ folder ∉ skip.folders

/-- Below the folder at a location there is a page: `folders` are on the way to it, `name` is its name,
and `path` is a path to it. -/
structure PageBelow (t : FileTree) (skip : Exclusions) (at_ : Location) (path : String)
    (folders : List String) (name : String) : Prop where
  way : t.Scans skip at_ folders
  ending : ∃ stem, stem ≠ "" ∧ name = stem ++ ".md"
  kept : name ∉ skip.files
  /-- The page is a file, or a link that leads to no folder. -/
  entry : (∃ content, t.get? (at_ ++ folders ++ [name]) = some (.file content)) ∨
    (∃ target, t.get? (at_ ++ folders ++ [name]) = some (.link target)) ∧ t.isFolder path = false

variable {t : FileTree} {root : String} {skip : Exclusions} {at_ : Location} {path name folder : String}
  {names folders : List String}

theorem scans_nil : t.Scans skip at_ [] := fun _ _ h => absurd h (by simp)

/-- What a scan comes to from a folder of a folder. -/
theorem scans_cons_iff : t.Scans skip at_ (folder :: folders) ↔
    (t.get? (at_ ++ [folder]) = some .folder ∧ folder ∉ skip.folders) ∧
      t.Scans skip (at_ ++ [folder]) folders := by
  have ha (ns : List String) : at_ ++ folder :: ns = at_ ++ [folder] ++ ns := by simp
  constructor
  · intro hw
    refine ⟨by simpa using hw [] folder (by simp), fun above f hf => ?_⟩
    rw [← ha]
    exact hw (folder :: above) f (by simpa using hf)
  · rintro ⟨hf, hw⟩ above f ho
    cases above with
    | nil =>
      obtain rfl : f = folder := by simpa using ho
      simpa using hf
    | cons a above =>
      obtain ⟨rfl, hrest⟩ := List.cons_prefix_cons.1 ho
      rw [ha]
      exact hw above f hrest

/-- A scan comes to folders that are in the tree. -/
theorem Scans.mem_entries (h : t.Scans skip at_ folders) (hne : folders ≠ []) :
    (at_ ++ folders, Entry.folder) ∈ t.entries := by
  obtain ⟨above, folder, rfl⟩ := (List.eq_nil_or_concat' folders).resolve_left hne
  have hg := (h above folder (List.prefix_refl _)).1
  rw [← List.append_assoc]
  exact mem_entries_of_get? hg (by simp)

theorem PageBelow.exists_entry (h : t.PageBelow skip at_ path folders name) :
    ∃ e, t.get? (at_ ++ folders ++ [name]) = some e ∧ e ≠ .folder := by
  rcases h.entry with ⟨content, hg⟩ | ⟨⟨target, hg⟩, -⟩
  · exact ⟨_, hg, Entry.noConfusion⟩
  · exact ⟨_, hg, Entry.noConfusion⟩

/-- What is on the way to a page, and the page itself, have names. -/
theorem PageBelow.isName (h : t.PageBelow skip at_ path folders name) (hw : t.WellNamed) :
    ∀ n ∈ folders ++ [name], Path.IsName n := by
  obtain ⟨e, hg, -⟩ := h.exists_entry
  have hs : (t.get? (at_ ++ folders ++ [name])).isSome = true := by rw [hg]; rfl
  intro n hn
  apply hw.isName hs
  rw [List.append_assoc]
  exact List.mem_append_right _ hn

/-- What is in a folder itself is looked at as it is listed. -/
theorem isPage_iff {e : Entry} (hg : t.get? (at_ ++ [name]) = some e) :
    t.isPage root skip names name e = true ↔
      t.PageBelow skip at_ (Path.joinAll root (names ++ [name])) [] name := by
  unfold isPage
  rw [Bool.and_eq_true, Bool.and_eq_true, Path.isPageName_iff, Bool.not_eq_true',
    List.contains_eq_mem, decide_eq_false_iff_not]
  constructor
  · rintro ⟨⟨he, hk⟩, hp⟩
    refine ⟨scans_nil, he, hk, ?_⟩
    rw [List.append_nil, hg]
    cases e with
    | file content => exact .inl ⟨content, rfl⟩
    | link target => exact .inr ⟨⟨target, rfl⟩, by simpa using hp⟩
    | folder => cases hp
  · rintro ⟨-, he, hk, hp⟩
    rw [List.append_nil, hg] at hp
    refine ⟨⟨he, hk⟩, ?_⟩
    rcases hp with ⟨content, hc⟩ | ⟨⟨target, ht⟩, hf⟩
    · obtain rfl := Option.some.inj hc
      rfl
    · obtain rfl := Option.some.inj ht
      simpa using hf

/-- What is below a folder of a folder. -/
theorem pageBelow_cons_iff : t.PageBelow skip at_ path (folder :: folders) name ↔
    (t.get? (at_ ++ [folder]) = some .folder ∧ folder ∉ skip.folders) ∧
      t.PageBelow skip (at_ ++ [folder]) path folders name := by
  have ha : at_ ++ folder :: folders = at_ ++ [folder] ++ folders := by simp
  constructor
  · rintro ⟨hw, he, hk, hp⟩
    rw [ha] at hp
    obtain ⟨hf, hw⟩ := scans_cons_iff.1 hw
    exact ⟨hf, hw, he, hk, hp⟩
  · rintro ⟨hf, hw, he, hk, hp⟩
    rw [← ha] at hp
    exact ⟨scans_cons_iff.2 ⟨hf, hw⟩, he, hk, hp⟩

/-! ## The scan of a folder -/

theorem pagesAt_of_scanned (hg : t.get? (at_ ++ [folder]) = some .folder)
    (hs : folder ∉ skip.folders) :
    t.pagesAt root skip at_ names folder =
      t.pagesBelow root skip (at_ ++ [folder]) (names ++ [folder]) := by
  rw [pagesAt_of_folder hg, if_neg (by simpa using hs)]

/-- What is in a folder is a page or none, a folder that is passed over, or a folder that is scanned. -/
theorem pagesAt_cases (root : String) (skip : Exclusions) (names : List String)
    (hn : name ∈ t.names at_) :
    (∃ e, t.get? (at_ ++ [name]) = some e ∧ t.pagesAt root skip at_ names name =
      .ok (if t.isPage root skip names name e then [names ++ [name]] else [])) ∨
    t.pagesAt root skip at_ names name = .ok [] ∨
    (t.get? (at_ ++ [name]) = some .folder ∧ name ∉ skip.folders) ∧
      t.pagesAt root skip at_ names name =
        t.pagesBelow root skip (at_ ++ [name]) (names ++ [name]) := by
  obtain ⟨e, hg⟩ := Option.isSome_iff_exists.1 (mem_names_iff.1 hn)
  by_cases he : e = .folder
  · subst he
    by_cases hs : name ∈ skip.folders
    · exact .inr (.inl (by rw [pagesAt_of_folder hg, if_pos (by simpa using hs)]))
    · exact .inr (.inr ⟨⟨hg, hs⟩, pagesAt_of_scanned hg hs⟩)
  · exact .inl ⟨e, hg, pagesAt_of_entry hg he⟩

section Scanned

variable {found : List (List String)} {page : List String}

/-- A scan that ends has an end for each folder that it comes to. -/
theorem exists_pagesBelow_of_scanned (h : t.pagesBelow root skip at_ names = .ok found)
    (hg : t.get? (at_ ++ [folder]) = some .folder) (hs : folder ∉ skip.folders) :
    ∃ part, t.pagesBelow root skip (at_ ++ [folder]) (names ++ [folder]) = .ok part := by
  obtain ⟨-, parts, hparts, -⟩ := pagesBelow_eq_ok_iff.1 h
  obtain ⟨part, -, hp⟩ := exists_mem_of_mapM_eq_ok hparts (mem_names_iff.2 (by rw [hg]; rfl))
  exact ⟨part, by rw [← pagesAt_of_scanned hg hs, hp]⟩

/-- In a folder each page, told by the names below the root, is found once. -/
theorem nodup_of_pagesBelow_ok (h : t.pagesBelow root skip at_ names = .ok found) :
    found.Nodup ∧ ∀ page ∈ found, names <+: page := by
  induction at_, names using pagesBelow.induct t root generalizing found with
  | case1 at_ names f hf =>
    rw [pagesBelow_of_fault hf] at h
    cases h
  | case2 at_ names _ ih =>
    obtain ⟨-, parts, hparts, rfl⟩ := pagesBelow_eq_ok_iff.1 h
    have hpart : ∀ name ∈ t.names at_, ∀ part, t.pagesAt root skip at_ names name = .ok part →
        part.Nodup ∧ ∀ page ∈ part, names ++ [name] <+: page := by
      intro name hn part hp
      rcases pagesAt_cases root skip names hn with ⟨e, -, hc⟩ | hc | ⟨-, hc⟩ <;> rw [hc] at hp
      · obtain rfl := Except.ok.inj hp
        split <;> simp
      · obtain rfl := Except.ok.inj hp
        simp
      · exact ih name hn hp
    constructor
    · rw [List.nodup_flatten]
      constructor
      · intro part hp
        obtain ⟨name, hn, hc⟩ := (mem_of_mapM_eq_ok hparts).1 hp
        exact (hpart name hn part hc).1
      · -- pages that start with different names are different
        refine pairwise_of_mapM_eq_ok hparts (nodup_eraseDups _) fun a ha b hb hne p q hp hq => ?_
        intro page hpage hpage'
        have hab : names ++ [a] <+: names ++ [b] :=
          List.prefix_of_prefix_length_le ((hpart a ha p hp).2 page hpage)
            ((hpart b hb q hq).2 page hpage') (by simp)
        exact hne (by simpa using hab.eq_of_length (by simp))
    · intro page hpage
      obtain ⟨name, hn, part, hp, hm⟩ := (mem_flatten_of_mapM_eq_ok hparts).1 hpage
      exact (List.prefix_append names [name]).trans ((hpart name hn part hp).2 page hm)

/-- The scan of a folder takes the pages in it, and what the scans of its folders find. -/
theorem mem_pagesBelow_step (h : t.pagesBelow root skip at_ names = .ok found) : page ∈ found ↔
    (∃ name, page = names ++ [name] ∧ t.PageBelow skip at_ (Path.joinAll root page) [] name) ∨
    ∃ folder part, (t.get? (at_ ++ [folder]) = some .folder ∧ folder ∉ skip.folders) ∧
      t.pagesBelow root skip (at_ ++ [folder]) (names ++ [folder]) = .ok part ∧ page ∈ part := by
  obtain ⟨-, parts, hparts, rfl⟩ := pagesBelow_eq_ok_iff.1 h
  rw [mem_flatten_of_mapM_eq_ok hparts]
  constructor
  · rintro ⟨name, hn, part, hp, hm⟩
    rcases pagesAt_cases root skip names hn with ⟨e, hg, hc⟩ | hc | ⟨hg, hc⟩ <;> rw [hc] at hp
    · obtain rfl := Except.ok.inj hp
      split at hm
      · rename_i hi
        obtain rfl := List.mem_singleton.1 hm
        exact .inl ⟨name, rfl, (isPage_iff hg).1 hi⟩
      · cases hm
    · obtain rfl := Except.ok.inj hp
      cases hm
    · exact .inr ⟨name, part, hg, hp, hm⟩
  · rintro (⟨name, rfl, hp⟩ | ⟨folder, part, ⟨hg, hs⟩, hp, hm⟩)
    · obtain ⟨e, hg, he⟩ := hp.exists_entry
      rw [List.append_nil] at hg
      refine ⟨name, mem_names_iff.2 (by rw [hg]; rfl), _, pagesAt_of_entry hg he, ?_⟩
      rw [if_pos ((isPage_iff hg).2 hp)]
      exact List.mem_singleton_self _
    · exact ⟨folder, mem_names_iff.2 (by rw [hg]; rfl), part, by rw [pagesAt_of_scanned hg hs, hp], hm⟩

/-- The scan of a folder finds the pages below it and nothing else. -/
theorem mem_pagesBelow_iff (h : t.pagesBelow root skip at_ names = .ok found) : page ∈ found ↔
    ∃ folders name, page = names ++ folders ++ [name] ∧
      t.PageBelow skip at_ (Path.joinAll root page) folders name := by
  induction at_, names using pagesBelow.induct t root generalizing found with
  | case1 at_ names f hf =>
    rw [pagesBelow_of_fault hf] at h
    cases h
  | case2 at_ names _ ih =>
    have ih {folder : String} (hg : t.get? (at_ ++ [folder]) = some .folder)
        {part : List (List String)}
        (hp : t.pagesBelow root skip (at_ ++ [folder]) (names ++ [folder]) = .ok part) :=
      ih folder (mem_names_iff.2 (by rw [hg]; rfl)) hp
    rw [mem_pagesBelow_step h]
    constructor
    · rintro (⟨name, hf, hp⟩ | ⟨folder, part, hg, hpart, hm⟩)
      · exact ⟨[], name, by simpa using hf, hp⟩
      · obtain ⟨folders, name, hf, hp⟩ := (ih hg.1 hpart).1 hm
        exact ⟨folder :: folders, name, by simpa using hf, pageBelow_cons_iff.2 ⟨hg, hp⟩⟩
    · rintro ⟨folders, name, hf, hp⟩
      cases folders with
      | nil => exact .inl ⟨name, by simpa using hf, hp⟩
      | cons folder folders =>
        obtain ⟨⟨hg, hs⟩, hp⟩ := pageBelow_cons_iff.1 hp
        obtain ⟨part, hpart⟩ := exists_pagesBelow_of_scanned h hg hs
        exact .inr ⟨folder, part, ⟨hg, hs⟩, hpart,
          (ih hg hpart).2 ⟨folders, name, by simpa using hf, hp⟩⟩

/-- A scan that ends could list every folder that it came to. -/
theorem listed_of_pagesBelow_ok (h : t.pagesBelow root skip at_ names = .ok found)
    (hs : t.Scans skip at_ folders) :
    t.listingFault? (Path.joinAll root (names ++ folders)) = none := by
  induction folders generalizing at_ names found with
  | nil =>
    rw [List.append_nil]
    exact (pagesBelow_eq_ok_iff.1 h).1
  | cons folder folders ih =>
    obtain ⟨⟨hg, hk⟩, hs⟩ := scans_cons_iff.1 hs
    obtain ⟨part, hp⟩ := exists_pagesBelow_of_scanned h hg hk
    simpa using ih hp hs

end Scanned

/-- A scan that fails came to a folder that cannot be listed. -/
theorem exists_fault_of_pagesBelow_error {f : Failure}
    (h : t.pagesBelow root skip at_ names = .error f) :
    ∃ folders g, t.Scans skip at_ folders ∧
      t.listingFault? (Path.joinAll root (names ++ folders)) = some g ∧
      f = .file (Path.joinAll root (names ++ folders)) g := by
  induction at_, names using pagesBelow.induct t root with
  | case1 at_ names g hf =>
    rw [pagesBelow_of_fault hf] at h
    exact ⟨[], g, scans_nil, by simpa using hf, by simpa using (Except.error.inj h).symm⟩
  | case2 at_ names hf ih =>
    rw [pagesBelow_of_listed hf, map_eq_error_iff] at h
    obtain ⟨before, name, after, hnames, -, hn⟩ := exists_of_mapM_eq_error h
    have hmem : name ∈ t.names at_ := by simp [hnames]
    rcases pagesAt_cases root skip names hmem with ⟨e, -, hc⟩ | hc | ⟨hg, hc⟩ <;> rw [hc] at hn
    · cases hn
    · cases hn
    · obtain ⟨folders, g, hs, hg', hf'⟩ := ih name hmem hn
      exact ⟨name :: folders, g, scans_cons_iff.2 ⟨hg, hs⟩, by simpa using hg', by simpa using hf'⟩

/-! ## Trees with their entries in another order -/

section Reordered

variable {t' : FileTree} (hg : ∀ at_, t'.get? at_ = t.get? at_)
include hg

theorem Scans.of_get?_eq (h : t.Scans skip at_ folders) : t'.Scans skip at_ folders := by
  intro above folder hf
  rw [hg]
  exact h above folder hf

theorem SameOutline.of_get?_eq (hd : t'.working = t.working) : t.SameOutline t' :=
  ⟨hd, fun at_ => by rw [hg]⟩

theorem PageBelow.of_get?_eq (hd : t'.working = t.working)
    (h : t.PageBelow skip at_ path folders name) : t'.PageBelow skip at_ path folders name where
  way := h.way.of_get?_eq hg
  ending := h.ending
  kept := h.kept
  entry := by
    rw [hg, (SameOutline.of_get?_eq hg hd).isFolder_eq]
    exact h.entry

end Reordered

/-! ## The list of pages -/

section Pages

variable {top : Location} {paths : List String} (hl : t.locate root = .ok (.taken top .folder))
  (h : t.pages root skip = .ok paths)

include hl h in
theorem exists_found_of_pages_ok : ∃ found, t.pagesBelow root skip top [] = .ok found ∧
    (found.mergeSort namesLe).map (Path.joinAll root) = paths := by
  rwa [pages_of_locate skip hl, map_eq_ok_iff] at h

include hl in
/-- Discovery fails over a folder that it comes to and that cannot be listed. -/
theorem exists_fault_of_pages_error {f : Failure} (h : t.pages root skip = .error f) :
    ∃ folders g, t.Scans skip top folders ∧
      t.listingFault? (Path.joinAll root folders) = some g ∧
      f = .file (Path.joinAll root folders) g := by
  rw [pages_of_locate skip hl, map_eq_error_iff] at h
  simpa only [List.nil_append] using exists_fault_of_pagesBelow_error h

include hl h in
theorem listed_of_pages_ok (hs : t.Scans skip top folders) :
    t.listingFault? (Path.joinAll root folders) = none := by
  obtain ⟨found, hf, -⟩ := exists_found_of_pages_ok hl h
  simpa only [List.nil_append] using listed_of_pagesBelow_ok hf hs

include hl h in
/-- The paths of the list are those of the pages below. -/
theorem mem_pages_iff : path ∈ paths ↔ ∃ folders name, path = Path.joinAll root (folders ++ [name]) ∧
    t.PageBelow skip top path folders name := by
  obtain ⟨found, hf, rfl⟩ := exists_found_of_pages_ok hl h
  simp only [List.mem_map, (List.mergeSort_perm _ _).mem_iff, mem_pagesBelow_iff hf, List.nil_append]
  constructor
  · rintro ⟨_, ⟨folders, name, rfl, hp⟩, rfl⟩
    exact ⟨folders, name, rfl, hp⟩
  · rintro ⟨folders, name, rfl, hp⟩
    exact ⟨_, ⟨folders, name, rfl, hp⟩, rfl⟩

theorem ne_empty_of_isFolder (h : t.isFolder root = true) : root ≠ "" := by
  rintro rfl
  cases h

include hl h in
/-- In a tree of names the list is in the order of paths, each before all that follow. -/
theorem pairwise_before_pages (hw : t.WellNamed) : paths.Pairwise Path.Before := by
  obtain ⟨found, hf, rfl⟩ := exists_found_of_pages_ok hl h
  have hr : root ≠ "" := ne_empty_of_isFolder (isFolder_eq_true_iff.2 ⟨top, hl⟩)
  have hsub : ∀ ns ∈ found.mergeSort namesLe, ∀ n ∈ ns, Path.IsName n := by
    intro ns hns
    obtain ⟨folders, name, rfl, hp⟩ :=
      (mem_pagesBelow_iff hf).1 ((List.mergeSort_perm _ _).mem_iff.1 hns)
    exact hp.isName hw
  have hne : (found.mergeSort namesLe).Nodup :=
    (List.mergeSort_perm _ _).nodup_iff.2 (nodup_of_pagesBelow_ok hf).1
  rw [List.pairwise_map]
  exact ((pairwise_mergeSort_namesLe _).and hne).imp_of_mem fun hn hm h =>
    Path.before_joinAll hr (hsub _ hn) (hsub _ hm) h.1 h.2

include hl h in
/-- In a tree with its entries in another order the list is the same. -/
theorem pages_of_get?_eq {t' : FileTree} (hd : t'.working = t.working)
    (hg : ∀ at_, t'.get? at_ = t.get? at_) : t'.pages root skip = .ok paths := by
  have ho := SameOutline.of_get?_eq hg hd
  have hg' : ∀ at_, t.get? at_ = t'.get? at_ := fun at_ => (hg at_).symm
  have hl' := ho.locate_folder hl
  obtain ⟨found, hf, rfl⟩ := exists_found_of_pages_ok hl h
  rw [pages_of_locate skip hl']
  cases hf' : t'.pagesBelow root skip top [] with
  | error f =>
    obtain ⟨folders, g, hs, hfault, -⟩ := exists_fault_of_pagesBelow_error hf'
    have hlisted := listed_of_pagesBelow_ok hf (hs.of_get?_eq hg')
    rw [ho.listingFault?_eq, hlisted] at hfault
    cases hfault
  | ok found' =>
    have hp : found'.Perm found := by
      rw [List.perm_ext_iff_of_nodup (nodup_of_pagesBelow_ok hf').1 (nodup_of_pagesBelow_ok hf).1]
      intro page
      rw [mem_pagesBelow_iff hf, mem_pagesBelow_iff hf']
      constructor
      · rintro ⟨folders, name, he, hb⟩
        exact ⟨folders, name, he, hb.of_get?_eq hg' hd.symm⟩
      · rintro ⟨folders, name, he, hb⟩
        exact ⟨folders, name, he, hb.of_get?_eq hg hd⟩
    show Except.ok ((found'.mergeSort namesLe).map (Path.joinAll root)) = _
    rw [mergeSort_eq_of_perm hp]

end Pages

/-- In a tree of names no page is listed twice. -/
theorem WellNamed.nodup_pages (hw : t.WellNamed) {paths : List String}
    (h : t.pages root skip = .ok paths) : paths.Nodup := by
  cases hf : t.isFolder root with
  | false =>
    rw [pages_of_not_isFolder hf] at h
    cases h
  | true =>
    obtain ⟨top, hl⟩ := isFolder_eq_true_iff.1 hf
    exact (pairwise_before_pages hl h hw).imp fun hpq => Path.Before.ne hpq

end FileTree

open FileTree

/-- **Just the pages are found.** Where the root leads to no folder, discovery fails over it. Else the
scan comes to folders below the root. In a tree of names each of these can be listed, unless the path to it
is too long. If one cannot, discovery fails over such a folder. If all can, there is a list of paths: each
comes before all that follow, they are the paths to the pages below the root, and in a tree with its
entries in another order the list is the same. -/
theorem pages_found (t : FileTree) (root : String) (skip : Exclusions) :
    (t.isFolder root = false → t.pages root skip = .error (.config (.rootNotFolder root))) ∧
    (t.isFolder root = true → ∃ top, t.locate root = .ok (.taken top .folder) ∧
      (t.WellNamed → ∀ folders, t.Scans skip top folders →
        t.listingFault? (Path.joinAll root folders) =
          if pathLimit < (Path.joinAll root folders).utf8ByteSize then some .nameTooLong else none) ∧
      ((∃ folders f, t.Scans skip top folders ∧
          t.listingFault? (Path.joinAll root folders) = some f) →
        ∃ folders f, t.Scans skip top folders ∧
          t.listingFault? (Path.joinAll root folders) = some f ∧
          t.pages root skip = .error (.file (Path.joinAll root folders) f)) ∧
      ((∀ folders, t.Scans skip top folders →
          t.listingFault? (Path.joinAll root folders) = none) →
        ∃ paths, t.pages root skip = .ok paths ∧
          (t.WellNamed → paths.Pairwise Path.Before ∧ paths.Nodup) ∧
          (∀ path, path ∈ paths ↔ ∃ folders name, path = Path.joinAll root (folders ++ [name]) ∧
            t.PageBelow skip top path folders name) ∧
          ∀ t' : FileTree, t'.working = t.working → (∀ at_, t'.get? at_ = t.get? at_) →
            t'.pages root skip = .ok paths)) := by
  refine ⟨pages_of_not_isFolder, fun hr => ?_⟩
  obtain ⟨top, hl⟩ := isFolder_eq_true_iff.1 hr
  refine ⟨top, hl, ?_, ?_, ?_⟩
  · intro hw folders hs
    exact listingFault?_joinAll hw hl fun above name hn => (hs above name hn).1
  · rintro ⟨folders, f, hs, hf⟩
    cases hp : t.pages root skip with
    | ok paths =>
      rw [listed_of_pages_ok hl hp hs] at hf
      cases hf
    | error g =>
      obtain ⟨folders', f', hs', hf', rfl⟩ := exists_fault_of_pages_error hl hp
      exact ⟨folders', f', hs', hf', rfl⟩
  · intro hlisted
    cases hp : t.pages root skip with
    | error g =>
      obtain ⟨folders, f, hs, hf, -⟩ := exists_fault_of_pages_error hl hp
      rw [hlisted folders hs] at hf
      cases hf
    | ok paths =>
      exact ⟨paths, rfl, fun hw => ⟨pairwise_before_pages hl hp hw, hw.nodup_pages hp⟩,
        fun path => mem_pages_iff hl hp, fun t' => pages_of_get?_eq hl hp⟩

/-! ## A tangled folder, and a path with many slashes -/

namespace Path

/-- The path `docs` with slashes behind it. -/
def slashed : Nat → String
  | 0 => "docs"
  | n + 1 => slashed n ++ "/"

theorem steps_slashed (n : Nat) : steps (slashed n) = ["docs"] := by
  induction n with
  | zero => decide
  | succ n ih => rw [slashed, steps_append_slash, ih]

theorem toList_slashed (n : Nat) :
    (slashed n).toList = 'd' :: 'o' :: 'c' :: 's' :: List.replicate n '/' := by
  induction n with
  | zero => simp [slashed]
  | succ n ih => simp [slashed, ih, List.replicate_succ']

theorem utf8ByteSize_slashed (n : Nat) : (slashed n).utf8ByteSize = 4 + n := by
  induction n with
  | zero => decide
  | succ n ih =>
    have hs : "/".utf8ByteSize = 1 := by decide
    rw [slashed, String.utf8ByteSize_append, ih, hs, Nat.add_assoc]

end Path

namespace FileTree

/-- Slashes behind a path do not matter unless they are too many. -/
theorem locate_slashed {t : FileTree} (hd : t.working = ["work"])
    (hg : t.get? ["work", "docs"] = some .folder) {n : Nat} (hn : n ≤ 4091) :
    t.locate (Path.slashed n) = .ok (.taken ["work", "docs"] .folder) := by
  have hr : refusal? (Path.slashed n) = none := by
    rw [refusal?_eq_none_iff, Path.utf8ByteSize_slashed, Path.toList_slashed]
    refine ⟨by simp, by simp only [pathLimit]; omega, fun he => ?_⟩
    have ht := Path.toList_slashed n
    rw [he] at ht
    cases ht
  have ha : Path.isAbsolute (Path.slashed n) = false := by
    rw [Path.isAbsolute, Path.toList_slashed]
    rfl
  have hl : ¬ nameLimit < "docs".utf8ByteSize := by decide
  rw [locate, hr, start, ha, hd, Path.walkSteps, Path.steps_slashed]
  cases Path.endsInSlash (Path.slashed n) <;> simp [walk, hl, hg]

/-- Folders named like pages, and links that lead in a circle or nowhere. -/
def tangled : FileTree :=
  { entries := [(["work"], .folder), (["work", "docs"], .folder),
      (["work", "docs", "sub.md"], .folder), (["work", "docs", "sub.md", "page.md"], .file .empty),
      (["work", "docs", "sub"], .folder), (["work", "docs", "sub", "page.md"], .file .empty),
      (["work", "docs", "sub", "back"], .link ".."), (["work", "docs", "gone.md"], .link "nowhere")]
    working := ["work"] }

theorem locate_tangled_gone :
    tangled.locate "docs/gone.md" = .ok (.free ["work", "docs"] "nowhere") := by
  have hr : refusal? "docs/gone.md" = none := by decide
  have hw : Path.walkSteps "docs/gone.md" = ["docs", "gone.md"] := by decide
  have hw' : Path.walkSteps "nowhere" = ["nowhere"] := by decide
  have ha : Path.isAbsolute "nowhere" = false := by decide
  have hs : tangled.start "docs/gone.md" = ["work"] := rfl
  have hn : ¬ nameLimit < "docs".utf8ByteSize := by decide
  have hn' : ¬ nameLimit < "gone.md".utf8ByteSize := by decide
  have hn'' : ¬ nameLimit < "nowhere".utf8ByteSize := by decide
  rw [locate, hr, hs, hw]
  simp [walk, hn, hn', hn'', hw', ha, tangled, get?, linkLimit]

theorem isFolder_tangled_gone : tangled.isFolder "docs/gone.md" = false := by
  rw [isFolder, locate_tangled_gone]

theorem wellNamed_tangled : tangled.WellNamed := by
  unfold WellNamed
  decide

/-- The scan comes to three folders. -/
theorem scans_tangled {folders : List String}
    (h : tangled.Scans ⟨[], []⟩ ["work", "docs"] folders) :
    folders = [] ∨ folders = ["sub.md"] ∨ folders = ["sub"] := by
  by_cases hne : folders = []
  · exact .inl hne
  · simpa [tangled] using h.mem_entries hne

/-- A folder with a page in a folder of its own. -/
def nested : FileTree :=
  { entries := [(["work"], .folder), (["work", "docs"], .folder), (["work", "docs", "sub"], .folder),
      (["work", "docs", "sub", "page.md"], .file .empty)]
    working := ["work"] }

theorem wellNamed_nested : nested.WellNamed := by
  unfold WellNamed
  decide

theorem scans_nested : nested.Scans ⟨[], []⟩ ["work", "docs"] ["sub"] :=
  scans_cons_iff.2 ⟨⟨rfl, List.not_mem_nil⟩, scans_nil⟩

theorem pathLimit_lt_joinAll_sub {root : String} (h : 4093 ≤ root.utf8ByteSize) :
    pathLimit < (Path.joinAll root ["sub"]).utf8ByteSize := by
  have ha : Path.isAbsolute "sub" = false := by decide
  have hs : "sub".utf8ByteSize = 3 := by decide
  have hle : root.utf8ByteSize + "sub".utf8ByteSize ≤ (Path.joinAll root ["sub"]).utf8ByteSize :=
    Path.le_utf8ByteSize_join ha
  unfold pathLimit
  omega

theorem pathLimit_lt_nested :
    pathLimit < (Path.joinAll (Path.slashed 4090) ["sub"]).utf8ByteSize := by
  apply pathLimit_lt_joinAll_sub
  rw [Path.utf8ByteSize_slashed]
  omega

end FileTree

theorem pages_found_tangled :
    tangled.pages "docs/gone.md" ⟨[], []⟩ = .error (.config (.rootNotFolder "docs/gone.md")) ∧
    (∃ paths, tangled.pages "docs" ⟨[], []⟩ = .ok paths ∧ paths.Pairwise Path.Before ∧
      "docs/sub/page.md" ∈ paths ∧ "docs/sub.md/page.md" ∈ paths ∧ "docs/gone.md" ∈ paths ∧
      FileTree.pages { tangled with entries := (["work", "docs", "sub"], .folder) :: tangled.entries }
        "docs" ⟨[], []⟩ = .ok paths) ∧
    ∃ folders f, nested.Scans ⟨[], []⟩ ["work", "docs"] folders ∧
      nested.pages (Path.slashed 4090) ⟨[], []⟩ =
        .error (.file (Path.joinAll (Path.slashed 4090) folders) f) := by
  have hroot : tangled.locate "docs" = .ok (.taken ["work", "docs"] .folder) :=
    locate_slashed (n := 0) rfl rfl (by omega)
  have hfar : nested.locate (Path.slashed 4090) = .ok (.taken ["work", "docs"] .folder) :=
    locate_slashed rfl rfl (by omega)
  refine ⟨(pages_found tangled "docs/gone.md" ⟨[], []⟩).1 isFolder_tangled_gone, ?_, ?_⟩
  · obtain ⟨top, hl, hlist, -, hpages⟩ :=
      (pages_found tangled "docs" ⟨[], []⟩).2 (isFolder_eq_true_iff.2 ⟨_, hroot⟩)
    obtain rfl : top = ["work", "docs"] := by simpa [hroot, eq_comm] using hl
    have hlisted : ∀ folders, tangled.Scans ⟨[], []⟩ ["work", "docs"] folders →
        tangled.listingFault? (Path.joinAll "docs" folders) = none := by
      intro folders hs
      rw [hlist wellNamed_tangled folders hs]
      rcases scans_tangled hs with rfl | rfl | rfl <;> exact if_neg (by decide)
    obtain ⟨paths, hp, hb, hm, ht⟩ := hpages hlisted
    have below {folder path : String}
        (hg : tangled.get? ["work", "docs", folder] = some .folder)
        (hf : tangled.get? ["work", "docs", folder, "page.md"] = some (.file .empty)) :
        tangled.PageBelow ⟨[], []⟩ ["work", "docs"] path [folder] "page.md" :=
      pageBelow_cons_iff.2 ⟨⟨hg, List.not_mem_nil⟩,
        ⟨scans_nil, ⟨"page", by decide⟩, List.not_mem_nil, .inl ⟨_, hf⟩⟩⟩
    have gone : tangled.PageBelow ⟨[], []⟩ ["work", "docs"] "docs/gone.md" [] "gone.md" :=
      ⟨scans_nil, ⟨"gone", by decide⟩, List.not_mem_nil, .inr ⟨⟨_, rfl⟩, isFolder_tangled_gone⟩⟩
    refine ⟨paths, hp, (hb wellNamed_tangled).1,
      (hm _).2 ⟨["sub"], "page.md", by decide, below rfl rfl⟩,
      (hm _).2 ⟨["sub.md"], "page.md", by decide, below rfl rfl⟩,
      (hm _).2 ⟨[], "gone.md", by decide, gone⟩, ht _ rfl fun at_ => ?_⟩
    by_cases h : at_ = ["work", "docs", "sub"]
    · rw [h]
      rfl
    · simp [get?, Ne.symm h]
  · obtain ⟨top, hl, hlist, hfault, -⟩ :=
      (pages_found nested (Path.slashed 4090) ⟨[], []⟩).2 (isFolder_eq_true_iff.2 ⟨_, hfar⟩)
    obtain rfl : top = ["work", "docs"] := by simpa [hfar, eq_comm] using hl
    obtain ⟨folders, f, hs, -, hp⟩ := hfault ⟨["sub"], .nameTooLong, scans_nested, by
      rw [hlist wellNamed_nested _ scans_nested, if_pos pathLimit_lt_nested]⟩
    exact ⟨folders, f, hs, hp⟩

/-- Below a root that leads to a folder there is a page, but discovery fails over the folder that the
page is in: the path to this folder is too long. -/
theorem pages_nested_slashed :
    nested.WellNamed ∧
    nested.locate (Path.slashed 4090) = .ok (.taken ["work", "docs"] .folder) ∧
    nested.PageBelow ⟨[], []⟩ ["work", "docs"] (Path.joinAll (Path.slashed 4090) ["sub", "page.md"])
      ["sub"] "page.md" ∧
    nested.pages (Path.slashed 4090) ⟨[], []⟩ =
      .error (.file (Path.joinAll (Path.slashed 4090) ["sub"]) .nameTooLong) := by
  have hl : nested.locate (Path.slashed 4090) = .ok (.taken ["work", "docs"] .folder) :=
    locate_slashed rfl rfl (by omega)
  refine ⟨wellNamed_nested, hl,
    ⟨scans_nested, ⟨"page", by decide⟩, List.not_mem_nil, .inl ⟨.empty, rfl⟩⟩, ?_⟩
  have hroot : nested.listingFault? (Path.joinAll (Path.slashed 4090) []) = none := by
    rw [Path.joinAll, List.foldl_nil, listingFault?, hl]
  have hsub : nested.listingFault? (Path.joinAll (Path.slashed 4090) ([] ++ ["sub"])) =
      some .nameTooLong := by
    rw [List.nil_append, listingFault?_joinAll wellNamed_nested hl fun above name hn =>
      (scans_nested above name hn).1, if_pos pathLimit_lt_nested]
  have hn : nested.names ["work", "docs"] = ["sub"] := by
    simp [names, nested, List.eraseDups_cons]
  have ha : nested.pagesAt (Path.slashed 4090) ⟨[], []⟩ ["work", "docs"] [] "sub" =
      .error (.file (Path.joinAll (Path.slashed 4090) ([] ++ ["sub"])) .nameTooLong) := by
    rw [pagesAt_of_scanned rfl List.not_mem_nil, pagesBelow_of_fault hsub]
  rw [pages_of_locate _ hl, pagesBelow_of_listed hroot, hn, List.mapM_cons, ha]
  rfl

end PagePrep
