import PagePrep.Failure
import PagePrep.Files.Access
import PagePrep.Run.Discovery

/-!
# The texts of pages

The pages below a folder, read one after the other. Either all can be read, or the first that cannot
says why.
-/

set_option autoImplicit false

namespace PagePrep.FileTree

/-- The pages at some paths with their texts, or the first failure to read one. -/
def readPages (t : FileTree) : List String → Except Failure (List (String × String))
  | [] => .ok []
  | path :: rest =>
    match t.readText path with
    | .error f => .error (.file path f)
    | .ok text => (t.readPages rest).map ((path, text) :: ·)

/-- The pages below a folder with their texts, or what keeps them from being read. -/
def pageTexts (t : FileTree) (root : String) (skip : Exclusions) :
    Except Failure (List (String × String)) :=
  match t.pages root skip with
  | .error f => .error f
  | .ok paths => t.readPages paths

variable {t : FileTree} {path text : String} {paths rest : List String}
  {pages : List (String × String)}

theorem readPages_cons_ok (rest : List String) (h : t.readText path = .ok text) :
    t.readPages (path :: rest) = (t.readPages rest).map ((path, text) :: ·) := by
  rw [readPages, h]

theorem readPages_cons_error {f : FileFault} (rest : List String)
    (h : t.readText path = .error f) : t.readPages (path :: rest) = .error (.file path f) := by
  rw [readPages, h]

theorem readPages_cons_eq_ok_iff :
    t.readPages (path :: rest) = .ok pages ↔
      ∃ text below, t.readText path = .ok text ∧ t.readPages rest = .ok below ∧
        (path, text) :: below = pages := by
  cases ht : t.readText path with
  | error f => simp [readPages_cons_error rest ht]
  | ok text =>
    rw [readPages_cons_ok rest ht]
    cases t.readPages rest <;> simp [Except.map]

theorem readPages_cons_eq_error_iff {f : Failure} :
    t.readPages (path :: rest) = .error f ↔
      (∃ g, t.readText path = .error g ∧ .file path g = f) ∨
        ∃ text, t.readText path = .ok text ∧ t.readPages rest = .error f := by
  cases ht : t.readText path with
  | error g => simp [readPages_cons_error rest ht]
  | ok text =>
    rw [readPages_cons_ok rest ht]
    cases t.readPages rest <;> simp [Except.map]

/-- Pages are read where each has its text. -/
theorem readPages_eq_ok_iff :
    t.readPages paths = .ok pages ↔
      pages.map Prod.fst = paths ∧ ∀ p ∈ pages, t.readText p.1 = .ok p.2 := by
  induction paths generalizing pages with
  | nil =>
    constructor
    · intro h
      obtain rfl : [] = pages := Except.ok.inj h
      simp
    · rintro ⟨h, -⟩
      rw [List.map_eq_nil_iff.1 h]
      rfl
  | cons path rest ih =>
    rw [readPages_cons_eq_ok_iff]
    constructor
    · rintro ⟨text, below, ht, hb, rfl⟩
      obtain ⟨hp, hall⟩ := ih.1 hb
      refine ⟨by rw [List.map_cons, hp], ?_⟩
      intro p hm
      rcases List.mem_cons.1 hm with rfl | hm
      · exact ht
      · exact hall p hm
    · rintro ⟨hp, hall⟩
      obtain ⟨p, below, rfl, rfl, hb⟩ := List.map_eq_cons_iff.1 hp
      have hrest := ih.2 ⟨hb, fun q hq => hall q (List.mem_cons_of_mem _ hq)⟩
      exact ⟨p.2, below, hall p (by simp), hrest, rfl⟩

section PageTexts

variable {root : String} {skip : Exclusions}

theorem pageTexts_of_error {f : Failure} (h : t.pages root skip = .error f) :
    t.pageTexts root skip = .error f := by
  rw [pageTexts, h]

theorem pageTexts_of_ok (h : t.pages root skip = .ok paths) :
    t.pageTexts root skip = t.readPages paths := by
  rw [pageTexts, h]

theorem pageTexts_eq_ok_iff :
    t.pageTexts root skip = .ok pages ↔ t.pages root skip = .ok (pages.map Prod.fst) ∧
      ∀ p ∈ pages, t.readText p.1 = .ok p.2 := by
  cases hp : t.pages root skip with
  | error f => simp [pageTexts_of_error hp]
  | ok paths => rw [pageTexts_of_ok hp, readPages_eq_ok_iff, Except.ok.injEq, eq_comm]

end PageTexts

end PagePrep.FileTree
