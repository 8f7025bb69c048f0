import PagePrep.Proofs.Files.Rewriting
import PagePrep.Proofs.Run.Action
import PagePrep.Proofs.Run.PageTexts
import PagePrep.Proofs.Run.Reporting

/-!
# Marking the files of a tree

Marking goes from page to page, and a file that several paths lead to is marked on each turn. So a
page is found marked some number of times already, and is marked some number of times afterwards
(`PageCourse`). One turn rewrites one file (`runOn_markPage_writing`); by induction over the pages, a
whole run marks files and nothing else, and fails just where a page could not be read to begin with
(`runOn_markFrom_writing_ok`, `runOn_markFrom_writing_error`).
-/

set_option autoImplicit false

namespace PagePrep

variable {check : Bool} {path text : String} {s : Session} {t t' t'' : FileTree}

/-! ## Marked files -/

namespace FileTree

/-- `t'` is `t` with its texts marked, each any number of times. -/
structure Marked (t t' : FileTree) : Prop where
  alike : t.Alike t'
  text : ∀ path text, t.readText path = .ok text →
    ∃ n, t'.readText path = .ok ((markedText path)^[n] text)
  error : ∀ path f, t.readText path = .error f → t'.readText path = .error f

namespace Marked

theorem refl (t : FileTree) : t.Marked t :=
  ⟨.refl t, fun _ _ h => ⟨0, h⟩, fun _ _ h => h⟩

theorem trans (h : t.Marked t') (h' : t'.Marked t'') : t.Marked t'' where
  alike := h.alike.trans h'.alike
  text := by
    intro path text ht
    obtain ⟨n, hn⟩ := h.text path text ht
    obtain ⟨m, hm⟩ := h'.text path _ hn
    exact ⟨m + n, by rw [hm, Function.iterate_add_apply]⟩
  error := fun path f hf => h'.error path f (h.error path f hf)

end Marked

/-- A file that is rewritten with its marked text is marked for every path that leads to it. -/
theorem Rewrites.marked (h : t.Rewrites path text (markedText path text) t') : t.Marked t' where
  alike := h.alike
  text := by
    intro other was ht
    rcases h.elsewhere other with he | ⟨ho, hn⟩
    · exact ⟨0, he.trans ht⟩
    · obtain rfl : text = was := Except.ok.inj (ho.symm.trans ht)
      exact ⟨1, by rw [hn, markedText_congr path other]; rfl⟩
  error := by
    intro other f hf
    rcases h.elsewhere other with he | ⟨ho, -⟩
    · exact he.trans hf
    · rw [ho] at hf
      cases hf

end FileTree

open FileTree

/-! ## One page -/

theorem runOn_markPage_error {f : FileFault} (h : s.files.readText path = .error f) :
    (markPage check path).runOn s = (.error (.file path f), s) := by
  rw [markPage, Action.runOn_bind_error _ (Action.runOn_readText_error h)]

theorem runOn_markPage_checking (h : s.files.readText path = .ok text) :
    (markPage true path).runOn s = (.ok (.ofText path text), s) := by
  rw [markPage, Action.runOn_bind_ok _ (Action.runOn_readText_ok h), PageFate.ofText]
  cases segment path text with
  | skipped => rfl
  | rewritten d => simp

theorem runOn_markPage_writing (h : s.files.readText path = .ok text) :
    ∃ t', s.files.Rewrites path text (markedText path text) t' ∧
      (markPage false path).runOn s = (.ok (.ofText path text), { s with files := t' }) := by
  rw [markPage, Action.runOn_bind_ok _ (Action.runOn_readText_ok h), PageFate.ofText]
  cases hs : segment path text with
  | skipped =>
    have hm : markedText path text = text := by rw [markedText, hs]
    exact ⟨s.files, by rw [hm]; exact .refl h, rfl⟩
  | rewritten d =>
    have hm : markedText path text = d.text := markedText_of_segment hs
    by_cases hc : d.text = text
    · exact ⟨s.files, by rw [hm, hc]; exact .refl h, by simp [hc]⟩
    · obtain ⟨t', hw, hr⟩ := exists_rewrites d.text h
      refine ⟨t', by rwa [hm], ?_⟩
      have hne : (d.text != text) = true := by simpa using hc
      simp only [hne, Bool.not_false, Bool.and_self, if_true]
      rw [Action.runOn_bind_ok _ (Action.runOn_writeText_ok hw)]
      rfl

/-! ## Page after page -/

/-- What a page goes through while pages are marked. -/
structure PageCourse where
  path : String
  /-- The text before the run. -/
  before : String
  /-- How often the text is marked before the turn of the page. -/
  earlier : Nat
  /-- How often the text is marked after the turn of the page. -/
  later : Nat

namespace PageCourse

variable (c : PageCourse)

/-- The text when the turn of the page comes. -/
def turn : String := (markedText c.path)^[c.earlier] c.before

/-- The text after the run. -/
def after : String := (markedText c.path)^[c.later] (markedText c.path c.turn)

def pageBefore : String × String := (c.path, c.before)

def pageAtTurn : String × String := (c.path, c.turn)

def pageAfter : String × String := (c.path, c.after)

theorem after_eq : c.after = (markedText c.path)^[c.later + c.earlier + 1] c.before := by
  rw [after, turn, ← Function.iterate_succ_apply' (markedText c.path), ← Function.iterate_add_apply,
    Nat.add_succ]

theorem isExcluded_turn : isExcluded c.turn = isExcluded c.before :=
  isExcluded_iterate_markedText _ _ _

/-- A page is as it was before just where marking does not alter it. -/
theorem after_eq_before_iff : c.after = c.before ↔ markedText c.path c.before = c.before := by
  rw [after_eq, iterate_markedText_eq_self_iff]

/-- A reader finds in the page after the run what there is to find in it once it is marked. -/
theorem findings_after :
    Findings.ofText c.path c.after = .ofText c.path (markedText c.path c.before) := by
  rw [after_eq, Findings.ofText_iterate_markedText]

theorem findings_markedText_turn :
    Findings.ofText c.path (markedText c.path c.turn) =
      .ofText c.path (markedText c.path c.before) := by
  rw [turn, ← Function.iterate_succ_apply' (markedText c.path), Findings.ofText_iterate_markedText]

theorem ofTexts_pageAtTurn (check : Bool) (courses : List PageCourse) :
    MarkingReport.ofTexts check (courses.map pageAtTurn) =
      .ofFates check (courses.map fun c => .ofText c.path c.turn) := by
  rw [MarkingReport.ofTexts, List.map_map]
  rfl

theorem map_fst_pageBefore (courses : List PageCourse) :
    (courses.map pageBefore).map Prod.fst = courses.map PageCourse.path := by
  rw [List.map_map]
  rfl

/-- The pages with their texts after the run. -/
theorem readPages_after {courses : List PageCourse}
    (h : ∀ c ∈ courses, t.readText c.path = .ok c.after) :
    t.readPages (courses.map PageCourse.path) = .ok (courses.map pageAfter) := by
  rw [readPages_eq_ok_iff, List.map_map]
  refine ⟨rfl, ?_⟩
  intro p hp
  obtain ⟨c, hc, rfl⟩ := List.mem_map.1 hp
  exact h c hc

end PageCourse

section Pages

variable {total number : Nat} {paths rest : List String} {pages : List (String × String)}
  {fate : PageFate} {f : Failure} {s₁ s₂ : Session}

theorem runOn_markFrom_cons_error (h : (markPage check path).runOn s = (.error f, s₁)) :
    (markFrom check total number (path :: rest)).runOn s = (.error f, s₁) := by
  rw [markFrom, Action.runOn_bind_error _ h]

/-- After the first page the run goes on with the others. -/
theorem runOn_markFrom_cons_ok (h : (markPage check path).runOn s = (.ok fate, s₁))
    {fates : Except Failure (List PageFate)}
    (h' : (markFrom check total (number + 1) rest).runOn
      { s₁ with log := s₁.log ++ [.page path number total] } = (fates, s₂)) :
    (markFrom check total number (path :: rest)).runOn s = (fates.map (fate :: ·), s₂) := by
  rw [markFrom, Action.runOn_bind_ok _ h, Action.runOn_bind_ok _ (Action.runOn_note _ _)]
  cases fates with
  | error f => rw [Action.runOn_bind_error _ h']; rfl
  | ok fates => rw [Action.runOn_bind_ok _ h']; rfl

/-- A run that only looks at pages reports on their texts, and leaves the files alone. -/
theorem runOn_markFrom_checking (s : Session) (total number : Nat) (paths : List String) :
    ∃ log, (markFrom true total number paths).runOn s =
      ((s.files.readPages paths).map fun pages => pages.map fun p => .ofText p.1 p.2,
        { s with log := log }) := by
  induction paths generalizing s number with
  | nil => exact ⟨s.log, rfl⟩
  | cons path rest ih =>
    cases ht : s.files.readText path with
    | error f =>
      refine ⟨s.log, ?_⟩
      rw [readPages_cons_error rest ht, runOn_markFrom_cons_error (runOn_markPage_error ht)]
      rfl
    | ok text =>
      obtain ⟨log, hr⟩ := ih { s with log := s.log ++ [.page path number total] } (number + 1)
      refine ⟨log, ?_⟩
      rw [runOn_markFrom_cons_ok (runOn_markPage_checking ht) hr, readPages_cons_ok rest ht]
      show (Except.map _ (Except.map _ (s.files.readPages rest)), _) = _
      cases s.files.readPages rest <;> rfl

/-- A run that writes to files that were marked before fails where one of them could not be read
before. -/
theorem runOn_markFrom_writing_error (total number : Nat) (hm : t.Marked s.files)
    (h : t.readPages paths = .error f) :
    ∃ s', (markFrom false total number paths).runOn s = (.error f, s') := by
  induction paths generalizing s number with
  | nil => cases h
  | cons path rest ih =>
    obtain ⟨g, ht, rfl⟩ | ⟨text, ht, hb⟩ := readPages_cons_eq_error_iff.1 h
    · exact ⟨s, runOn_markFrom_cons_error (runOn_markPage_error (hm.error path g ht))⟩
    · obtain ⟨n, hn⟩ := hm.text path text ht
      obtain ⟨t', hr, hp⟩ := runOn_markPage_writing hn
      obtain ⟨s', hs⟩ := ih (s := { s with files := t', log := s.log ++ [.page path number total] })
        (number + 1) (hm.trans hr.marked) hb
      exact ⟨s', runOn_markFrom_cons_ok hp hs⟩

/-- Otherwise it marks files and nothing else, and each page goes its course. -/
theorem runOn_markFrom_writing_ok (total number : Nat) (hm : t.Marked s.files)
    (h : t.readPages paths = .ok pages) :
    ∃ (courses : List PageCourse) (s' : Session),
      (markFrom false total number paths).runOn s =
        (.ok (courses.map fun c => .ofText c.path c.turn), s') ∧
      s.files.Marked s'.files ∧ courses.map PageCourse.pageBefore = pages ∧
      ∀ c ∈ courses, s'.files.readText c.path = .ok c.after := by
  induction paths generalizing s number pages with
  | nil =>
    obtain rfl : [] = pages := Except.ok.inj h
    exact ⟨[], s, rfl, .refl _, rfl, by simp⟩
  | cons path rest ih =>
    obtain ⟨text, below, ht, hb, rfl⟩ := readPages_cons_eq_ok_iff.1 h
    obtain ⟨n, hn⟩ := hm.text path text ht
    obtain ⟨t', hr, hp⟩ := runOn_markPage_writing hn
    obtain ⟨courses, s', hs, hm', hc, ha⟩ :=
      ih (s := { s with files := t', log := s.log ++ [.page path number total] })
        (number + 1) (hm.trans hr.marked) hb
    -- the other pages may lead to the same file and mark it further
    obtain ⟨m, hl⟩ := hm'.text path _ hr.here
    refine ⟨⟨path, text, n, m⟩ :: courses, s', ?_, hr.marked.trans hm', ?_, ?_⟩
    · rw [runOn_markFrom_cons_ok hp hs]
      rfl
    · rw [List.map_cons, hc]
      rfl
    · intro c hcm
      rcases List.mem_cons.1 hcm with rfl | hcm
      · exact hl
      · exact ha c hcm

end Pages

/-! ## A whole run -/

section Run

variable {o : MarkingOptions} {paths : List String} {pages : List (String × String)} {f : Failure}

/-- Marking fails as discovery does. -/
theorem runOn_mark_of_error (h : s.files.pages o.root o.skip = .error f) :
    (mark o).runOn s = (.error f, s.noting [.phase .discovering]) := by
  rw [mark, Action.runOn_bind_ok _ (Action.runOn_note _ _),
    Action.runOn_bind_ok _ (Action.runOn_files _), h]
  rfl

/-- What is noted before the first page. -/
def MarkingOptions.opening (o : MarkingOptions) : List Event :=
  [.phase .discovering, .phase (if o.check then .checking else .marking)]

section Pages

variable (hp : s.files.pages o.root o.skip = .ok paths) {s' : Session}
include hp

/-- With pages found, the run goes over these pages and notes at last the number of warnings. -/
theorem runOn_mark_eq :
    (mark o).runOn s = Action.runOn (do
      let fates ← markFrom o.check paths.length 1 paths
      let report := MarkingReport.ofFates o.check fates
      Action.note (.finished report.diagnostics.length)
      return report) (s.noting o.opening) := by
  have hs : s.noting o.opening = (s.noting [.phase .discovering]).noting
      [.phase (if o.check then .checking else .marking)] := by rw [Session.noting_noting]; rfl
  rw [hs, mark, Action.runOn_bind_ok _ (Action.runOn_note _ _),
    Action.runOn_bind_ok _ (Action.runOn_files _), hp]
  exact Action.runOn_bind_ok _ (Action.runOn_note _ _)

theorem runOn_mark_of_pages_error
    (h : (markFrom o.check paths.length 1 paths).runOn (s.noting o.opening) = (.error f, s')) :
    (mark o).runOn s = (.error f, s') := by
  rw [runOn_mark_eq hp, Action.runOn_bind_error _ h]

theorem runOn_mark_of_pages_ok {fates : List PageFate}
    (h : (markFrom o.check paths.length 1 paths).runOn (s.noting o.opening) = (.ok fates, s')) :
    (mark o).runOn s = (.ok (.ofFates o.check fates),
      s'.noting [.finished (MarkingReport.ofFates o.check fates).diagnostics.length]) := by
  rw [runOn_mark_eq hp, Action.runOn_bind_ok _ h]
  exact Action.runOn_bind_ok _ (Action.runOn_note _ _)

end Pages

/-- Checking reports on the texts of the pages and leaves the files alone. -/
theorem runOn_mark_checking (hc : o.check = true) (s : Session) :
    ∃ log, (mark o).runOn s =
      ((s.files.pageTexts o.root o.skip).map (.ofTexts true), { s with log := log }) := by
  cases hp : s.files.pages o.root o.skip with
  | error f => exact ⟨_, by rw [pageTexts_of_error hp, runOn_mark_of_error hp]; rfl⟩
  | ok paths =>
    obtain ⟨log, hf⟩ := runOn_markFrom_checking (s.noting o.opening) paths.length 1 paths
    rw [← hc] at hf
    rw [pageTexts_of_ok hp, ← hc]
    replace hf : (markFrom o.check paths.length 1 paths).runOn (s.noting o.opening) =
      ((s.files.readPages paths).map _, _) := hf
    cases hr : s.files.readPages paths with
    | error f =>
      rw [hr] at hf
      exact ⟨_, runOn_mark_of_pages_error hp hf⟩
    | ok pages =>
      rw [hr] at hf
      exact ⟨_, by rw [runOn_mark_of_pages_ok hp hf]; rfl⟩

theorem runOn_mark_writing_error (hc : o.check = false)
    (h : s.files.pageTexts o.root o.skip = .error f) : ((mark o).runOn s).1 = .error f := by
  cases hp : s.files.pages o.root o.skip with
  | error g =>
    rw [pageTexts_of_error hp] at h
    rw [runOn_mark_of_error hp, ← Except.error.inj h]
  | ok paths =>
    rw [pageTexts_of_ok hp] at h
    obtain ⟨s', hf⟩ := runOn_markFrom_writing_error (s := s.noting o.opening) paths.length 1
      (Marked.refl s.files) h
    rw [← hc] at hf
    rw [runOn_mark_of_pages_error hp hf]

/-- Marking reports on the texts that the pages have on their turns, and marks files and nothing
else. -/
theorem runOn_mark_writing_ok (hc : o.check = false)
    (h : s.files.pageTexts o.root o.skip = .ok pages) :
    ∃ (courses : List PageCourse) (s' : Session),
      (mark o).runOn s = (.ok (.ofTexts false (courses.map PageCourse.pageAtTurn)), s') ∧
      s.files.Marked s'.files ∧ courses.map PageCourse.pageBefore = pages ∧
      ∀ c ∈ courses, s'.files.readText c.path = .ok c.after := by
  cases hp : s.files.pages o.root o.skip with
  | error f =>
    rw [pageTexts_of_error hp] at h
    cases h
  | ok paths =>
    rw [pageTexts_of_ok hp] at h
    obtain ⟨courses, s', hf, hm, hb, ha⟩ := runOn_markFrom_writing_ok (s := s.noting o.opening)
      paths.length 1 (Marked.refl s.files) h
    rw [← hc] at hf
    have hr := runOn_mark_of_pages_ok hp hf
    rw [hc, ← PageCourse.ofTexts_pageAtTurn] at hr
    exact ⟨courses, s'.noting [.finished _], hr, hm, hb, ha⟩

end Run

end PagePrep
