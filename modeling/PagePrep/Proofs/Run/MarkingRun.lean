import PagePrep.Proofs.Run.Building
import PagePrep.Proofs.Run.Checking
import PagePrep.Proofs.Run.FoundPages

/-!
# A whole run of marking

Marking handles the pages of a folder one after the other, and stops at the first that cannot be read.
What handling some pages does to the files is told in one place (`FileTree.Handled`), and what is reported
on them in another (`FileTree.Reports`). Both are kept from page to page (`exists_handled`). So a run that
stops has handled the pages before, and one that does not has handled all.
-/

set_option autoImplicit false

namespace PagePrep

open Text FileTree

namespace FileTree

variable {t t' t₁ : FileTree} {path before after text : String} {at_ : Location}
  {pages rest : List String} {fates : List PageFate}

/-! ## Files that paths lead to -/

/-- The location of the file that a path leads to, if it leads to one. -/
def fileAt? (t : FileTree) (path : String) : Option Location :=
  match t.locate path with
  | .ok (.taken at_ (.file _)) => some at_
  | _ => none

theorem fileAt?_eq_some_iff :
    t.fileAt? path = some at_ ↔ ∃ content, t.locate path = .ok (.taken at_ (.file content)) := by
  unfold fileAt?
  split
  · next at' content hl => simp [hl, eq_comm]
  · next hn =>
    simp only [reduceCtorEq, false_iff]
    rintro ⟨content, hl⟩
    exact hn at_ content hl

theorem exists_fileAt? (h : t.readText path = .ok text) : ∃ at_, t.fileAt? path = some at_ := by
  obtain ⟨at_, hl⟩ := readBytes_eq_ok_iff.1 (readText_eq_ok_iff.1 h)
  exact ⟨at_, fileAt?_eq_some_iff.2 ⟨_, hl⟩⟩

theorem SameOutline.fileAt?_of_some (h : t.SameOutline t') (ha : t.fileAt? path = some at_) :
    t'.fileAt? path = some at_ := by
  obtain ⟨content, hl⟩ := fileAt?_eq_some_iff.1 ha
  exact fileAt?_eq_some_iff.2 (h.locate_file hl)

theorem SameOutline.fileAt?_eq (h : t.SameOutline t') : t'.fileAt? = t.fileAt? := by
  funext path
  apply Option.ext
  intro at_
  exact ⟨h.symm.fileAt?_of_some, h.fileAt?_of_some⟩

/-- A path reads as before where the location that it leads to is as it was. -/
theorem SameOutline.readBytes_eq (h : t.SameOutline t') (ha : t.fileAt? path = some at_)
    (hg : t'.get? at_ = t.get? at_) : t'.readBytes path = t.readBytes path := by
  obtain ⟨content, hl⟩ := fileAt?_eq_some_iff.1 ha
  obtain ⟨content', hl'⟩ := h.locate_file hl
  have hc : some (Entry.file content') = some (.file content) := by
    rw [← get?_of_locate hl', hg, get?_of_locate hl]
  rw [readBytes_eq_ok_iff.2 ⟨at_, hl⟩, readBytes_eq_ok_iff.2 ⟨at_, hl'⟩]
  simpa using hc

/-- The turn of a page alters nothing but the file that its path leads to. -/
theorem Updates.get?_eq (h : t.Updates path before after t') (ha : t.fileAt? path ≠ some at_) :
    t'.get? at_ = t.get? at_ := by
  cases h with
  | kept _ => rfl
  | written _ hr =>
    obtain ⟨there, content, hl, -, helse⟩ := hr.location
    apply helse at_
    rintro rfl
    exact ha (fileAt?_eq_some_iff.2 ⟨content, hl⟩)

theorem Updates.rewrites (h : t.Updates path before after t') (hb : t.readText path = .ok before) :
    t.Rewrites path before after t' := by
  cases h with
  | kept same =>
    subst same
    exact .refl hb
  | written _ hr => exact hr.rewrites hb

/-! ## Marking leaves pages that ask for it alone -/

/-- Whether the page at a path asks to be left alone. -/
def excludes (t : FileTree) (path : String) : Bool := t.holdsAt path Marker.excludeFile.sentinel

theorem excludes_of_readText (h : t.readText path = .ok text) : t.excludes path = isExcluded text :=
  holdsAt_of_readText _ h

namespace Marked

variable (h : t.Marked t')
include h

theorem excludes_eq (path : String) : t'.excludes path = t.excludes path := by
  cases ht : t.readText path with
  | error f => rw [excludes, excludes, holdsAt, holdsAt, ht, h.error path f ht]
  | ok text =>
    obtain ⟨n, hn⟩ := h.text path text ht
    rw [excludes_of_readText ht, excludes_of_readText hn, isExcluded_iterate_markedText]

theorem readBytes_of_excludes (hx : t.excludes path = true) :
    t'.readBytes path = t.readBytes path := by
  cases ht : t.readText path with
  | error f => simp [excludes, holdsAt, ht] at hx
  | ok text =>
    obtain ⟨n, hn⟩ := h.text path text ht
    rw [excludes_of_readText ht] at hx
    rw [Function.iterate_fixed (markedText_of_isExcluded hx)] at hn
    rw [readText_eq_ok_iff.1 hn, readText_eq_ok_iff.1 ht]

end Marked

/-! ## What handling some pages does -/

/-- `t'` is what is left of `t` once some pages are handled. -/
structure Handled (t : FileTree) (pages : List String) (t' : FileTree) : Prop where
  /-- No more than texts is altered, and that by marking. -/
  marked : t.Marked t'
  /-- Where no page leads to, all is as it was. -/
  elsewhere : ∀ at_, at_ ∉ pages.filterMap t.fileAt? → t'.get? at_ = t.get? at_
  /-- Pages that ask for it are left alone, byte by byte. -/
  skipped : ∀ p ∈ pages, t.excludes p = true → t'.readBytes p = t.readBytes p
  /-- The others hold their new text, unless two of the pages are one file. -/
  processed : (pages.filterMap t.fileAt?).Nodup → ∀ p ∈ pages, ∀ before document,
    t.readText p = .ok before → segment p before = .rewritten document →
      t'.readBytes p = .ok document.text.toUTF8

/-- What is reported on some pages once they are handled. -/
structure Reports (t : FileTree) (pages : List String) (fates : List PageFate) : Prop where
  skipped : fates.filterMap PageFate.skipped? = pages.filter t.excludes
  processed : (fates.filterMap PageFate.processed?).map ProcessedPage.path =
    pages.filter fun p => !t.excludes p
  /-- Unless two of the pages are one file, each fate comes of the text before. -/
  texts : (pages.filterMap t.fileAt?).Nodup → ∀ fate ∈ fates,
    ∃ p before, p ∈ pages ∧ t.readText p = .ok before ∧ fate = .ofText p before

theorem Handled.nil (t : FileTree) : t.Handled [] t :=
  ⟨.refl t, fun _ _ => rfl, fun _ _ _ => rfl, by simp⟩

theorem Reports.nil (t : FileTree) : t.Reports [] [] := ⟨rfl, rfl, by simp⟩

section Cons

variable (hb : t.readText path = .ok before)
  (hu : t.Updates path before (markedText path before) t₁)

include hb in
/-- The first of some pages is not the same file as another. -/
theorem fileAt?_ne_of_nodup (hd : ((path :: rest).filterMap t.fileAt?).Nodup) {p : String}
    (hp : p ∈ rest) (ha : t.fileAt? p = some at_) : t.fileAt? path ≠ some at_ := by
  obtain ⟨here, hh⟩ := exists_fileAt? hb
  rw [List.filterMap_cons_some hh, List.nodup_cons] at hd
  rw [hh]
  rintro ⟨⟩
  exact hd.1 (List.mem_filterMap.2 ⟨p, hp, ha⟩)

include hb hu in
/-- The turn of the first page does not concern the others. -/
theorem readText_of_nodup (hd : ((path :: rest).filterMap t.fileAt?).Nodup) {p : String}
    (hp : p ∈ rest) (ha : t.fileAt? p = some at_) : t₁.readText p = t.readText p := by
  have hg := hu.get?_eq (fileAt?_ne_of_nodup hb hd hp ha)
  exact readText_of_readBytes (hu.alike.readBytes_eq ha hg)

include hb in
theorem nodup_rest (hd : ((path :: rest).filterMap t.fileAt?).Nodup) :
    (rest.filterMap t.fileAt?).Nodup := by
  obtain ⟨here, hh⟩ := exists_fileAt? hb
  rw [List.filterMap_cons_some hh] at hd
  exact hd.of_cons

include hb hu in
theorem Handled.cons (h : t₁.Handled rest t') : t.Handled (path :: rest) t' := by
  have hr := hu.rewrites hb
  have hm : t.Marked t' := hr.marked.trans h.marked
  obtain ⟨here, hh⟩ := exists_fileAt? hb
  have hf : t₁.fileAt? = t.fileAt? := hu.alike.fileAt?_eq
  refine ⟨hm, ?_, fun p _ => hm.readBytes_of_excludes, ?_⟩
  · intro at_ ha
    rw [List.filterMap_cons_some hh, List.mem_cons, not_or] at ha
    calc t'.get? at_ = t₁.get? at_ := h.elsewhere at_ (by rw [hf]; exact ha.2)
      _ = t.get? at_ := hu.get?_eq (by rw [hh]; exact fun he => ha.1 (Option.some.inj he).symm)
  · intro hd p hp text document ht hs
    rcases List.mem_cons.1 hp with rfl | hp
    · -- no later page is the same file
      obtain rfl : before = text := Except.ok.inj (hb.symm.trans ht)
      have hn : here ∉ rest.filterMap t₁.fileAt? := by
        rw [List.filterMap_cons_some hh, List.nodup_cons] at hd
        rw [hf]
        exact hd.1
      have ha : t₁.fileAt? p = some here := by rw [hf, hh]
      rw [h.marked.alike.readBytes_eq ha (h.elsewhere here hn), readText_eq_ok_iff.1 hr.here,
        markedText_of_segment hs]
    · obtain ⟨at_, ha⟩ := exists_fileAt? ht
      refine h.processed (by rw [hf]; exact nodup_rest hb hd) p hp text document ?_ hs
      rw [readText_of_nodup hb hu hd hp ha, ht]

include hb hu in
theorem Reports.cons (h : t₁.Reports rest fates) :
    t.Reports (path :: rest) (.ofText path before :: fates) := by
  have hx : t₁.excludes = t.excludes := funext (hu.rewrites hb).marked.excludes_eq
  have hf : t₁.fileAt? = t.fileAt? := hu.alike.fileAt?_eq
  have hskipped := h.skipped
  have hprocessed := h.processed
  rw [hx] at hskipped hprocessed
  have hp := excludes_of_readText hb
  refine ⟨?_, ?_, ?_⟩
  · cases hc : isExcluded before with
    | true =>
      rw [PageFate.ofText_of_isExcluded hc, List.filter_cons_of_pos (by rw [hp, hc]), ← hskipped]
      rfl
    | false =>
      rw [PageFate.ofText_of_not_isExcluded hc, List.filter_cons_of_neg (by simp [hp, hc]), ← hskipped]
      rfl
  · cases hc : isExcluded before with
    | true =>
      rw [PageFate.ofText_of_isExcluded hc, List.filter_cons_of_neg (by simp [hp, hc]), ← hprocessed]
      rfl
    | false =>
      rw [PageFate.ofText_of_not_isExcluded hc, List.filter_cons_of_pos (by simp [hp, hc]),
        ← hprocessed]
      rfl
  · intro hd fate hfate
    rcases List.mem_cons.1 hfate with rfl | hfate
    · exact ⟨path, before, by simp, hb, rfl⟩
    · obtain ⟨p, text, hp, ht, rfl⟩ := h.texts (by rw [hf]; exact nodup_rest hb hd) fate hfate
      obtain ⟨at_, ha⟩ := exists_fileAt? ht
      rw [readText_of_nodup hb hu hd hp (by rw [← hf, ha])] at ht
      exact ⟨p, text, List.mem_cons_of_mem _ hp, ht, rfl⟩

end Cons

end FileTree

/-! ## The run -/

/-- What is noted on some pages of `total`, the first of which has the given number. -/
def pageEvents (total number : Nat) (pages : List String) : List Event :=
  (pages.zipIdx number).map fun e => .page e.1 e.2 total

variable {s : Session} {path : String}

/-- Pages that can be read are handled, each noted once it is, and the run goes on with the others. -/
theorem exists_handled (s : Session) (total number : Nat) (pages : List String)
    (h : ∀ p ∈ pages, ∃ text, s.files.readText p = .ok text) :
    ∃ fates t', s.files.Handled pages t' ∧ s.files.Reports pages fates ∧
      ∀ (rest : List String) (others : Except Failure (List PageFate)) (s' : Session),
        (markFrom false total (number + pages.length) rest).runOn
          ⟨t', s.log ++ pageEvents total number pages⟩ = (others, s') →
        (markFrom false total number (pages ++ rest)).runOn s = (others.map (fates ++ ·), s') := by
  induction pages generalizing s number with
  | nil =>
    refine ⟨[], s.files, .nil _, .nil _, fun rest others s' hr => ?_⟩
    have hs : s = ⟨s.files, s.log ++ pageEvents total number []⟩ := by simp [pageEvents]
    have ho : others.map ([] ++ ·) = others := by cases others <;> rfl
    rw [ho, ← hr, ← hs]
    rfl
  | cons path pages ih =>
    obtain ⟨before, hb⟩ := h path (by simp)
    obtain ⟨t₁, hu, hrun⟩ := runOn_markPage_updates hb
    -- the other pages can still be read
    have hread : ∀ p ∈ pages, ∃ text, t₁.readText p = .ok text := by
      intro p hp
      obtain ⟨text, ht⟩ := h p (List.mem_cons_of_mem _ hp)
      obtain ⟨n, hn⟩ := (hu.rewrites hb).marked.text p text ht
      exact ⟨_, hn⟩
    obtain ⟨fates, t', hhandled, hreports, hrest⟩ :=
      ih ⟨t₁, s.log ++ [.page path number total]⟩ (number + 1) hread
    refine ⟨.ofText path before :: fates, t', .cons hb hu hhandled, .cons hb hu hreports, ?_⟩
    intro rest others s' hr
    have hlog : s.log ++ pageEvents total number (path :: pages) =
        s.log ++ [.page path number total] ++ pageEvents total (number + 1) pages := by
      simp [pageEvents]
    rw [hlog, List.length_cons, Nat.add_comm pages.length, ← Nat.add_assoc] at hr
    rw [List.cons_append, runOn_markFrom_cons_ok hrun (hrest rest others s' hr)]
    cases others <;> rfl

/-- What is reported on a page with this text, unless it is left alone. -/
theorem PageFate.processed?_ofText {path text : String} {page : ProcessedPage}
    (h : (PageFate.ofText path text).processed? = some page) :
    path = page.path ∧ segment path text = .rewritten page.document ∧
      page.changed = (page.document.text != text) := by
  unfold PageFate.ofText at h
  cases hs : segment path text with
  | skipped => simp [hs, PageFate.processed?] at h
  | rewritten d =>
    simp only [hs, PageFate.processed?, Option.some.injEq] at h
    subst h
    exact ⟨rfl, rfl, rfl⟩

/-- All pages can be read, or there is a first that cannot. -/
theorem all_read_or_first_unread (t : FileTree) (paths : List String) :
    (∀ p ∈ paths, ∃ text, t.readText p = .ok text) ∨
      ∃ above path below f, paths = above ++ path :: below ∧
        (∀ p ∈ above, ∃ text, t.readText p = .ok text) ∧ t.readText path = .error f := by
  induction paths with
  | nil => exact .inl (by simp)
  | cons path rest ih =>
    cases ht : t.readText path with
    | error f => exact .inr ⟨[], path, rest, f, rfl, by simp, ht⟩
    | ok text =>
      rcases ih with hall | ⟨above, bad, below, f, rfl, hall, hf⟩
      · exact .inl (by simpa [ht] using hall)
      · exact .inr ⟨path :: above, bad, below, f, rfl, by simpa [ht] using hall, hf⟩

/-- **A whole run of marking.** Each page that is found is handled once, in the order in which the pages
are found. If all can be read, the run reports those that it left alone and those that it marked, and
notes each page and at last the number of warnings. Else it stops at the first page that cannot be read,
with the pages before handled and noted, and all others as they were. -/
theorem mark_whole_run (root : String) (skip : Exclusions) (s : Session) :
    match s.files.pages root skip with
    | .error f =>
      (mark ⟨root, skip, false⟩).runOn s = (.error f, s.noting [.phase .discovering]) ∧
        (s.files.isFolder root = false → f = .config (.rootNotFolder root))
    | .ok paths =>
      (s.files.WellNamed → paths.Nodup) ∧
      ((∃ report t', (∀ p ∈ paths, ∃ text, s.files.readText p = .ok text) ∧
          (mark ⟨root, skip, false⟩).runOn s =
            (.ok report, ⟨t', s.log ++ [.phase .discovering, .phase .marking] ++
              pageEvents paths.length 1 paths ++ [.finished report.diagnostics.length]⟩) ∧
          report.skipped = paths.filter s.files.excludes ∧
          report.processed.map ProcessedPage.path = paths.filter (fun p => !s.files.excludes p) ∧
          s.files.Handled paths t' ∧
          ((paths.filterMap s.files.fileAt?).Nodup → ∀ page ∈ report.processed, ∃ before,
            s.files.readText page.path = .ok before ∧
            segment page.path before = .rewritten page.document ∧
            t'.readBytes page.path = .ok page.document.text.toUTF8 ∧
            (page.changed = true ↔ page.document.text ≠ before))) ∨
        ∃ above bad below f t', paths = above ++ bad :: below ∧
          (∀ p ∈ above, ∃ text, s.files.readText p = .ok text) ∧
          s.files.readText bad = .error f ∧
          (mark ⟨root, skip, false⟩).runOn s =
            (.error (.file bad f), ⟨t', s.log ++ [.phase .discovering, .phase .marking] ++
              pageEvents paths.length 1 above⟩) ∧
          s.files.Handled above t') := by
  cases hp : s.files.pages root skip with
  | error f =>
    refine ⟨runOn_mark_of_error (o := ⟨root, skip, false⟩) hp, fun hn => ?_⟩
    rw [pages_of_not_isFolder hn] at hp
    exact (Except.error.inj hp).symm
  | ok paths =>
    refine ⟨fun hw => hw.nodup_pages hp, ?_⟩
    let s₁ := s.noting [.phase .discovering, .phase .marking]
    rcases all_read_or_first_unread s.files paths with hall | ⟨above, bad, below, f, rfl, hall, hf⟩
    · left
      obtain ⟨fates, t', hhandled, hreports, hrun⟩ := exists_handled s₁ paths.length 1 paths hall
      have hfates := hrun [] (.ok []) _ rfl
      rw [List.append_nil, show (Except.ok [] : Except Failure (List PageFate)).map (fates ++ ·) =
        .ok fates from congrArg Except.ok (List.append_nil fates)] at hfates
      have hmark := runOn_mark_of_pages_ok (o := ⟨root, skip, false⟩) hp hfates
      refine ⟨.ofFates false fates, t', hall, hmark, hreports.skipped, hreports.processed, hhandled, ?_⟩
      intro hd page hpage
      obtain ⟨fate, hfate, hprocessed⟩ := List.mem_filterMap.1 hpage
      obtain ⟨p, before, hmem, hb, rfl⟩ := hreports.texts hd fate hfate
      obtain ⟨rfl, hs, hc⟩ := PageFate.processed?_ofText hprocessed
      exact ⟨before, hb, hs, hhandled.processed hd _ hmem before _ hb hs, by simp [hc]⟩
    · right
      obtain ⟨fates, t', hhandled, -, hrun⟩ :=
        exists_handled s₁ (above ++ bad :: below).length 1 above hall
      have hbad := hhandled.marked.error bad f hf
      have hfates := hrun (bad :: below) _ _ (runOn_markFrom_cons_error (runOn_markPage_error hbad))
      exact ⟨above, bad, below, f, t', rfl, hall, hf,
        runOn_mark_of_pages_error (o := ⟨root, skip, false⟩) hp hfates, hhandled⟩

/-- The one page is handled and reported. It is marked, and still has a line that ends in a carriage
return. -/
theorem mark_whole_run_onePage :
    (onePage "# A\r\r\n").WellNamed ∧ ["docs/a.md"].Nodup ∧
    (["docs/a.md"].filterMap (onePage "# A\r\r\n").fileAt?).Nodup ∧
    ∃ report t', (mark ⟨"docs", ⟨[], []⟩, false⟩).runOn ⟨onePage "# A\r\r\n", []⟩ =
        (.ok report, ⟨t', [.phase .discovering, .phase .marking, .page "docs/a.md" 1 1,
          .finished report.diagnostics.length]⟩) ∧
      report.skipped = [] ∧ report.processed.map ProcessedPage.path = ["docs/a.md"] ∧
      ∀ page ∈ report.processed, segment page.path "# A\r\r\n" = .rewritten page.document ∧
        t'.readBytes page.path = .ok page.document.text.toUTF8 ∧ page.changed = true := by
  have hw : (onePage "# A\r\r\n").WellNamed := by
    unfold WellNamed
    decide
  have hd : (["docs/a.md"].filterMap (onePage "# A\r\r\n").fileAt?).Nodup := by
    rw [List.filterMap_cons_some (fileAt?_eq_some_iff.2 ⟨_, locate_onePage _⟩)]
    simp
  have hx : (onePage "# A\r\r\n").excludes "docs/a.md" = false := by
    rw [excludes_of_readText (readText_onePage _)]
    decide
  have hrun := mark_whole_run "docs" ⟨[], []⟩ ⟨onePage "# A\r\r\n", []⟩
  simp only [pages_onePage] at hrun
  obtain ⟨hn, ⟨report, t', -, hr, hskip, hproc, -, htexts⟩ | ⟨above, bad, below, f, -, hp, -, hf, -⟩⟩ := hrun
  · refine ⟨hw, hn hw, hd, report, t', hr, ?_, ?_, ?_⟩
    · simp [hskip, hx]
    · simp [hproc, hx]
    · intro page hpage
      obtain ⟨before, hb, hs, hafter, hc⟩ := htexts hd page hpage
      have hpath : page.path = "docs/a.md" := by
        have hm := List.mem_map_of_mem (f := ProcessedPage.path) hpage
        simpa [hproc, hx] using hm
      rw [hpath, readText_onePage] at hb
      obtain rfl := Except.ok.inj hb
      refine ⟨hs, hafter, hc.2 ?_⟩
      rw [← markedText_of_segment hs, hpath]
      decide
  · obtain rfl : bad = "docs/a.md" := by
      have hm : bad ∈ ["docs/a.md"] := by simp [hp]
      exact List.mem_singleton.1 hm
    rw [readText_onePage] at hf
    cases hf

end PagePrep
