import PagePrep.Proofs.Run.Auditing

/-!
# Checking before and after marking

Checking tells what marking would do: whether it fails, which pages it alters, which it skips and what
it warns of (`checking_predicts_marking`). After marking, it tells which pages still hold `\r\n`, since
marking takes one carriage return off the end of a line and no more (`changed_after_marking`).
-/

set_option autoImplicit false

namespace PagePrep

open Text FileTree

namespace FileTree

variable {t : FileTree} {path text : String}

/-- The bytes of the file that a path leads to, if it leads to one. -/
def bytesAt? (t : FileTree) (path : String) : Option (List UInt8) :=
  match t.readBytes path with
  | .ok content => some content.data.toList
  | .error _ => none

/-- Whether the text of the file that a path leads to holds a piece of text. -/
def holdsAt (t : FileTree) (path needle : String) : Bool :=
  match t.readText path with
  | .ok text => contains text needle
  | .error _ => false

theorem bytesAt?_of_readText (h : t.readText path = .ok text) :
    t.bytesAt? path = some text.toUTF8.data.toList := by
  rw [bytesAt?, readText_eq_ok_iff.1 h]

theorem holdsAt_of_readText (needle : String) (h : t.readText path = .ok text) :
    t.holdsAt path needle = contains text needle := by
  rw [holdsAt, h]

end FileTree

theorem toList_data_toUTF8_inj {a b : String} :
    a.toUTF8.data.toList = b.toUTF8.data.toList ↔ a = b := by
  rw [Array.toList_inj, ← ByteArray.ext_iff]
  exact String.toByteArray_inj

namespace PageCourse

variable (c : PageCourse)

/-- A page that went its course is altered once more if it does not ask to be left alone and has a
line that ends in a carriage return. -/
theorem markedText_after_eq_iff :
    markedText c.path c.after = c.after ↔
      isExcluded c.before = true ∨ contains c.after "\r\n" = false := by
  have ha : c.after = markedText c.path ((markedText c.path)^[c.later + c.earlier] c.before) := by
    rw [after_eq, Function.iterate_succ_apply']
  have hx := isExcluded_iterate_markedText c.path c.before (c.later + c.earlier)
  rw [ha]
  cases hb : isExcluded c.before with
  | true =>
    rw [hb] at hx
    simp [markedText_of_isExcluded hx]
  | false =>
    rw [hb] at hx
    simp [markedText_markedText_eq_iff hx]

variable (courses : List PageCourse)

/-- A check before the run reports the pages that their courses alter. -/
theorem changed_ofTexts_pageBefore :
    (MarkingReport.ofTexts true (courses.map pageBefore)).changed =
      (courses.filter fun c => c.after != c.before).map path := by
  rw [MarkingReport.changed_ofTexts, List.filter_map, List.map_map]
  show List.map path _ = _
  congr 1
  apply List.filter_congr
  intro c _
  show (markedText c.path c.before != c.before) = (c.after != c.before)
  rw [Bool.eq_iff_iff, bne_iff_ne, bne_iff_ne, ne_eq, ne_eq, c.after_eq_before_iff]

/-- A check after the run reports the pages with a carriage return left. -/
theorem changed_ofTexts_pageAfter :
    (MarkingReport.ofTexts true (courses.map pageAfter)).changed =
      (courses.filter fun c => contains c.after "\r\n" && !isExcluded c.before).map path := by
  rw [MarkingReport.changed_ofTexts, List.filter_map, List.map_map]
  show List.map path _ = _
  congr 1
  apply List.filter_congr
  intro c _
  show (markedText c.path c.after != c.after) = _
  rw [Bool.eq_iff_iff, bne_iff_ne, ne_eq, c.markedText_after_eq_iff]
  simp [and_comm]

end PageCourse

section

variable (root : String) (skip : Exclusions)

/-- **Checking predicts marking.** Checking leaves the files alone. It fails as marking the same files
does, or both succeed; then checking reports those of the pages that marking alters on disk, and both
skip the same pages and give the same warnings. -/
theorem checking_predicts_marking (s : Session) :
    ((mark ⟨root, skip, true⟩).runOn s).2.files = s.files ∧
      ((∃ f, ((mark ⟨root, skip, true⟩).runOn s).1 = .error f ∧
          ((mark ⟨root, skip, false⟩).runOn s).1 = .error f) ∨
        ∃ paths checked marked s', s.files.pages root skip = .ok paths ∧
          ((mark ⟨root, skip, true⟩).runOn s).1 = .ok checked ∧
          (mark ⟨root, skip, false⟩).runOn s = (.ok marked, s') ∧
          checked.changed =
            paths.filter (fun p => s'.files.bytesAt? p != s.files.bytesAt? p) ∧
          checked.skipped = marked.skipped ∧
          checked.diagnostics = marked.diagnostics) := by
  obtain ⟨log, hc⟩ := runOn_mark_checking (o := ⟨root, skip, true⟩) rfl s
  cases ht : s.files.pageTexts root skip with
  | error f =>
    rw [ht] at hc
    rw [hc]
    exact ⟨rfl, .inl ⟨f, rfl, runOn_mark_writing_error rfl ht⟩⟩
  | ok pages =>
    rw [ht] at hc
    rw [hc]
    refine ⟨rfl, .inr ?_⟩
    obtain ⟨courses, s', hr, -, rfl, ha⟩ := runOn_mark_writing_ok (o := ⟨root, skip, false⟩) rfl ht
    obtain ⟨hp, hb⟩ := pageTexts_eq_ok_iff.1 ht
    have hskip := skipped_ofTexts_pageAtTurn false true courses
    have hwarn := diagnostics_ofTexts_pageAtTurn false true courses
    refine ⟨_, _, _, s', hp, rfl, hr, ?_, hskip.symm, hwarn.symm⟩
    rw [PageCourse.changed_ofTexts_pageBefore, PageCourse.map_fst_pageBefore, List.filter_map]
    congr 1
    apply List.filter_congr
    intro c hcm
    have hbefore : s.files.bytesAt? c.path = some c.before.toUTF8.data.toList :=
      bytesAt?_of_readText (hb c.pageBefore (List.mem_map_of_mem hcm))
    have hafter : s'.files.bytesAt? c.path = some c.after.toUTF8.data.toList :=
      bytesAt?_of_readText (ha c hcm)
    rw [Function.comp_apply, hbefore, hafter, Bool.eq_iff_iff, bne_iff_ne, bne_iff_ne, ne_eq, ne_eq,
      Option.some.injEq, toList_data_toUTF8_inj]

variable {root skip}

/-- **Checking after marking** succeeds. It reports the processed pages in which a line still ends in
a carriage return, and no others. -/
theorem changed_after_marking {s s' : Session} {r : MarkingReport}
    (h : (mark ⟨root, skip, false⟩).runOn s = (.ok r, s')) :
    ∃ r' s'', (mark ⟨root, skip, true⟩).runOn s' = (.ok r', s'') ∧
      r'.changed = (r.processed.map ProcessedPage.path).filter
        fun p => s'.files.holdsAt p "\r\n" := by
  cases ht : s.files.pageTexts root skip with
  | error f =>
    have he := runOn_mark_writing_error (o := ⟨root, skip, false⟩) rfl ht
    rw [h] at he
    cases he
  | ok before =>
    obtain ⟨courses, s₁, hr, hm, rfl, ha⟩ := runOn_mark_writing_ok (o := ⟨root, skip, false⟩) rfl ht
    obtain ⟨hr, rfl⟩ := Prod.mk.inj (hr.symm.trans h)
    obtain rfl := Except.ok.inj hr
    have hp : s₁.files.pages root skip = .ok (courses.map PageCourse.path) := by
      rw [hm.alike.pages_eq, (pageTexts_eq_ok_iff.1 ht).1, PageCourse.map_fst_pageBefore]
    have ht' : s₁.files.pageTexts root skip = .ok (courses.map PageCourse.pageAfter) := by
      rw [pageTexts_of_ok hp, PageCourse.readPages_after ha]
    obtain ⟨log, hc⟩ := runOn_mark_checking (o := ⟨root, skip, true⟩) rfl s₁
    rw [ht'] at hc
    refine ⟨_, _, hc, ?_⟩
    rw [PageCourse.changed_ofTexts_pageAfter, map_path_ofTexts_pageAtTurn, List.filter_map,
      List.filter_filter]
    congr 1
    apply List.filter_congr
    intro c hcm
    rw [Function.comp_apply, holdsAt_of_readText _ (ha c hcm)]

end

/-- A page of one line that ends in two carriage returns: marking takes off the first, and a check
finds the second. -/
theorem changed_after_marking_return :
    ∃ r s' r' s'',
      (mark ⟨"docs", ⟨[], []⟩, false⟩).runOn ⟨onePage "a\r\r\n", []⟩ = (.ok r, s') ∧
      (mark ⟨"docs", ⟨[], []⟩, true⟩).runOn s' = (.ok r', s'') ∧
      r'.changed = ["docs/a.md"] := by
  obtain ⟨s', hr, ht⟩ := runOn_mark_onePage "a\r\r\n"
  obtain ⟨log, hc⟩ := runOn_mark_checking (o := ⟨"docs", ⟨[], []⟩, true⟩) rfl s'
  rw [ht] at hc
  refine ⟨_, s', _, _, hr, hc, ?_⟩
  rw [MarkingReport.changed_ofTexts]
  decide

/-- A page with plain newlines is settled. -/
theorem changed_after_marking_plain :
    ∃ r s' r' s'',
      (mark ⟨"docs", ⟨[], []⟩, false⟩).runOn ⟨onePage "# A\n", []⟩ = (.ok r, s') ∧
      (mark ⟨"docs", ⟨[], []⟩, true⟩).runOn s' = (.ok r', s'') ∧ r'.changed = [] := by
  obtain ⟨s', hr, ht⟩ := runOn_mark_onePage "# A\n"
  obtain ⟨r', s'', hc, hch⟩ := changed_after_marking hr
  refine ⟨_, s', r', s'', hr, hc, ?_⟩
  have hp := (pageTexts_eq_ok_iff.1 ht).2 ("docs/a.md", markedText "docs/a.md" "# A\n") (by simp)
  have hn : s'.files.holdsAt "docs/a.md" "\r\n" = false := by
    rw [holdsAt_of_readText _ hp]
    decide
  have hm : (MarkingReport.ofTexts false [("docs/a.md", "# A\n")]).processed.map
      ProcessedPage.path = ["docs/a.md"] := by decide
  rw [hch, hm]
  simp [hn]

end PagePrep
