import PagePrep.Proofs.Files.Contents

/-!
# Rewriting a file

A text that can be read can be replaced (`FileTree.exists_rewrites`). Then every path reads as before,
but for those that lead to the same file, and nothing else about the tree changes.
-/

set_option autoImplicit false

namespace PagePrep.FileTree

variable {t t' : FileTree} {path : String}

theorem readBytes_eq_ok_iff {content : ByteArray} :
    t.readBytes path = .ok content ↔ ∃ at_, t.locate path = .ok (.taken at_ (.file content)) := by
  unfold readBytes
  split <;> simp_all

theorem Alike.readBytes_error (h : t.Alike t') {f : FileFault} (hr : t.readBytes path = .error f) :
    t'.readBytes path = .error f := by
  cases hl : t.locate path with
  | error f' => simpa [readBytes, hl, h.locate_error hl] using hr
  | ok place =>
    obtain ⟨place', hl', ho⟩ := h.locate_ok hl
    rw [readBytes, hl] at hr
    rw [readBytes, hl']
    cases place with
    | free folder name => cases place' <;> simp_all [Place.outline]
    | taken at_ e =>
      cases place' with
      | free folder name => simp [Place.outline] at ho
      | taken at' e' => cases e <;> cases e' <;> simp_all [Place.outline, Entry.outline]

theorem fromUTF8?_eq_some_iff {content : ByteArray} {s : String} :
    String.fromUTF8? content = some s ↔ content = s.toUTF8 := by
  unfold String.fromUTF8?
  constructor
  · intro h
    split at h
    · rw [← Option.some.inj h]
      rfl
    · cases h
  · rintro rfl
    exact dif_pos s.isValidUTF8

theorem readText_eq_ok_iff {s : String} :
    t.readText path = .ok s ↔ t.readBytes path = .ok s.toUTF8 := by
  unfold readText
  cases t.readBytes path with
  | error f => simp
  | ok content =>
    simp only [Except.ok.injEq, ← fromUTF8?_eq_some_iff]
    cases String.fromUTF8? content <;> simp

theorem readText_of_readBytes (h : t'.readBytes path = t.readBytes path) :
    t'.readText path = t.readText path := by
  rw [readText, readText, h]

/-! ## Writing -/

/-- `t'` is `t` with the text `new` in place of `old` in the file that `path` leads to. -/
structure Rewrites (t : FileTree) (path old new : String) (t' : FileTree) : Prop where
  alike : t.Alike t'
  here : t'.readText path = .ok new
  elsewhere : ∀ other, t'.readText other = t.readText other ∨
    t.readText other = .ok old ∧ t'.readText other = .ok new

theorem Rewrites.refl {old : String} (h : t.readText path = .ok old) :
    t.Rewrites path old old t :=
  ⟨.refl t, h, fun _ => .inl rfl⟩

/-- `t'` is `t` with the text `new` as the content of the file that `path` leads to, and the same at
every other location. -/
structure Replaces (t : FileTree) (path new : String) (t' : FileTree) : Prop where
  working : t'.working = t.working
  names : ∀ at_, t'.names at_ = t.names at_
  location : ∃ at_ content, t.locate path = .ok (.taken at_ (.file content)) ∧
    t'.get? at_ = some (.file new.toUTF8) ∧ ∀ other, other ≠ at_ → t'.get? other = t.get? other

/-- A file that can be read can be written, and nothing else changes. -/
theorem exists_replaces {old : String} (new : String) (h : t.readText path = .ok old) :
    ∃ t', t.writeText path new = .ok t' ∧ t.Replaces path new t' := by
  obtain ⟨at_, hl⟩ := readBytes_eq_ok_iff.1 (readText_eq_ok_iff.1 h)
  have hg := get?_of_locate hl
  have hne : at_ ≠ [] := by
    rintro rfl
    simp at hg
  refine ⟨t.put at_ (.file new.toUTF8), ?_, working_put, ?_, at_, _, hl, get?_put_self hne, ?_⟩
  · simp [writeText, writeBytes, locate_writing hl]
  · intro other
    exact names_put (by rw [hg]; rfl) hne
  · intro other ho
    exact get?_put_of_ne ho

theorem Replaces.alike {new : String} (h : t.Replaces path new t') : t.Alike t' := by
  obtain ⟨at_, content, hl, hg, ho⟩ := h.location
  refine ⟨⟨h.working, fun a => ?_⟩, h.names⟩
  by_cases ha : a = at_
  · rw [ha, hg, get?_of_locate hl]
    rfl
  · rw [ho a ha]

/-- Every path that leads to the file reads anew, and every other as before. -/
theorem Replaces.rewrites {old new : String} (h : t.readText path = .ok old)
    (hrep : t.Replaces path new t') : t.Rewrites path old new t' := by
  have ha := hrep.alike
  obtain ⟨at_, content, hl, hput, hne⟩ := hrep.location
  obtain rfl : old.toUTF8 = content := by
    have hb := readBytes_eq_ok_iff.2 ⟨at_, hl⟩
    rw [readText_eq_ok_iff.1 h] at hb
    exact Except.ok.inj hb
  -- the tree reads anew just where it did lead to the location that was written
  have read {other : String} {b : Location} {content : ByteArray}
      (ho : t.locate other = .ok (.taken b (.file content))) :
      ∃ content', t'.readBytes other = .ok content' ∧ t'.get? b = some (.file content') := by
    obtain ⟨content', ho'⟩ := ha.locate_file ho
    exact ⟨content', readBytes_eq_ok_iff.2 ⟨b, ho'⟩, get?_of_locate ho'⟩
  refine ⟨ha, ?_, ?_⟩
  · obtain ⟨content', hr, hc⟩ := read hl
    rw [hput] at hc
    rw [readText_eq_ok_iff, hr]
    simpa using hc.symm
  · intro other
    cases ho : t.readBytes other with
    | error f => exact .inl (readText_of_readBytes (by rw [ha.readBytes_error ho, ho]))
    | ok content =>
      obtain ⟨b, hb⟩ := readBytes_eq_ok_iff.1 ho
      obtain ⟨content', hr, hc⟩ := read hb
      by_cases hba : b = at_
      · right
        subst hba
        obtain rfl := Entry.file.inj (Option.some.inj ((get?_of_locate hl).symm.trans
          (get?_of_locate hb)))
        obtain rfl := Entry.file.inj (Option.some.inj (hput.symm.trans hc))
        exact ⟨readText_eq_ok_iff.2 ho, readText_eq_ok_iff.2 hr⟩
      · left
        rw [hne b hba, get?_of_locate hb] at hc
        apply readText_of_readBytes
        rw [hr, ho]
        simpa using hc.symm

/-- A text that can be read can be replaced. -/
theorem exists_rewrites {old : String} (new : String) (h : t.readText path = .ok old) :
    ∃ t', t.writeText path new = .ok t' ∧ t.Rewrites path old new t' := by
  obtain ⟨t', hw, hrep⟩ := exists_replaces new h
  exact ⟨t', hw, hrep.rewrites h⟩

end PagePrep.FileTree
