import PagePrep.Toml.Reader

/-!
# The range of integers

An integer that is too large for 64 bits is refused where it is read, so that no document holds one
(`inRange_of_read`). Each reader, and each way to put nodes together, keeps to the range.
-/

set_option autoImplicit false

namespace PagePrep.Toml

/-- No integer in a node is too large. -/
inductive Node.InRange : Node → Prop
  | text (s : String) : InRange (.text s)
  | integer {i : Int} (bound : i < integerBound) : InRange (.integer i)
  | float : InRange .float
  | boolean (b : Bool) : InRange (.boolean b)
  | moment : InRange .moment
  | list {items : List Node} (items_inRange : ∀ n ∈ items, InRange n) : InRange (.list items)
  | table {origin : Origin} {members : List (String × Node)}
      (members_inRange : ∀ m ∈ members, InRange m.2) : InRange (.table origin members)
  | tables {earlier : List (List (String × Node))} {last : List (String × Node)}
      (earlier_inRange : ∀ ms ∈ earlier, ∀ m ∈ ms, InRange m.2)
      (last_inRange : ∀ m ∈ last, InRange m.2) : InRange (.tables earlier last)

/-- No integer in some members is too large. -/
def Members.InRange (ms : Members) : Prop := ∀ m ∈ ms, m.2.InRange

/-! ## Members -/

namespace Members

variable {ms ms' : Members} {key : String} {n : Node}

theorem inRange_nil : InRange [] := by simp [InRange]

theorem InRange.get? (h : ms.InRange) (hg : ms.get? key = some n) : n.InRange := by
  obtain ⟨m, hm, rfl⟩ := Option.map_eq_some_iff.1 hg
  exact h m (List.mem_of_find?_eq_some hm)

theorem InRange.add (h : ms.InRange) (hn : n.InRange) : (ms.add key n).InRange := by
  intro m hm
  rcases List.mem_append.1 hm with hm | hm
  · exact h m hm
  · rw [List.mem_singleton.1 hm]
    exact hn

theorem InRange.set (h : ms.InRange) (hn : n.InRange) : (ms.set key n).InRange := by
  intro m hm
  obtain ⟨k, hk, rfl⟩ := List.mem_map.1 hm
  split
  · exact hn
  · exact h k hk

theorem InRange.of_table {origin : Origin} (h : Node.InRange (.table origin ms)) : ms.InRange := by
  cases h
  assumption

theorem InRange.of_tables {earlier : List Members} (h : Node.InRange (.tables earlier ms)) :
    (∀ ms ∈ earlier, InRange ms) ∧ ms.InRange := by
  cases h
  exact ⟨by assumption, by assumption⟩

theorem InRange.insert {path : List String} (h : ms.InRange) (hn : n.InRange)
    (hi : ms.insert key path n = some ms') : ms'.InRange := by
  induction path generalizing ms ms' key with
  | nil =>
    simp only [Members.insert, Option.ite_none_left_eq_some, Option.some.injEq] at hi
    rw [← hi.2]
    exact h.add hn
  | cons next rest ih =>
    rw [Members.insert] at hi
    split at hi
    · obtain ⟨inner, hinner, rfl⟩ := Option.map_eq_some_iff.1 hi
      exact h.add (.table (ih inRange_nil hinner))
    · next hg =>
      obtain ⟨inner, hinner, rfl⟩ := Option.map_eq_some_iff.1 hi
      exact h.set (.table (ih (.of_table (h.get? hg)) hinner))
    · next hg =>
      split at hi
      · cases hi
      · obtain ⟨inner, hinner, rfl⟩ := Option.map_eq_some_iff.1 hi
        exact h.set (.table (ih (.of_table (h.get? hg)) hinner))
    · next hg =>
      split at hi
      · cases hi
      · obtain ⟨last, hlast, rfl⟩ := Option.map_eq_some_iff.1 hi
        obtain ⟨hearlier, hl⟩ := InRange.of_tables (h.get? hg)
        exact h.set (.tables hearlier (ih hl hlast))
    · cases hi

theorem InRange.within {change : Members → Option Members} {steps : List String} (h : ms.InRange)
    (hc : ∀ ms ms', ms.InRange → change ms = some ms' → ms'.InRange)
    (hw : ms.within change steps = some ms') : ms'.InRange := by
  induction steps generalizing ms ms' with
  | nil => exact hc ms ms' h hw
  | cons key rest ih =>
    rw [Members.within] at hw
    split at hw
    · obtain ⟨inner, hinner, rfl⟩ := Option.map_eq_some_iff.1 hw
      exact h.add (.table (ih inRange_nil hinner))
    · cases hw
    · next hg =>
      obtain ⟨inner, hinner, rfl⟩ := Option.map_eq_some_iff.1 hw
      exact h.set (.table (ih (.of_table (h.get? hg)) hinner))
    · next hg =>
      obtain ⟨last, hlast, rfl⟩ := Option.map_eq_some_iff.1 hw
      obtain ⟨hearlier, hl⟩ := InRange.of_tables (h.get? hg)
      exact h.set (.tables hearlier (ih hl hlast))
    · cases hw

theorem InRange.openTable (h : ms.InRange) (ho : ms.openTable key = some ms') : ms'.InRange := by
  unfold Members.openTable at ho
  split at ho
  · rw [← Option.some.inj ho]
    exact h.add (.table inRange_nil)
  · next hg =>
    rw [← Option.some.inj ho]
    exact h.set (.table (InRange.of_table (h.get? hg)))
  · cases ho

theorem InRange.openNext (h : ms.InRange) (ho : ms.openNext key = some ms') : ms'.InRange := by
  unfold Members.openNext at ho
  split at ho
  · rw [← Option.some.inj ho]
    exact h.add (.tables (by simp) inRange_nil)
  · next hg =>
    obtain ⟨hearlier, hl⟩ := InRange.of_tables (h.get? hg)
    rw [← Option.some.inj ho]
    refine h.set (.tables ?_ inRange_nil)
    intro ms hms
    rcases List.mem_append.1 hms with hms | hms
    · exact hearlier ms hms
    · rw [List.mem_singleton.1 hms]
      exact hl
  · cases ho

end Members

/-! ## Values -/

variable {cs rest : List Char} {n : Node}

theorem lt_of_readInBase {base : Nat} {isDigit : Char → Bool} {i : Int}
    (h : readInBase base isDigit cs = some (i, rest)) : i < integerBound := by
  unfold readInBase at h
  split at h
  · cases h
  · simp only [Option.ite_none_right_eq_some, Option.some.injEq, Prod.mk.injEq] at h
    omega

theorem lt_of_readInteger {i : Int} (h : readInteger cs = some (i, rest)) : i < integerBound := by
  have hpos : 0 < integerBound := by decide
  unfold readInteger at h
  split at h
  · exact lt_of_readInBase h
  · exact lt_of_readInBase h
  · exact lt_of_readInBase h
  · split at h
    · cases h
    · simp only at h
      split at h
      · simp only [Option.ite_none_right_eq_some, Option.some.injEq, Prod.mk.injEq] at h
        omega
      · simp only [Option.ite_none_right_eq_some, Option.some.injEq, Prod.mk.injEq] at h
        omega

theorem inRange_of_readNumber (h : readNumber cs = some (n, rest)) : n.InRange := by
  unfold readNumber at h
  split at h
  · cases h
    exact .moment
  · split at h
    · cases h
      exact .float
    · split at h
      · cases h
        exact .float
      · obtain ⟨⟨i, r⟩, hi, he⟩ := Option.map_eq_some_iff.1 h
        cases he
        exact .integer (lt_of_readInteger hi)

theorem inRange_of_readWord {word : List Char} {w : Node} (hw : w.InRange)
    (h : readWord word w cs = some (n, rest)) : n.InRange := by
  unfold readWord at h
  split at h
  · cases h
    exact hw
  · cases h

theorem inRange_of_readScalar (h : readScalar cs = some (n, rest)) : n.InRange := by
  unfold readScalar at h
  split at h
  · cases h
  · split at h
    · obtain ⟨r, -, he⟩ := Option.map_eq_some_iff.1 h
      cases he
      exact .text _
    · split at h
      · exact inRange_of_readWord (.boolean true) h
      · split at h
        · exact inRange_of_readWord (.boolean false) h
        · exact inRange_of_readNumber h

section Containers

variable {item : List Char → Reading Node}
  (hitem : ∀ cs n rest, item cs = some (n, rest) → n.InRange)
include hitem

theorem inRange_of_readItems {fuel : Nat} {held items : List Node} (hh : ∀ n ∈ held, n.InRange)
    (h : readItems item held fuel cs = some (items, rest)) : ∀ n ∈ items, n.InRange := by
  induction fuel generalizing held cs with
  | zero => cases h
  | succ fuel ih =>
    rw [readItems] at h
    split at h
    · cases h
    · cases h
      simpa using hh
    · split at h
      · cases h
      · next v more hv =>
        have hcons : ∀ n ∈ v :: held, n.InRange := by
          simpa using ⟨hitem _ _ _ hv, hh⟩
        split at h
        · exact ih hcons h
        · cases h
          exact fun n hn => hcons n (List.mem_reverse.1 hn)
        · cases h

theorem inRange_of_readSetting {key : String} {path : List String}
    (h : readSetting item cs = some ((key, path, n), rest)) : n.InRange := by
  unfold readSetting at h
  split at h
  · obtain ⟨⟨v, r⟩, hv, he⟩ := Option.map_eq_some_iff.1 h
    cases he
    exact hitem _ _ _ hv
  · cases h

theorem inRange_of_readPairs {fuel : Nat} {ms ms' : Members} (hm : ms.InRange)
    (h : readPairs item ms fuel cs = some (ms', rest)) : ms'.InRange := by
  induction fuel generalizing ms cs with
  | zero => cases h
  | succ fuel ih =>
    rw [readPairs] at h
    split at h
    · cases h
    · next hs =>
      split at h
      · cases h
      · next hi =>
        have hm' := hm.insert (inRange_of_readSetting hitem hs) hi
        split at h
        · exact ih hm' h
        · cases h
          exact hm'
        · cases h

end Containers

theorem inRange_of_readValue {depth : Nat} (h : readValue depth cs = some (n, rest)) : n.InRange := by
  induction depth generalizing cs n rest with
  | zero => exact inRange_of_readScalar h
  | succ depth ih =>
    have hitem : ∀ cs n rest, readValue depth cs = some (n, rest) → n.InRange := fun _ _ _ => ih
    unfold readValue at h
    split at h
    · obtain ⟨⟨items, r⟩, hi, he⟩ := Option.map_eq_some_iff.1 h
      cases he
      exact .list (inRange_of_readItems hitem (by simp) hi)
    · split at h
      · cases h
        exact .table Members.inRange_nil
      · obtain ⟨⟨ms, r⟩, hm, he⟩ := Option.map_eq_some_iff.1 h
        cases he
        exact .table (inRange_of_readPairs hitem Members.inRange_nil hm)
    · exact inRange_of_readScalar h

/-! ## Documents -/

/-- No integer in a statement is too large. -/
def Statement.InRange : Statement → Prop
  | .setting _ _ value => value.InRange
  | .header _ _ => True
  | .nextHeader _ _ => True

theorem inRange_of_readStatement {said : Statement} (h : readStatement cs = some (said, rest)) :
    said.InRange := by
  unfold readStatement at h
  split at h
  · split at h
    · cases h
    · obtain ⟨r, -, he⟩ := Option.map_eq_some_iff.1 h
      cases he
      trivial
  · split at h
    · cases h
    · obtain ⟨r, -, he⟩ := Option.map_eq_some_iff.1 h
      cases he
      trivial
  · obtain ⟨⟨⟨key, path, v⟩, r⟩, hs, he⟩ := Option.map_eq_some_iff.1 h
    cases he
    exact inRange_of_readSetting (fun _ _ _ => inRange_of_readValue) hs

theorem inRange_of_readStatements {fuel : Nat} {said : List Statement}
    (h : readStatements fuel cs = some said) : ∀ s ∈ said, s.InRange := by
  induction fuel generalizing cs said with
  | zero => cases h
  | succ fuel ih =>
    rw [readStatements] at h
    split at h
    · cases h
      simp
    · split at h
      · obtain ⟨r, -, hr⟩ := Option.bind_eq_some_iff.1 h
        exact ih hr
      · split at h
        · cases h
        · next hs =>
          split at h
          · cases h
          · obtain ⟨below, hb, rfl⟩ := Option.map_eq_some_iff.1 h
            simpa using ⟨inRange_of_readStatement hs, ih hb⟩

theorem Draft.inRange_add {d d' : Draft} {said : Statement} (hd : d.members.InRange)
    (hs : said.InRange) (h : d.add said = some d') : d'.members.InRange := by
  cases said with
  | setting key path value =>
    obtain ⟨ms, hm, rfl⟩ := Option.map_eq_some_iff.1 h
    exact hd.within (fun _ _ h₁ h₂ => h₁.insert hs h₂) hm
  | header key path =>
    obtain ⟨ms, hm, rfl⟩ := Option.map_eq_some_iff.1 h
    exact hd.within (fun _ _ h₁ h₂ => h₁.openTable h₂) hm
  | nextHeader key path =>
    obtain ⟨ms, hm, rfl⟩ := Option.map_eq_some_iff.1 h
    exact hd.within (fun _ _ h₁ h₂ => h₁.openNext h₂) hm

theorem Draft.inRange_foldlM {d d' : Draft} {said : List Statement} (hd : d.members.InRange)
    (hs : ∀ s ∈ said, s.InRange) (h : said.foldlM Draft.add d = some d') : d'.members.InRange := by
  induction said generalizing d with
  | nil =>
    cases h
    exact hd
  | cons s said ih =>
    rw [List.foldlM_cons] at h
    obtain ⟨d₁, h₁, h₂⟩ := Option.bind_eq_some_iff.1 h
    exact ih (inRange_add hd (hs s (by simp)) h₁) (fun s hm => hs s (List.mem_cons_of_mem _ hm)) h₂

/-- No integer in a document is too large. -/
theorem inRange_of_read {s : String} {ms : Members} (h : read s = some ms) : ms.InRange := by
  unfold read at h
  simp only at h
  split at h
  · cases h
  · next hs =>
    obtain ⟨d, hd, rfl⟩ := Option.map_eq_some_iff.1 h
    exact Draft.inRange_foldlM Members.inRange_nil (inRange_of_readStatements hs) hd

end PagePrep.Toml
