import PagePrep.Json.Record

/-!
# Items and members in turn

The inside of a list is read item by item and the inside of an object member by member, each from
where the one before ended, up to the closing bracket.
-/

set_option autoImplicit false

namespace PagePrep.Json

/-- The items up to the closing bracket, each read by `item`; `held` has the earlier ones in
reverse. -/
def readItems {α : Type} (item : Cursor → Reading α)
    (shrinks : ∀ c v c', item c = .ok (v, c') → c'.size < c.size)
    (held : List α) (c : Cursor) : Reading (List α) :=
  match _h : nextItem held.isEmpty c with
  | .error f => .error f
  | .ok (false, c₁) => .ok (held.reverse, c₁)
  | .ok (true, c₁) =>
    match _hi : item c₁ with
    | .error f => .error f
    | .ok (v, c₂) => readItems item shrinks (v :: held) c₂
  termination_by c.size
  decreasing_by
    exact Nat.lt_of_lt_of_le (shrinks _ _ _ _hi) (size_nextItem_le _h)

/-- What `take` makes of the members up to the closing bracket; it gets the state so far, the name
and the cursor behind the name. -/
def readMembers {σ : Type} (take : σ → String → Cursor → Inside σ)
    (shrinks : ∀ s name c s' c', take s name c = .ok (s', c') → c'.size ≤ c.size)
    (first : Bool) (s : σ) (c : Cursor) : Inside σ :=
  match _h : nextName first c with
  | .error f => .error (.placed f)
  | .ok (none, c₁) => .ok (s, c₁)
  | .ok (some name, c₁) =>
    match _ht : take s name c₁ with
    | .error e => .error e
    | .ok (s', c₂) => readMembers take shrinks false s' c₂
  termination_by c.size
  decreasing_by
    exact Nat.lt_of_le_of_lt (shrinks _ _ _ _ _ _ht) (size_nextName_lt _h)

/-- The list that comes next, with items read by `item`. -/
def readList {α : Type} (item : Cursor → Reading α)
    (shrinks : ∀ c v c', item c = .ok (v, c') → c'.size < c.size)
    (c : Cursor) : Reading (List α) :=
  let c₁ := c.skipGaps
  match c₁.rest with
  | [] => c₁.fault .endInValue
  | '[' :: _ =>
    match readItems item shrinks [] c₁.advance with
    | .error f => .error f
    | .ok (vs, c₂) => (endList c₂).map fun c₃ => (vs, c₃)
  | _ => .error (typeFault "a sequence" c₁)

/-- The value behind the colon that comes next. -/
def readMember {α : Type} (value : Cursor → Inside α) (c : Cursor) : Inside α :=
  match readColon c with
  | .error f => .error (.placed f)
  | .ok c₁ => value c₁

/-- Behind a member that nobody asks for. -/
def skipMember (c : Cursor) : Except Stop Cursor :=
  match readColon c with
  | .error f => .error (.placed f)
  | .ok c₁ => placed (skipValue c₁)

/-! ## What is left -/

theorem size_readItems_le {α : Type} {item : Cursor → Reading α}
    {shrinks : ∀ c v c', item c = .ok (v, c') → c'.size < c.size}
    {held vs : List α} {c c' : Cursor}
    (h : readItems item shrinks held c = .ok (vs, c')) : c'.size ≤ c.size := by
  fun_induction readItems item shrinks held c with
  | case1 => cases h
  | case2 held c c₁ hn =>
    simp only [Except.ok.injEq, Prod.mk.injEq] at h
    obtain ⟨-, rfl⟩ := h
    exact size_nextItem_le hn
  | case3 => cases h
  | case4 held c c₁ hn v c₂ hi ih =>
    exact Nat.le_trans (ih h)
      (Nat.le_of_lt (Nat.lt_of_lt_of_le (shrinks _ _ _ hi) (size_nextItem_le hn)))

theorem size_nextName_none_le {first : Bool} {c c' : Cursor}
    (h : nextName first c = .ok (none, c')) : c'.size ≤ c.size := by
  have h₁ := c.size_skipGaps_le
  have hs : ∀ c₁, ((readString [] c₁).map fun r => (some r.1, r.2)) ≠ .ok (none, c') := by
    intro c₁ hx
    cases hr : readString [] c₁ <;> simp [hr, Except.map] at hx
  simp only [nextName] at h
  split at h
  · simp [Cursor.fault] at h
  · simp only [Except.ok.injEq, Prod.mk.injEq, true_and] at h
    subst h
    exact h₁
  · split at h
    · split at h
      · exact absurd h (hs _)
      · simp [Cursor.faultAhead] at h
    · split at h
      · split at h
        · simp [Cursor.fault] at h
        · exact absurd h (hs _)
        · simp [Cursor.faultAhead] at h
        · simp [Cursor.faultAhead] at h
      · simp [Cursor.faultAhead] at h

theorem size_readMembers_le {σ : Type} {take : σ → String → Cursor → Inside σ}
    {shrinks : ∀ s name c s' c', take s name c = .ok (s', c') → c'.size ≤ c.size}
    {first : Bool} {s s' : σ} {c c' : Cursor}
    (h : readMembers take shrinks first s c = .ok (s', c')) : c'.size ≤ c.size := by
  fun_induction readMembers take shrinks first s c with
  | case1 => cases h
  | case2 first s c c₁ hn =>
    simp only [Except.ok.injEq, Prod.mk.injEq] at h
    obtain ⟨-, rfl⟩ := h
    exact size_nextName_none_le hn
  | case3 => cases h
  | case4 first s c name c₁ hn s₁ c₂ ht ih =>
    exact Nat.le_trans (ih h)
      (Nat.le_of_lt (Nat.lt_of_le_of_lt (shrinks _ _ _ _ _ ht) (size_nextName_lt hn)))

theorem size_readList_lt {α : Type} {item : Cursor → Reading α}
    {shrinks : ∀ c v c', item c = .ok (v, c') → c'.size < c.size}
    {vs : List α} {c c' : Cursor}
    (h : readList item shrinks c = .ok (vs, c')) : c'.size < c.size := by
  have h₁ := c.size_skipGaps_le
  simp only [readList] at h
  split at h
  · simp [Cursor.fault] at h
  · rename_i heq
    have h₂ := Cursor.size_advance_lt heq
    split at h
    · cases h
    · rename_i c₂ hi
      have h₃ := size_readItems_le hi
      cases he : endList c₂ with
      | error f => simp [he, Except.map] at h
      | ok c₃ =>
        have h₄ := size_endList_le he
        simp only [he, Except.map, Except.ok.injEq, Prod.mk.injEq] at h
        obtain ⟨-, rfl⟩ := h
        omega
  · cases h

theorem size_readMember_le {α : Type} {value : Cursor → Inside α} {v : α} {c c' : Cursor}
    (hv : ∀ c₁ v c₂, value c₁ = .ok (v, c₂) → c₂.size ≤ c₁.size)
    (h : readMember value c = .ok (v, c')) : c'.size ≤ c.size := by
  unfold readMember at h
  split at h
  · cases h
  · rename_i hc
    exact Nat.le_trans (hv _ _ _ h) (size_readColon_le hc)

theorem size_skipMember_le {c c' : Cursor} (h : skipMember c = .ok c') : c'.size ≤ c.size := by
  unfold skipMember at h
  split at h
  · cases h
  · rename_i c₁ hc
    cases hs : skipValue c₁ with
    | error f => simp [hs, placed] at h
    | ok c₂ =>
      simp only [hs, placed, Except.ok.injEq] at h
      subst h
      exact Nat.le_trans (Nat.le_of_lt (size_skipWithin_lt hs)) (size_readColon_le hc)

theorem size_map_le {α β : Type} {r : Inside α} {k : α × Cursor → β} {c c' : Cursor}
    {v : β} (hr : ∀ a c₁, r = .ok (a, c₁) → c₁.size ≤ c.size)
    (h : (r.map fun p => (k p, p.2)) = .ok (v, c')) : c'.size ≤ c.size := by
  cases r with
  | error f => cases h
  | ok p =>
    simp only [Except.map, Except.ok.injEq, Prod.mk.injEq] at h
    obtain ⟨-, rfl⟩ := h
    exact hr _ _ rfl

theorem size_skipMember_map_le {β : Type} {c c' : Cursor} {s s' : β}
    (h : ((skipMember c).map fun c₁ => (s, c₁)) = .ok (s', c')) : c'.size ≤ c.size := by
  cases hr : skipMember c with
  | error f => simp [hr, Except.map] at h
  | ok c₁ =>
    simp only [hr, Except.map, Except.ok.injEq, Prod.mk.injEq] at h
    obtain ⟨-, rfl⟩ := h
    exact size_skipMember_le hr

end PagePrep.Json
