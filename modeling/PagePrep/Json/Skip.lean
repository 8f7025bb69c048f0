import PagePrep.Json.Reader

/-!
# Skipping JSON values

A value that nobody asks for is checked for its form only: numbers may be out of range, surrogates
unpaired, and containers may stand in each other to any depth.
-/

set_option autoImplicit false

namespace PagePrep.Json

/-- A container to skip. -/
inductive Bracket where
  | list
  | object
  deriving DecidableEq, Repr

/-- What a step of skipping leads to. -/
inductive SkipStep where
  /-- The outermost value is skipped. -/
  | done (c : Cursor)
  /-- A value is to come inside these containers. -/
  | next (brackets : List Bracket) (c : Cursor)
  deriving Repr

/-- The cursor of a step's outcome. -/
def SkipStep.cursor : SkipStep → Cursor
  | done c => c
  | next _ c => c

/-- Behind the key at the cursor and its colon. -/
def skipKey (c : Cursor) : Except Fault Cursor :=
  match skipString c.advance with
  | .error f => .error f
  | .ok c₁ => readColon c₁

/-- On behind a complete value inside the containers. -/
def skipOn : List Bracket → Cursor → Except Fault SkipStep
  | [], c => .ok (.done c)
  | .list :: bs, c =>
    let c₁ := c.skipGaps
    match c₁.rest with
    | [] => c₁.fault .endInList
    | ']' :: _ => skipOn bs c₁.advance
    | ',' :: _ => .ok (.next (.list :: bs) c₁.advance)
    | _ => c₁.faultAhead .expectedListEnd
  | .object :: bs, c =>
    let c₁ := c.skipGaps
    match c₁.rest with
    | [] => c₁.fault .endInObject
    | '}' :: _ => skipOn bs c₁.advance
    | ',' :: _ =>
      let c₂ := c₁.advance.skipGaps
      match c₂.rest with
      | [] => c₂.fault .endInObject
      | '"' :: _ => (skipKey c₂).map (.next (.object :: bs))
      | _ => c₂.faultAhead .keyNotString
    | _ => c₁.faultAhead .expectedObjectEnd

/-- Behind the value at the cursor if it is no container, otherwise nothing. -/
def skipScalar? (c : Cursor) : Option (Except Fault Cursor) :=
  match c.rest with
  | 'n' :: _ => some (readLetters ['u', 'l', 'l'] c.advance)
  | 't' :: _ => some (readLetters ['r', 'u', 'e'] c.advance)
  | 'f' :: _ => some (readLetters ['a', 'l', 's', 'e'] c.advance)
  | '"' :: _ => some (skipString c.advance)
  | '-' :: _ => some (skipNumber c.advance)
  | a :: _ => if isDigit a then some (skipNumber c) else none
  | [] => none

/-- One step: the value that comes next inside the containers. -/
def skipStep (bs : List Bracket) (c : Cursor) : Except Fault SkipStep :=
  let c₁ := c.skipGaps
  match skipScalar? c₁ with
  | some (.error f) => .error f
  | some (.ok c₂) => skipOn bs c₂
  | none =>
    match c₁.rest with
    | [] => c₁.fault .endInValue
    | '[' :: _ =>
      let c₂ := c₁.advance.skipGaps
      match c₂.rest with
      | [] => c₂.fault .endInList
      | ']' :: _ => skipOn bs c₂.advance
      | _ => .ok (.next (.list :: bs) c₂)
    | '{' :: _ =>
      let c₂ := c₁.advance.skipGaps
      match c₂.rest with
      | [] => c₂.fault .endInObject
      | '}' :: _ => skipOn bs c₂.advance
      | '"' :: _ => (skipKey c₂).map (.next (.object :: bs))
      | _ => c₂.faultAhead .keyNotString
    | _ => c₁.faultAhead .expectedValue

/-! ## Every step leaves less of the text -/

theorem size_skipKey_le {c c' : Cursor} (h : skipKey c = .ok c') : c'.size ≤ c.size := by
  unfold skipKey at h
  split at h
  · cases h
  · rename_i c₁ hx
    have h₁ := size_skipString_lt hx
    have h₂ := size_advance_le c
    have h₃ := size_readColon_le h
    omega

theorem size_skipKey_map_le {bs : List Bracket} {c : Cursor} {s : SkipStep}
    (h : (skipKey c).map (SkipStep.next bs) = .ok s) : s.cursor.size ≤ c.size := by
  cases hx : skipKey c with
  | error f => simp [hx, Except.map] at h
  | ok c₁ =>
    have := size_skipKey_le hx
    simp only [hx, Except.map, Except.ok.injEq] at h
    subst h
    exact this

theorem size_skipOn_le {bs : List Bracket} {c : Cursor} {s : SkipStep}
    (h : skipOn bs c = .ok s) : s.cursor.size ≤ c.size := by
  have h₁ := c.size_skipGaps_le
  have h₂ := size_advance_le c.skipGaps
  have h₃ := c.skipGaps.advance.size_skipGaps_le
  induction bs generalizing c with
  | nil =>
    simp only [skipOn, Except.ok.injEq] at h
    subst h
    exact Nat.le_refl _
  | cons b bs ih =>
    have close (h : skipOn bs c.skipGaps.advance = .ok s) : s.cursor.size ≤ c.size :=
      Nat.le_trans (ih h (Cursor.size_skipGaps_le _) (size_advance_le _)
        (Cursor.size_skipGaps_le _)) (Nat.le_trans h₂ h₁)
    cases b with
    | list =>
      simp only [skipOn] at h
      split at h
      · simp [Cursor.fault] at h
      · exact close h
      · simp only [Except.ok.injEq] at h
        subst h
        exact Nat.le_trans h₂ h₁
      · simp [Cursor.faultAhead] at h
    | object =>
      simp only [skipOn] at h
      split at h
      · simp [Cursor.fault] at h
      · exact close h
      · split at h
        · simp [Cursor.fault] at h
        · have := size_skipKey_map_le h
          omega
        · simp [Cursor.faultAhead] at h
      · simp [Cursor.faultAhead] at h

theorem size_skipScalar_lt {c c' : Cursor} (h : skipScalar? c = some (.ok c')) :
    c'.size < c.size := by
  unfold skipScalar? at h
  split at h
  · rename_i heq
    exact Nat.lt_of_le_of_lt (size_readLetters_le (Option.some.inj h))
      (Cursor.size_advance_lt heq)
  · rename_i heq
    exact Nat.lt_of_le_of_lt (size_readLetters_le (Option.some.inj h))
      (Cursor.size_advance_lt heq)
  · rename_i heq
    exact Nat.lt_of_le_of_lt (size_readLetters_le (Option.some.inj h))
      (Cursor.size_advance_lt heq)
  · rename_i heq
    exact Nat.lt_trans (size_skipString_lt (Option.some.inj h)) (Cursor.size_advance_lt heq)
  · rename_i heq
    exact Nat.lt_trans (size_skipNumber_lt (Option.some.inj h)) (Cursor.size_advance_lt heq)
  · split at h
    · exact size_skipNumber_lt (Option.some.inj h)
    · cases h
  · cases h

theorem size_skipStep_lt {bs : List Bracket} {c : Cursor} {s : SkipStep}
    (h : skipStep bs c = .ok s) : s.cursor.size < c.size := by
  have h₁ := c.size_skipGaps_le
  simp only [skipStep] at h
  split at h
  · cases h
  · rename_i hx
    have := size_skipScalar_lt hx
    have := size_skipOn_le h
    omega
  · split at h
    · simp [Cursor.fault] at h
    · rename_i heq
      have h₂ := Cursor.size_advance_lt heq
      have h₃ := c.skipGaps.advance.size_skipGaps_le
      have h₄ := size_advance_le c.skipGaps.advance.skipGaps
      split at h
      · simp [Cursor.fault] at h
      · have := size_skipOn_le h
        omega
      · simp only [Except.ok.injEq] at h
        subst h
        simp only [SkipStep.cursor]
        omega
    · rename_i heq
      have h₂ := Cursor.size_advance_lt heq
      have h₃ := c.skipGaps.advance.size_skipGaps_le
      have h₄ := size_advance_le c.skipGaps.advance.skipGaps
      split at h
      · simp [Cursor.fault] at h
      · have := size_skipOn_le h
        omega
      · have := size_skipKey_map_le h
        omega
      · simp [Cursor.faultAhead] at h
    · simp [Cursor.faultAhead] at h

/-! ## Whole values -/

/-- Behind the outermost of the containers. -/
def skipWithin (bs : List Bracket) (c : Cursor) : Except Fault Cursor :=
  match _h : skipStep bs c with
  | .error f => .error f
  | .ok (.done c') => .ok c'
  | .ok (.next bs' c') => skipWithin bs' c'
  termination_by c.size
  decreasing_by exact size_skipStep_lt _h

/-- Behind the value that comes next. -/
def skipValue (c : Cursor) : Except Fault Cursor := skipWithin [] c

theorem size_skipWithin_lt {bs : List Bracket} {c c' : Cursor}
    (h : skipWithin bs c = .ok c') : c'.size < c.size := by
  fun_induction skipWithin bs c with
  | case1 => cases h
  | case2 bs c c₁ hs =>
    simp only [Except.ok.injEq] at h
    subst h
    exact size_skipStep_lt hs
  | case3 bs c bs₁ c₁ hs ih => exact Nat.lt_trans (ih h) (size_skipStep_lt hs)

end PagePrep.Json
