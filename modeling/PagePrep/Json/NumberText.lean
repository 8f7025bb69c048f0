import PagePrep.Json.Cursor

/-!
# Numbers as they are written

Reading computes the value and refuses one that is out of range. Skipping checks the form alone.
Both start behind the minus sign.
-/

set_option autoImplicit false

namespace PagePrep.Json

def isDigit (c : Char) : Bool := '0' ≤ c && c ≤ '9'

def digitValue (c : Char) : Nat := c.toNat - '0'.toNat

/-- The digits that come next, and the cursor behind them. -/
def takeDigits (c : Cursor) : List Char × Cursor :=
  let ds := c.rest.takeWhile isDigit
  (ds, ⟨c.rest.dropWhile isDigit, c.offset + ds.length⟩)

/-- The digits written behind `n` while the value stays within `limit`, and how many are left. -/
def absorb (limit n : Nat) : List Char → Nat × Nat
  | [] => (n, 0)
  | d :: ds =>
    if n * 10 + digitValue d ≤ limit then absorb limit (n * 10 + digitValue d) ds
    else (n, ds.length + 1)

/-- The value of `significand * 10 ^ e` with its sign, for a number that ends at the cursor. -/
def scaledNumber (negative : Bool) (significand : Nat) (e : Int) (c : Cursor) : Reading Number :=
  match Number.scaled? significand e with
  | some x => .ok (.floating negative x, c)
  | none => c.fault .numberOutOfRange

/-- The largest exponent that is written out in full. -/
def largestExponent : Nat := 0x7fffffff

/-- Whether the sign of an exponent is a minus, and the cursor behind the sign. -/
def takeSign (c : Cursor) : Bool × Cursor :=
  match c.rest with
  | '+' :: _ => (false, c.advance)
  | '-' :: _ => (true, c.advance)
  | _ => (false, c)

/-- The number `significand * 10 ^ e` times the power of ten whose exponent comes next. -/
def readExponent (negative : Bool) (significand : Nat) (e : Int) (c : Cursor) : Reading Number :=
  let (down, c₁) := takeSign c
  let (ds, c₂) := takeDigits c₁
  if ds.isEmpty then
    match c₁.rest with
    | [] => c₁.fault .endInValue
    | _ => .error ⟨.invalidNumber, c₁.offset + 1⟩
  else
    let (n, left) := absorb largestExponent 0 ds
    if left = 0 then
      scaledNumber negative significand (if down then e - n else e + n) c₂
    else if significand ≠ 0 ∧ !down then
      .error ⟨.numberOutOfRange, c₁.offset + (ds.length - left) + 1⟩
    else .ok (.floating negative Decimal.Binary64.zero, c₂)

/-- The number whose digits before the point are `significand * 10 ^ e`, behind the point. -/
def readFraction (negative : Bool) (significand e : Nat) (c : Cursor) : Reading Number :=
  let (ds, c₁) := takeDigits c
  if ds.isEmpty then
    c.faultAhead (if c.rest.isEmpty then .endInValue else .invalidNumber)
  else
    let (n, left) := absorb Number.largest significand ds
    let scale : Int := (e : Int) - (ds.length - left : Nat)
    match c₁.rest with
    | 'e' :: _ => readExponent negative n scale c₁.advance
    | 'E' :: _ => readExponent negative n scale c₁.advance
    | _ => scaledNumber negative n scale c₁

/-- The number whose digits before the point are `significand * 10 ^ e`, behind these. -/
def readTail (negative : Bool) (significand e : Nat) (c : Cursor) : Reading Number :=
  match c.rest with
  | '.' :: _ => readFraction negative significand e c.advance
  | 'e' :: _ => readExponent negative significand e c.advance
  | 'E' :: _ => readExponent negative significand e c.advance
  | _ =>
    if e = 0 then .ok (.ofInteger negative significand, c)
    else scaledNumber negative significand e c

/-- The number that comes next. -/
def readNumber (negative : Bool) (c : Cursor) : Reading Number :=
  let (ds, c₁) := takeDigits c
  match ds with
  | [] =>
    match c.rest with
    | [] => c.fault .endInValue
    | _ => .error ⟨.invalidNumber, c.offset + 1⟩
  | d :: _ =>
    if d = '0' then
      if ds.length = 1 then readTail negative 0 0 c₁
      else .error ⟨.invalidNumber, c.offset + 2⟩
    else
      let (n, left) := absorb Number.largest 0 ds
      readTail negative n left c₁

/-- Behind the exponent that comes next. -/
def skipExponent (c : Cursor) : Except Fault Cursor :=
  let c₁ := (takeSign c).2
  let (ds, c₂) := takeDigits c₁
  if ds.isEmpty then c₁.faultAhead .invalidNumber else .ok c₂

/-- Behind the exponent that comes next, if there is one. -/
def skipScale (c : Cursor) : Except Fault Cursor :=
  match c.rest with
  | 'e' :: _ => skipExponent c.advance
  | 'E' :: _ => skipExponent c.advance
  | _ => .ok c

/-- Behind the number that comes next. -/
def skipNumber (c : Cursor) : Except Fault Cursor :=
  let (ds, c₁) := takeDigits c
  match ds with
  | [] => c.faultAhead .invalidNumber
  | d :: _ =>
    if d = '0' ∧ ds.length ≠ 1 then .error ⟨.invalidNumber, c.offset + 2⟩
    else
      match c₁.rest with
      | '.' :: _ =>
        let (fs, c₂) := takeDigits c₁.advance
        if fs.isEmpty then c₁.advance.faultAhead .invalidNumber else skipScale c₂
      | _ => skipScale c₁

theorem size_takeDigits_le (c : Cursor) : (takeDigits c).2.size ≤ c.size := by
  simp only [takeDigits, Cursor.size]
  exact (List.dropWhile_suffix _).length_le

theorem size_advance_le (c : Cursor) : c.advance.size ≤ c.size := by
  obtain ⟨rest, n⟩ := c
  cases rest <;> simp [Cursor.advance, Cursor.size]

theorem size_takeSign_le (c : Cursor) : (takeSign c).2.size ≤ c.size := by
  unfold takeSign
  split
  · exact size_advance_le c
  · exact size_advance_le c
  · exact Nat.le_refl _

theorem size_takeDigits_lt {c : Cursor} (h : (takeDigits c).1 ≠ []) :
    (takeDigits c).2.size < c.size := by
  obtain ⟨rest, n⟩ := c
  cases rest with
  | nil => simp [takeDigits] at h
  | cons a as =>
    by_cases ha : isDigit a = true
    · have := (List.dropWhile_suffix (l := as) isDigit).length_le
      simp only [takeDigits, Cursor.size, List.dropWhile_cons, ha, if_true, List.length_cons]
      omega
    · simp [takeDigits, ha] at h

theorem size_scaledNumber_le {negative : Bool} {n : Nat} {e : Int} {c c' : Cursor} {x : Number}
    (h : scaledNumber negative n e c = .ok (x, c')) : c'.size ≤ c.size := by
  unfold scaledNumber at h
  split at h
  · simp only [Except.ok.injEq, Prod.mk.injEq] at h
    simp [h]
  · simp [Cursor.fault] at h

theorem size_readExponent_le {negative : Bool} {n : Nat} {e : Int} {c c' : Cursor} {x : Number}
    (h : readExponent negative n e c = .ok (x, c')) : c'.size ≤ c.size := by
  have h₁ := size_takeSign_le c
  have h₂ := size_takeDigits_le (takeSign c).2
  simp only [readExponent] at h
  split at h
  · split at h
    · simp [Cursor.fault] at h
    · cases h
  · split at h
    · have := size_scaledNumber_le h
      omega
    · split at h
      · cases h
      · simp only [Except.ok.injEq, Prod.mk.injEq] at h
        obtain ⟨-, rfl⟩ := h
        omega

theorem size_readFraction_le {negative : Bool} {n e : Nat} {c c' : Cursor} {x : Number}
    (h : readFraction negative n e c = .ok (x, c')) : c'.size ≤ c.size := by
  have h₁ := size_takeDigits_le c
  have h₂ := size_advance_le (takeDigits c).2
  simp only [readFraction] at h
  split at h
  · simp [Cursor.faultAhead] at h
  · split at h
    · have := size_readExponent_le h
      omega
    · have := size_readExponent_le h
      omega
    · have := size_scaledNumber_le h
      omega

theorem size_readTail_le {negative : Bool} {n e : Nat} {c c' : Cursor} {x : Number}
    (h : readTail negative n e c = .ok (x, c')) : c'.size ≤ c.size := by
  have h₂ := size_advance_le c
  unfold readTail at h
  split at h
  · exact Nat.le_trans (size_readFraction_le h) h₂
  · exact Nat.le_trans (size_readExponent_le h) h₂
  · exact Nat.le_trans (size_readExponent_le h) h₂
  · split at h
    · simp only [Except.ok.injEq, Prod.mk.injEq] at h
      simp [h]
    · exact size_scaledNumber_le h

theorem size_readNumber_lt {negative : Bool} {c c' : Cursor} {x : Number}
    (h : readNumber negative c = .ok (x, c')) : c'.size < c.size := by
  simp only [readNumber] at h
  split at h
  · split at h
    · simp [Cursor.fault] at h
    · cases h
  · rename_i d ds heq
    have hlt : (takeDigits c).2.size < c.size := size_takeDigits_lt (by simp [heq])
    split at h
    · split at h
      · exact Nat.lt_of_le_of_lt (size_readTail_le h) hlt
      · cases h
    · exact Nat.lt_of_le_of_lt (size_readTail_le h) hlt

theorem size_skipExponent_le {c c' : Cursor} (h : skipExponent c = .ok c') :
    c'.size ≤ c.size := by
  have h₁ := size_takeSign_le c
  have h₂ := size_takeDigits_le (takeSign c).2
  simp only [skipExponent] at h
  split at h
  · simp [Cursor.faultAhead] at h
  · simp only [Except.ok.injEq] at h
    subst h
    omega

theorem size_skipScale_le {c c' : Cursor} (h : skipScale c = .ok c') : c'.size ≤ c.size := by
  have h₂ := size_advance_le c
  unfold skipScale at h
  split at h
  · exact Nat.le_trans (size_skipExponent_le h) h₂
  · exact Nat.le_trans (size_skipExponent_le h) h₂
  · simp only [Except.ok.injEq] at h
    simp [h]

theorem size_skipNumber_lt {c c' : Cursor} (h : skipNumber c = .ok c') : c'.size < c.size := by
  simp only [skipNumber] at h
  split at h
  · simp [Cursor.faultAhead] at h
  · rename_i d ds heq
    have hlt : (takeDigits c).2.size < c.size := size_takeDigits_lt (by simp [heq])
    split at h
    · cases h
    · split at h
      · split at h
        · simp [Cursor.faultAhead] at h
        · have h₁ := size_skipScale_le h
          have h₂ := size_takeDigits_le (takeDigits c).2.advance
          have h₃ := size_advance_le (takeDigits c).2
          omega
      · exact Nat.lt_of_le_of_lt (size_skipScale_le h) hlt

end PagePrep.Json
