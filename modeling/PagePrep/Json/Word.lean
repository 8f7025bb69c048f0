import PagePrep.Json.Cursor

/-!
# Words of a JSON text

The names `null`, `true` and `false`, read from their second letter on.
-/

set_option autoImplicit false

namespace PagePrep.Json

/-- Behind the letters, which must come next. -/
def readLetters : List Char → Cursor → Except Fault Cursor
  | [], c => .ok c
  | l :: ls, c =>
    match c with
    | ⟨[], n⟩ => .error ⟨.endInValue, n⟩
    | ⟨a :: as, n⟩ =>
      if a = l then readLetters ls ⟨as, n + a.utf8Size⟩ else .error ⟨.expectedWord, n + 1⟩

theorem size_readLetters_le {ls : List Char} {c c' : Cursor}
    (h : readLetters ls c = .ok c') : c'.size ≤ c.size := by
  induction ls generalizing c with
  | nil => simp only [readLetters, Except.ok.injEq] at h; simp [h]
  | cons l ls ih =>
    obtain ⟨rest, n⟩ := c
    cases rest with
    | nil => simp [readLetters] at h
    | cons a as =>
      unfold readLetters at h
      simp only at h
      split at h
      · exact Nat.le_succ_of_le (ih h)
      · cases h

end PagePrep.Json
