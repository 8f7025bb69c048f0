import PagePrep.Proofs.Page.Tidied

/-!
# Lines with content

Reading, tidying and writing touch only blank lines and separators. The other lines stay, in order,
and with them the places where code blocks are open.
-/

set_option autoImplicit false

namespace PagePrep

open Text

/-- A line that is neither blank nor a separator. -/
def isContent (l : String) : Bool := !isBlank l && !Marker.separator.isOn l

theorem filter_tidy {α : Type} {blank keep : α → Bool} (h : ∀ a, blank a = true → keep a = false)
    (as : List α) : (tidy blank as).filter keep = as.filter keep := by
  induction as with
  | nil => rfl
  | cons a as ih =>
    cases hd : blank a && as.head?.all blank with
    | false => rw [tidy_cons_keep hd, List.filter_cons, List.filter_cons, ih]
    | true =>
      rw [Bool.and_eq_true] at hd
      rw [tidy_cons_drop hd.1 hd.2, ih, List.filter_cons, if_neg (by simp [h a hd.1])]

namespace Piece

theorem filter_isContent_allLines (ps : List Piece) :
    (allLines ps).filter isContent = (ps.map line).filter isContent := by
  have hs : isContent Marker.separator.sentinel = false := by decide
  have he : isContent "" = false := by decide
  induction ps with
  | nil => rfl
  | cons p ps ih => cases p <;> simp [lines, line, List.filter_cons, hs, he, ih]

/-- Reading drops nothing but separators and blank lines. -/
theorem filter_isContent_ofLines (before : Lookback) (inCode : Bool) (ls : List String) :
    ((ofLines before inCode ls).map line).filter isContent = ls.filter isContent := by
  induction before, inCode, ls using reading_induction with
  | nil => rfl
  | line before inCode l rest hl ih =>
    rw [ofLines_cons _ hl, List.map_cons, line_ofLine, List.filter_cons, List.filter_cons, ih]
  | separator before inCode l rest hl hr ih =>
    have hc : isContent l = false := by simp [isContent, hl]
    rw [ofLines_separator hl hr, ih, List.filter_cons, if_neg (by simp [hc])]
  | restated before l blank below hl hb hh ih =>
    have hc : isContent l = false := by simp [isContent, hl]
    have hc' : isContent blank = false := by simp [isContent, hb]
    rw [ofLines_restated hl (restates_cons hb hh), ih, List.filter_cons,
      if_neg (by simp [hc]), List.filter_cons, if_neg (by simp [hc'])]

/-- The lines written for tidied pieces have the content of the lines read. -/
theorem filter_isContent_allLines_tidied (before : Lookback) (inCode : Bool) (ls : List String) :
    (allLines (tidied before inCode ls)).filter isContent = ls.filter isContent := by
  have hp : ∀ p ∈ ofLines before inCode ls, p.Proper := (settled_ofLines inCode ls (.refl _)).proper
  calc (allLines (tidied before inCode ls)).filter isContent
    _ = ((tidied before inCode ls).map line).filter isContent := filter_isContent_allLines _
    _ = ((ofLines before inCode ls).map line).filter isContent := by
        rw [tidied, map_line_tidy hp]
        exact filter_tidy (fun l hl => by simp [isContent, hl]) _
    _ = ls.filter isContent := filter_isContent_ofLines _ _ _

end Piece

theorem codeAfter_filter_isContent (inCode : Bool) (ls : List String) :
    codeAfter inCode (ls.filter isContent) = codeAfter inCode ls := by
  induction ls generalizing inCode with
  | nil => rfl
  | cons l ls ih =>
    cases hc : isContent l with
    | true => rw [List.filter_cons_of_pos hc, codeAfter_cons, codeAfter_cons, ih]
    | false =>
      have hf : isFence l = false := by
        rw [isContent, Bool.and_eq_false_iff, Bool.not_eq_false', Bool.not_eq_false'] at hc
        rcases hc with hb | hs
        · exact not_isFence_of_isBlank hb
        · exact Marker.not_isFence_of_isOn hs
      rw [List.filter_cons_of_neg (by simp [hc]), ih, codeAfter_cons, hf, Bool.xor_false]

/-- Behind the lines written, a code block is open just where one is open behind the lines read. -/
theorem codeAfter_allLines_tidied (before : Lookback) (inCode : Bool) (ls : List String) :
    codeAfter inCode (Piece.allLines (Piece.tidied before inCode ls)) = codeAfter inCode ls := by
  rw [← codeAfter_filter_isContent, Piece.filter_isContent_allLines_tidied,
    codeAfter_filter_isContent]

end PagePrep
