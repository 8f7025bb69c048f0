import PagePrep.Proofs.Page.SecondRun
import Mathlib.Logic.Function.Iterate

/-!
# Marking as a function on texts

Marking leaves a text alone that asks for it, and does not look at the name of the page. A marked text
loses nothing but carriage returns when it is marked again, and gets shorter with each that it loses.
So a text that comes back after some runs is one that marking does not alter
(`iterate_markedText_eq_self_iff`).
-/

set_option autoImplicit false

namespace PagePrep

open Text

/-- A page's text with its contexts marked, or as it is if the page asks to be left alone. -/
def markedText (file text : String) : String :=
  match segment file text with
  | .skipped => text
  | .rewritten d => d.text

theorem markedText_of_isExcluded {file text : String} (h : isExcluded text = true) :
    markedText file text = text := by
  rw [markedText, segment, if_pos h]

theorem markedText_of_not_isExcluded {file text : String} (h : isExcluded text = false) :
    markedText file text =
      unlines (Piece.allLines (Piece.tidied .start false (lines text))) := by
  have hs : segment file text = .rewritten (Document.ofPieces file (Piece.ofText text)) :=
    segment_eq_rewritten_iff.2 ⟨h, rfl⟩
  rw [markedText, hs]
  exact text_of_segment hs

variable {file text : String} {d : Document}

theorem markedText_of_segment (h : segment file text = .rewritten d) :
    markedText file text = d.text := by
  rw [markedText, h]

theorem markedText_congr (file file' text : String) :
    markedText file text = markedText file' text := by
  cases hx : isExcluded text with
  | true => rw [markedText_of_isExcluded hx, markedText_of_isExcluded hx]
  | false => rw [markedText_of_not_isExcluded hx, markedText_of_not_isExcluded hx]

theorem exists_segment (file : String) (hx : isExcluded text = false) :
    ∃ d, segment file text = .rewritten d :=
  ⟨_, segment_eq_rewritten_iff.2 ⟨hx, rfl⟩⟩

theorem isExcluded_markedText (file text : String) :
    isExcluded (markedText file text) = isExcluded text := by
  cases hx : isExcluded text with
  | true => rw [markedText_of_isExcluded hx, hx]
  | false =>
    obtain ⟨d, h⟩ := exists_segment file hx
    rw [markedText_of_segment h, isExcluded_text h]

/-! ## Marking a marked text -/

/-- A text marked twice has the lines of the text marked once, without the carriage returns at their
ends. -/
theorem markedText_markedText_eq_unlines (hx : isExcluded text = false) :
    markedText file (markedText file text) =
      unlines ((Piece.allLines (tidy Piece.isBlank (Piece.ofText text))).map chomp) := by
  have hx' : isExcluded (markedText file text) = false := by rw [isExcluded_markedText, hx]
  have ht : markedText file text = unlines (Piece.allLines (tidy Piece.isBlank (Piece.ofText text))) :=
    markedText_of_not_isExcluded hx
  calc markedText file (markedText file text)
    _ = unlines (Piece.allLines (tidy Piece.isBlank (Piece.ofText (markedText file text)))) :=
        markedText_of_not_isExcluded hx'
    _ = _ := by rw [ht, Piece.ofText_unlines, Piece.tidy_map_chomp_tidy, Piece.allLines_map_chomp]

theorem markedText_markedText (hx : isExcluded text = false) :
    markedText file (markedText file text) = replaceAll (markedText file text) "\r\n" "\n" := by
  rw [markedText_markedText_eq_unlines hx, markedText_of_not_isExcluded hx]
  exact (replaceAll_unlines fun l hl => Piece.newline_not_mem_allLines hl).symm

/-- A marked text that is not kept gets shorter. -/
theorem markedText_markedText_eq_or_length_lt (file text : String) :
    markedText file (markedText file text) = markedText file text ∨
      (markedText file (markedText file text)).toList.length <
        (markedText file text).toList.length := by
  cases hx : isExcluded text with
  | true =>
    left
    rw [markedText_of_isExcluded hx, markedText_of_isExcluded hx]
  | false =>
    rw [markedText_markedText hx]
    cases hc : contains (markedText file text) "\r\n" with
    | true => exact .inr (length_replaceAll_lt (by decide) hc)
    | false => exact .inl ((replaceAll_eq_self_iff (by decide)).2 hc)

theorem markedText_markedText_eq_iff (hx : isExcluded text = false) :
    markedText file (markedText file text) = markedText file text ↔
      contains (markedText file text) "\r\n" = false := by
  rw [markedText_markedText hx, replaceAll_eq_self_iff (by decide)]

/-! ## Many runs -/

theorem isExcluded_iterate_markedText (file text : String) (n : Nat) :
    isExcluded ((markedText file)^[n] text) = isExcluded text := by
  induction n with
  | zero => rfl
  | succ n ih => rw [Function.iterate_succ_apply', isExcluded_markedText, ih]

theorem length_iterate_markedText_le (file text : String) (n : Nat) :
    ((markedText file)^[n] (markedText file text)).toList.length ≤
      (markedText file text).toList.length := by
  induction n generalizing text with
  | zero => exact Nat.le_refl _
  | succ n ih =>
    rw [Function.iterate_succ_apply]
    refine Nat.le_trans (ih (markedText file text)) ?_
    rcases markedText_markedText_eq_or_length_lt file text with he | hl
    · exact Nat.le_of_eq (by rw [he])
    · exact Nat.le_of_lt hl

/-- A text that comes back after some runs is one that no run alters. -/
theorem iterate_markedText_eq_self_iff {n : Nat} :
    (markedText file)^[n + 1] text = text ↔ markedText file text = text := by
  constructor
  · intro h
    have hy : markedText file ((markedText file)^[n] text) = text := by
      rw [← Function.iterate_succ_apply' (markedText file), h]
    rcases markedText_markedText_eq_or_length_lt file ((markedText file)^[n] text) with he | hl
    · rwa [hy] at he
    · have hle := length_iterate_markedText_le file text n
      rw [← Function.iterate_succ_apply (markedText file), h] at hle
      rw [hy] at hl
      exact absurd hl (Nat.not_lt.2 hle)
  · intro h
    exact Function.iterate_fixed h _

end PagePrep
