import PagePrep.Page.Segmentation
import PagePrep.Proofs.Page.BlankRun
import PagePrep.Proofs.Page.LineKind

/-!
# Reading lines into pieces

A line that is no separator becomes one piece, whatever follows it. A separator becomes none, and
takes the blank line below it along where it stands outside of code above a blank line and a header.
Induction on reading has these cases (`Piece.reading_induction`). Where the lines stop being read
and are taken up again does not matter behind a line that is neither blank nor a separator
(`Piece.ofLines_cut`).
-/

set_option autoImplicit false

namespace PagePrep

open Text

/-! ## Lookback -/

namespace Lookback

/-- Some lines further on. -/
def pushAll (b : Lookback) (ls : List String) : Lookback := ls.foldl push b

@[simp] theorem pushAll_nil (b : Lookback) : b.pushAll [] = b := rfl

@[simp] theorem pushAll_cons (b : Lookback) (l : String) (ls : List String) :
    b.pushAll (l :: ls) = (b.push l).pushAll ls := rfl

theorem pushAll_append (b : Lookback) (ls ks : List String) :
    b.pushAll (ls ++ ks) = (b.pushAll ls).pushAll ks :=
  List.foldl_append

end Lookback

/-- A line that keeps a header below it from opening a context. -/
def shields (line : String) : Bool :=
  Marker.abstract.isOn line || Marker.excludeContext.isOn line

theorem Lookback.suppresses_eq (b : Lookback) :
    b.suppresses = (b.one.any shields || b.two.any shields) := by
  obtain ⟨one, two⟩ := b
  cases one <;> cases two <;>
    simp [suppresses, carries, shields, Bool.or_assoc, Bool.or_left_comm]

theorem not_shields_of_isOn_separator {line : String} (h : Marker.separator.isOn line = true) :
    shields line = false := by
  rw [Bool.eq_false_iff]
  intro hs
  rcases Bool.or_eq_true_iff.1 hs with ha | ha
  · exact absurd (Marker.eq_of_isOn h ha) (by decide)
  · exact absurd (Marker.eq_of_isOn h ha) (by decide)

theorem not_shields_of_isBlank {line : String} (h : isBlank line = true) :
    shields line = false := by
  simp [shields, Marker.not_isOn_of_isBlank h]

theorem not_shields_of_isHeader {line : String} (h : isHeader line = true) :
    shields line = false := by
  simp [shields, Marker.not_isOn_of_isHeader h]

theorem shields_chomp (line : String) : shields (chomp line) = shields line := by
  simp [shields, Marker.isOn_chomp]

/-! ## Code blocks -/

/-- Whether a code block is open behind some lines. -/
def codeAfter (inCode : Bool) (ls : List String) : Bool := ls.foldl (fun c l => c ^^ isFence l) inCode

@[simp] theorem codeAfter_nil (inCode : Bool) : codeAfter inCode [] = inCode := rfl

@[simp] theorem codeAfter_cons (inCode : Bool) (l : String) (ls : List String) :
    codeAfter inCode (l :: ls) = codeAfter (inCode ^^ isFence l) ls := rfl

theorem codeAfter_append (inCode : Bool) (ls ks : List String) :
    codeAfter inCode (ls ++ ks) = codeAfter (codeAfter inCode ls) ks :=
  List.foldl_append

/-- A code block is open behind an odd number of fences. -/
theorem codeAfter_eq (inCode : Bool) (ls : List String) :
    codeAfter inCode ls = (inCode ^^ decide (ls.countP isFence % 2 = 1)) := by
  induction ls generalizing inCode with
  | nil => simp
  | cons l ls ih =>
    rw [codeAfter_cons, ih]
    cases hl : isFence l with
    | false => simp [hl]
    | true =>
      rw [List.countP_cons_of_pos hl]
      rcases Nat.mod_two_eq_zero_or_one (ls.countP isFence) with hm | hm
      · have hs : (ls.countP isFence + 1) % 2 = 1 := by omega
        simp [hm, hs]
      · have hs : (ls.countP isFence + 1) % 2 = 0 := by omega
        simp [hm, hs]

namespace Piece

/-! ## One line -/

/-- The piece made of a line that is no separator. -/
def ofLine (before : Lookback) (inCode : Bool) (line : String) : Piece :=
  if shields line then mark line
  else if isHeader line && !(inCode || before.suppresses) then opening line
  else body line

/-- The piece made of a line of some kind that is no separator. -/
def ofKind (before : Lookback) (inCode : Bool) (line : String) : LineKind → Piece
  | .marker .abstract => mark line
  | .marker .excludeContext => mark line
  | .header => if inCode || before.suppresses then body line else opening line
  | _ => body line

/-- Whether a separator above these lines takes the first of them along. -/
def restates (inCode : Bool) : List String → Bool
  | [] => false
  | blank :: below => !inCode && isBlank blank && startsWithHeader below

theorem restates_cons {blank : String} {below : List String} (hb : Text.isBlank blank = true)
    (hh : startsWithHeader below = true) : restates false (blank :: below) = true := by
  simp [restates, hb, hh]

section Equations

variable {before : Lookback} {inCode : Bool} {line : String}

/-- What a line of each kind but the separator becomes. -/
theorem ofLines_of_kind {kind : LineKind} (rest : List String) (hk : LineKind.ofLine line = kind)
    (h : kind ≠ .marker .separator) :
    ofLines before inCode (line :: rest) =
      ofKind before inCode line kind ::
        ofLines (before.push line) (inCode ^^ decide (kind = .fence)) rest := by
  conv_lhs => unfold ofLines
  rw [hk]
  cases kind with
  | marker m =>
    cases m with
    | separator => exact absurd rfl h
    | _ => simp [ofKind]
  | _ => simp [ofKind]

/-- A line that is no separator becomes one piece. -/
theorem ofLines_cons (rest : List String) (h : Marker.separator.isOn line = false) :
    ofLines before inCode (line :: rest) =
      ofLine before inCode line :: ofLines (before.push line) (inCode ^^ isFence line) rest := by
  cases hm : Marker.ofLine? line with
  | some m =>
    have ho : m.isOn line = true := Marker.ofLine?_eq_some_iff.1 hm
    have hk : LineKind.ofLine line = .marker m := LineKind.ofLine_eq_marker_iff.2 ho
    have hf : isFence line = false := Marker.not_isFence_of_isOn ho
    have hh : isHeader line = false := Marker.not_isHeader_of_isOn ho
    cases m with
    | separator => rw [ho] at h; cases h
    | abstract => simp [ofLines_of_kind rest hk, ofKind, ofLine, hf, shields, ho]
    | excludeContext => simp [ofLines_of_kind rest hk, ofKind, ofLine, hf, shields, ho]
    | excludeFile =>
      have hs : shields line = false := by
        rw [Bool.eq_false_iff]
        intro hs
        rcases Bool.or_eq_true_iff.1 hs with ha | ha <;> cases Marker.eq_of_isOn ho ha
      simp [ofLines_of_kind rest hk, ofKind, ofLine, hf, hs, hh]
  | none =>
    have hn : ∀ m : Marker, m.isOn line = false := by
      intro m
      rw [Bool.eq_false_iff]
      intro ho
      rw [Marker.ofLine?_eq_some_iff.2 ho] at hm
      cases hm
    have hs : shields line = false := by simp [shields, hn]
    cases hf : isFence line with
    | true =>
      have hh : isHeader line = false := not_isHeader_of_isFence hf
      have hk : LineKind.ofLine line = .fence := by simp [LineKind.ofLine, hm, hf]
      simp [ofLines_of_kind rest hk, ofKind, ofLine, hs, hh]
    | false =>
      cases hh : isHeader line with
      | true =>
        have hk : LineKind.ofLine line = .header := by simp [LineKind.ofLine, hm, hf, hh]
        cases hc : inCode || before.suppresses <;>
          simp [ofLines_of_kind rest hk, ofKind, ofLine, hs, hh, hc]
      | false =>
        cases hr : isRule line with
        | true =>
          have hk : LineKind.ofLine line = .rule := by simp [LineKind.ofLine, hm, hf, hh, hr]
          simp [ofLines_of_kind rest hk, ofKind, ofLine, hs, hh]
        | false =>
          have hk : LineKind.ofLine line = .text := by simp [LineKind.ofLine, hm, hf, hh, hr]
          simp [ofLines_of_kind rest hk, ofKind, ofLine, hs, hh]

theorem ofLines_separator {rest : List String} (h : Marker.separator.isOn line = true)
    (hr : restates inCode rest = false) :
    ofLines before inCode (line :: rest) = ofLines (before.push line) inCode rest := by
  have hk : LineKind.ofLine line = .marker .separator := LineKind.ofLine_eq_marker_iff.2 h
  cases rest with
  | nil => simp [ofLines, hk]
  | cons blank below =>
    rw [ofLines, hk]
    simp only [restates] at hr
    simp only [hr, Bool.false_eq_true, if_false]

theorem ofLines_restated {blank : String} {below : List String}
    (h : Marker.separator.isOn line = true) (hr : restates inCode (blank :: below) = true) :
    ofLines before inCode (line :: blank :: below) =
      ofLines ((before.push line).push blank) inCode below := by
  have hk : LineKind.ofLine line = .marker .separator := LineKind.ofLine_eq_marker_iff.2 h
  rw [ofLines, hk]
  simp only [restates] at hr
  simp only [hr, if_true]

end Equations

/-- Induction on how lines are read: a line that is no separator, a separator that goes alone, and
one that takes a blank line along. -/
theorem reading_induction {motive : Lookback → Bool → List String → Prop}
    (nil : ∀ before inCode, motive before inCode [])
    (line : ∀ before inCode l rest, Marker.separator.isOn l = false →
      motive (before.push l) (inCode ^^ isFence l) rest → motive before inCode (l :: rest))
    (separator : ∀ before inCode l rest, Marker.separator.isOn l = true →
      restates inCode rest = false → motive (before.push l) inCode rest →
      motive before inCode (l :: rest))
    (restated : ∀ before l blank below, Marker.separator.isOn l = true → isBlank blank = true →
      startsWithHeader below = true → motive ((before.push l).push blank) false below →
      motive before false (l :: blank :: below))
    (before : Lookback) (inCode : Bool) (ls : List String) : motive before inCode ls := by
  generalize hn : ls.length = n
  induction n using Nat.strongRecOn generalizing before inCode ls with
  | ind n ih =>
    cases ls with
    | nil => exact nil before inCode
    | cons l rest =>
      have hl : rest.length < n := by simp only [List.length_cons] at hn; omega
      cases hs : Marker.separator.isOn l with
      | false => exact line _ _ _ _ hs (ih _ hl _ _ rest rfl)
      | true =>
        cases hr : restates inCode rest with
        | false => exact separator _ _ _ _ hs hr (ih _ hl _ _ rest rfl)
        | true =>
          cases rest with
          | nil => cases hr
          | cons blank below =>
            simp only [restates, Bool.and_eq_true, Bool.not_eq_true'] at hr
            obtain ⟨⟨rfl, hb⟩, hh⟩ := hr
            have hl' : below.length < n := by simp only [List.length_cons] at hl; omega
            exact restated _ _ _ _ hs hb hh (ih _ hl' _ _ below rfl)

/-! ## Interrupted reading -/

theorem restates_append {inCode : Bool} {e : String} (ls rest : List String)
    (he : isBlank e = false) :
    restates inCode (ls ++ e :: rest) = restates inCode (ls ++ [e]) := by
  match ls with
  | [] => simp [restates, he]
  | [l] => simp [restates, startsWithHeader]
  | l :: k :: ls => simp [restates, startsWithHeader]

/-- Reading may stop behind a line that is neither blank nor a separator: what comes before is read
without a look at what follows. -/
theorem ofLines_cut {before : Lookback} {inCode : Bool} {e : String} (ls rest : List String)
    (hs : Marker.separator.isOn e = false) (he : isBlank e = false) :
    ofLines before inCode (ls ++ e :: rest) = ofLines before inCode (ls ++ [e]) ++
      ofLines (before.pushAll (ls ++ [e])) (codeAfter inCode (ls ++ [e])) rest := by
  generalize hk : ls ++ [e] = ks
  induction before, inCode, ks using reading_induction generalizing ls with
  | nil => simp at hk
  | line before inCode l ks hl ih =>
    cases ls with
    | nil =>
      obtain ⟨rfl, rfl⟩ : e = l ∧ [] = ks := by simpa using hk
      simp [ofLines_cons _ hs, ofLines]
    | cons a ls =>
      obtain ⟨rfl, rfl⟩ : a = l ∧ ls ++ [e] = ks := by simpa using hk
      rw [List.cons_append, ofLines_cons _ hl, ofLines_cons _ hl, ih ls rfl]
      rfl
  | separator before inCode l ks hl hr ih =>
    cases ls with
    | nil =>
      obtain ⟨rfl, rfl⟩ : e = l ∧ [] = ks := by simpa using hk
      rw [hs] at hl
      cases hl
    | cons a ls =>
      obtain ⟨rfl, rfl⟩ : a = l ∧ ls ++ [e] = ks := by simpa using hk
      have hr' : restates inCode (ls ++ e :: rest) = false := by rw [restates_append _ _ he, hr]
      have hf : isFence a = false := Marker.not_isFence_of_isOn hl
      rw [List.cons_append, ofLines_separator hl hr', ofLines_separator hl hr, ih ls rfl]
      simp [hf]
  | restated before l blank below hl hb hh ih =>
    match ls, hk with
    | [], hk => simp at hk
    | [a], hk =>
      obtain ⟨-, rfl, -⟩ : a = l ∧ e = blank ∧ [] = below := by simpa using hk
      rw [he] at hb
      cases hb
    | a :: b :: ls, hk =>
      obtain ⟨rfl, rfl, rfl⟩ : a = l ∧ b = blank ∧ ls ++ [e] = below := by simpa using hk
      have hr : restates false (b :: (ls ++ [e])) = true := restates_cons hb hh
      have hr' : restates false (b :: (ls ++ e :: rest)) = true := by
        rw [← List.cons_append, restates_append _ _ he, List.cons_append, hr]
      have hf : isFence a = false := Marker.not_isFence_of_isOn hl
      have hf' : isFence b = false := not_isFence_of_isBlank hb
      rw [List.cons_append, List.cons_append, ofLines_restated hl hr', ofLines_restated hl hr,
        ih ls rfl]
      simp [hf, hf']

end Piece

end PagePrep
