import PagePrep.Proofs.Page.Tidied
import Mathlib.Data.List.Induction

/-!
# Lines by their position

Which header opens a context, and which line goes, told by the position of the line among the lines
of the page alone: by the fences before it, the two lines above and the two lines below. The pieces
of a page are its remaining lines in order, each made into the piece that its position asks for
(`Piece.ofText_eq_positions`).
-/

set_option autoImplicit false

namespace PagePrep

open Text

/-- The lines whose number, counted from zero, satisfies a condition. -/
def linesWhere (keep : Nat → Bool) (ls : List String) : List String :=
  (ls.zipIdx.filter fun e => keep e.2).map Prod.fst

/-- Whether an even number of fences stands before line `i`. -/
def outsideCode (ls : List String) (i : Nat) : Bool := (ls.take i).countP isFence % 2 == 0

/-- Whether line `i` is a header that opens a context: it stands outside of code, and none of the
two lines above it shields it. -/
def opensAt (ls : List String) (i : Nat) : Bool :=
  ls[i]?.any isHeader && outsideCode ls i &&
    !(decide (1 ≤ i) && ls[i - 1]?.any shields) && !(decide (2 ≤ i) && ls[i - 2]?.any shields)

/-- The headers that open contexts, in page order. -/
def openingHeaders (ls : List String) : List String := linesWhere (opensAt ls) ls

/-- Whether line `i` is a separator outside of code above a blank line and a header. -/
def restatesAt (ls : List String) (i : Nat) : Bool :=
  ls[i]?.any Marker.separator.isOn && outsideCode ls i && ls[i + 1]?.any isBlank &&
    ls[i + 2]?.any isHeader

/-- Whether line `i` stays: it is no separator, nor the blank line that one takes along. -/
def staysAt (ls : List String) (i : Nat) : Bool :=
  !ls[i]?.any Marker.separator.isOn && !(decide (1 ≤ i) && restatesAt ls (i - 1))

/-- The piece that line `i` asks for. -/
def Piece.at (ls : List String) (e : String × Nat) : Piece :=
  if shields e.1 then mark e.1 else if opensAt ls e.2 then opening e.1 else body e.1

section Prefix

variable (above : List String)

theorem Lookback.one_pushAll_start : (start.pushAll above).one = above.getLast? := by
  rw [pushAll]
  induction above using List.reverseRecOn with
  | nil => rfl
  | append_singleton ls l ih => simp [push]

theorem Lookback.two_pushAll_start : (start.pushAll above).two = above.dropLast.getLast? := by
  induction above using List.reverseRecOn with
  | nil => rfl
  | append_singleton ls l ih =>
    rw [pushAll_append, List.dropLast_concat, ← one_pushAll_start]
    rfl

variable (line : String) (rest : List String)

theorem getElem?_above {i : Nat} (h : i < above.length) :
    (above ++ line :: rest)[i]? = above[i]? :=
  List.getElem?_append_left h

theorem outsideCode_above :
    outsideCode (above ++ line :: rest) above.length = !codeAfter false above := by
  rw [outsideCode, List.take_left, codeAfter_eq, Bool.false_xor]
  rcases Nat.mod_two_eq_zero_or_one (above.countP isFence) with h | h <;> simp [h]

theorem suppresses_pushAll_start :
    (Lookback.start.pushAll above).suppresses =
      ((decide (1 ≤ above.length) && (above ++ line :: rest)[above.length - 1]?.any shields) ||
        (decide (2 ≤ above.length) && (above ++ line :: rest)[above.length - 2]?.any shields)) := by
  rw [Lookback.suppresses_eq, Lookback.one_pushAll_start, Lookback.two_pushAll_start,
    List.getLast?_eq_getElem?, List.getLast?_eq_getElem?, List.length_dropLast]
  rcases Nat.lt_or_ge above.length 1 with h1 | h1
  · have hn : above = [] := List.length_eq_zero_iff.1 (by omega)
    simp [hn]
  · rw [getElem?_above above line rest (i := above.length - 1) (by omega)]
    rcases Nat.lt_or_ge above.length 2 with h2 | h2
    · have hd : above.dropLast = [] := List.length_eq_zero_iff.1 (by rw [List.length_dropLast]; omega)
      have h2' : ¬ 2 ≤ above.length := by omega
      simp [hd, h1, h2']
    · rw [getElem?_above above line rest (i := above.length - 2) (by omega),
        List.getElem?_dropLast]
      have hlt : above.length - 2 < above.length - 1 := by omega
      simp [h1, h2, hlt, Nat.sub_sub]

theorem opensAt_above :
    opensAt (above ++ line :: rest) above.length =
      (isHeader line && !(codeAfter false above || (Lookback.start.pushAll above).suppresses)) := by
  rw [opensAt, outsideCode_above, suppresses_pushAll_start above line rest]
  simp [Bool.not_or, Bool.and_assoc]

theorem restatesAt_above :
    restatesAt (above ++ line :: rest) above.length =
      (Marker.separator.isOn line && Piece.restates (codeAfter false above) rest) := by
  rw [restatesAt, outsideCode_above]
  have h0 : (above ++ line :: rest)[above.length]? = some line := by simp
  have h1 : (above ++ line :: rest)[above.length + 1]? = rest[0]? := by
    rw [List.getElem?_append_right (by omega)]
    simp
  have h2 : (above ++ line :: rest)[above.length + 2]? = rest[1]? := by
    rw [List.getElem?_append_right (by omega)]
    simp
  rw [h0, h1, h2]
  match rest with
  | [] => simp [Piece.restates]
  | [l] => simp [Piece.restates, startsWithHeader]
  | l :: k :: ls => simp [Piece.restates, startsWithHeader, Bool.and_assoc]

theorem at_above :
    Piece.at (above ++ line :: rest) (line, above.length) =
      Piece.ofLine (Lookback.start.pushAll above) (codeAfter false above) line := by
  rw [Piece.at, opensAt_above, Piece.ofLine]

end Prefix

namespace Piece

/-- The pieces read behind the lines `above`, of which the last restates nothing, are those that the
positions of the lines ask for. -/
theorem ofLines_eq_positions_from {before : Lookback} {inCode : Bool} {ls : List String}
    (above : List String) (hb : before = Lookback.start.pushAll above)
    (hc : inCode = codeAfter false above)
    (hr : (decide (1 ≤ above.length) && restatesAt (above ++ ls) (above.length - 1)) = false) :
    ofLines before inCode ls =
      ((ls.zipIdx above.length).filter fun e => staysAt (above ++ ls) e.2).map
        (Piece.at (above ++ ls)) := by
  induction before, inCode, ls using reading_induction generalizing above with
  | nil => rfl
  | line before inCode l rest hl ih =>
    have hs : staysAt (above ++ l :: rest) above.length = true := by simp [staysAt, hl, hr]
    have hn : restatesAt (above ++ l :: rest) above.length = false := by
      rw [restatesAt_above, hl, Bool.false_and]
    have := ih (above ++ [l]) (by rw [hb, Lookback.pushAll_append]; rfl)
      (by rw [hc, codeAfter_append]; rfl) (by simp [hn])
    rw [List.append_assoc, List.singleton_append, List.length_append, List.length_singleton] at this
    rw [ofLines_cons _ hl, this, List.zipIdx_cons, List.filter_cons, if_pos hs, List.map_cons,
      at_above, hb, hc]
  | separator before inCode l rest hl hr' ih =>
    have hs : staysAt (above ++ l :: rest) above.length = false := by simp [staysAt, hl]
    have hn : restatesAt (above ++ l :: rest) above.length = false := by
      rw [restatesAt_above, ← hc, hr', Bool.and_false]
    have := ih (above ++ [l]) (by rw [hb, Lookback.pushAll_append]; rfl)
      (by rw [hc, codeAfter_append, codeAfter_cons, Marker.not_isFence_of_isOn hl,
        Bool.xor_false, codeAfter_nil]) (by simp [hn])
    rw [List.append_assoc, List.singleton_append, List.length_append, List.length_singleton] at this
    rw [ofLines_separator hl hr', this, List.zipIdx_cons, List.filter_cons, if_neg (by simp [hs])]
  | restated before l blank below hl hbl hh ih =>
    have hs : staysAt (above ++ l :: blank :: below) above.length = false := by
      simp [staysAt, hl]
    have hn : restatesAt (above ++ l :: blank :: below) above.length = true := by
      rw [restatesAt_above, ← hc, hl, restates_cons hbl hh]
      rfl
    have hs' : staysAt (above ++ l :: blank :: below) (above.length + 1) = false := by
      simp [staysAt, hn]
    have hn' : restatesAt (above ++ l :: blank :: below) (above.length + 1) = false := by
      simp [restatesAt, Marker.not_isOn_of_isBlank hbl]
    have := ih (above ++ [l, blank]) (by rw [hb, Lookback.pushAll_append]; rfl)
      (by rw [codeAfter_append, ← hc, codeAfter_cons, codeAfter_cons,
        Marker.not_isFence_of_isOn hl, not_isFence_of_isBlank hbl]; rfl) (by simp [hn'])
    rw [List.append_assoc, List.length_append] at this
    rw [ofLines_restated hl (restates_cons hbl hh), this, List.zipIdx_cons,
      List.zipIdx_cons, List.filter_cons, if_neg (by simp [hs]), List.filter_cons,
      if_neg (by simp [hs'])]
    rfl

/-- The pieces of a page are its remaining lines, each as its position asks. -/
theorem ofText_eq_positions (text : String) :
    ofText text =
      ((Text.lines text).zipIdx.filter fun e => staysAt (Text.lines text) e.2).map
        (Piece.at (Text.lines text)) :=
  ofLines_eq_positions_from [] rfl rfl rfl

end Piece

/-! ## Fences that pair off -/

/-- Whether the fences among some lines are even in number. -/
def fencesPair (ls : List String) : Bool := ls.countP isFence % 2 == 0

theorem codeAfter_eq_xor (inCode : Bool) (ls : List String) :
    codeAfter inCode ls = (inCode ^^ !fencesPair ls) := by
  rw [codeAfter_eq, fencesPair]
  rcases Nat.mod_two_eq_zero_or_one (ls.countP isFence) with h | h <;> simp [h]

theorem fencesPair_append (ls ks : List String) :
    fencesPair (ls ++ ks) = (fencesPair ls == fencesPair ks) := by
  have h := codeAfter_append false ls ks
  simp only [codeAfter_eq_xor] at h
  cases hl : fencesPair ls <;> cases hk : fencesPair ks <;> simpa [hl, hk] using h

theorem fencesPair_map_chomp (ls : List String) : fencesPair (ls.map chomp) = fencesPair ls := by
  have h : isFence ∘ chomp = isFence := funext isFence_chomp
  rw [fencesPair, List.countP_map, h, fencesPair]

/-! ## Lines left out -/

theorem Lookback.suppresses_push (b : Lookback) (l : String) :
    (b.push l).suppresses = (shields l || b.one.any shields) := by
  rw [suppresses_eq]
  rfl

/-- Lines among which the fences pair off may be left out above a line: below it the same headers open
contexts. Directly below it, this takes that no shield is left out. -/
theorem opensAt_left_out {above body below : List String} (l : String)
    (ha : above.getLast?.any shields = false) (hb : fencesPair body = true) {j : Nat}
    (hj : 0 < j ∨ body.getLast?.any shields = false) :
    opensAt (above ++ (body ++ l :: below)) (above.length + body.length + 1 + j) =
      opensAt (above ++ l :: below) (above.length + 1 + j) := by
  rcases Nat.lt_or_ge j below.length with hlt | hge
  · -- the lines above line `j`, with and without those that are left out
    have hbelow : below = below.take j ++ below[j] :: below.drop (j + 1) := by
      conv_lhs => rw [← List.take_append_drop j below, List.drop_eq_getElem_cons hlt]
    have hfull : above ++ (body ++ l :: below) =
        (above ++ body ++ l :: below.take j) ++ below[j] :: below.drop (j + 1) := by
      conv_lhs => rw [hbelow]
      simp
    have hout : above ++ l :: below =
        (above ++ l :: below.take j) ++ below[j] :: below.drop (j + 1) := by
      conv_lhs => rw [hbelow]
      simp
    have hcode : codeAfter false (above ++ body ++ l :: below.take j) =
        codeAfter false (above ++ l :: below.take j) := by
      simp only [codeAfter_eq_xor, fencesPair_append, hb]
      simp
    have hlook : (Lookback.start.pushAll (above ++ body ++ l :: below.take j)).suppresses =
        (Lookback.start.pushAll (above ++ l :: below.take j)).suppresses := by
      rw [Lookback.pushAll_append .start (above ++ body),
        Lookback.pushAll_append .start above (l :: below.take j)]
      cases j with
      | zero =>
        have hlast : (above ++ body).getLast?.any shields = false := by
          rw [List.getLast?_append]
          cases hbody : body.getLast? with
          | none => simpa using ha
          | some k => simpa [hbody] using hj
        show ((Lookback.start.pushAll (above ++ body)).push l).suppresses =
          ((Lookback.start.pushAll above).push l).suppresses
        rw [Lookback.suppresses_push, Lookback.suppresses_push, Lookback.one_pushAll_start,
          Lookback.one_pushAll_start, hlast, ha]
      | succ j =>
        -- two lines are looked back to, and these stand below the lines that are left out
        obtain ⟨k, ks, hk⟩ : ∃ k ks, below.take (j + 1) = k :: ks := by
          cases below with
          | nil => simp at hlt
          | cons k ks => exact ⟨k, ks.take j, rfl⟩
        rw [hk]
        rfl
    have hi : above.length + body.length + 1 + j = (above ++ body ++ l :: below.take j).length := by
      simp only [List.length_append, List.length_cons, List.length_take]
      omega
    have hi' : above.length + 1 + j = (above ++ l :: below.take j).length := by
      simp only [List.length_append, List.length_cons, List.length_take]
      omega
    rw [hi, hi', hfull, hout, opensAt_above, opensAt_above, hcode, hlook]
  · have hnone : (above ++ (body ++ l :: below))[above.length + body.length + 1 + j]? = none := by
      rw [List.getElem?_eq_none_iff]
      simp only [List.length_append, List.length_cons]
      omega
    have hnone' : (above ++ l :: below)[above.length + 1 + j]? = none := by
      rw [List.getElem?_eq_none_iff]
      simp only [List.length_append, List.length_cons]
      omega
    simp [opensAt, hnone, hnone']

end PagePrep
