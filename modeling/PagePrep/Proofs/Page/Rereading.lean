import PagePrep.Proofs.Page.ContentLine

/-!
# Reading on behind lines that were written

Lines up to one that is neither blank nor a separator may be replaced by what was written for them:
the rest is read as before (`Piece.exists_replacement`), since the same lines shield a header there
(`Lookback.Alike`). Only the line above that last one must not be a separator. It goes, and then the
lookback reaches further up.
-/

set_option autoImplicit false

namespace PagePrep

open Text

namespace Lookback

/-- The same of the two lines shield a header in both places. -/
structure Alike (b b' : Lookback) : Prop where
  one : b.one.any shields = b'.one.any shields
  two : b.two.any shields = b'.two.any shields

variable {b b' : Lookback}

theorem alike_push (h : b.one.any shields = b'.one.any shields) (l : String) :
    (b.push l).Alike (b'.push l) :=
  ⟨rfl, h⟩

theorem Alike.push (h : b.Alike b') (l : String) : (b.push l).Alike (b'.push l) :=
  alike_push h.one l

theorem Alike.suppresses (h : b.Alike b') : b.suppresses = b'.suppresses := by
  rw [suppresses_eq, suppresses_eq, h.one, h.two]

theorem pushAll_concat (b : Lookback) (ls : List String) (l : String) :
    b.pushAll (ls ++ [l]) = (b.pushAll ls).push l := by
  rw [pushAll_append]
  rfl

end Lookback

namespace Piece

variable {before before' : Lookback} {inCode : Bool}

theorem ofLines_of_alike {ls : List String} (h : before.Alike before') :
    ofLines before inCode ls = ofLines before' inCode ls := by
  induction before, inCode, ls using reading_induction generalizing before' with
  | nil => rfl
  | line before inCode l rest hl ih =>
    rw [ofLines_cons _ hl, ofLines_cons _ hl, ih (h.push l), ofLine, ofLine, h.suppresses]
  | separator before inCode l rest hl hr ih =>
    rw [ofLines_separator hl hr, ofLines_separator hl hr, ih (h.push l)]
  | restated before l blank below hl hb hh ih =>
    have hr : restates false (blank :: below) = true := restates_cons hb hh
    rw [ofLines_restated hl hr, ofLines_restated hl hr, ih ((h.push l).push blank)]

theorem tidied_of_alike {ls : List String} (h : before.Alike before') :
    tidied before inCode ls = tidied before' inCode ls := by
  rw [tidied, tidied, ofLines_of_alike h]

/-! ## The last line -/

/-- Only the line directly below a separator and a blank line can be the header that makes the
separator take the blank line along. -/
theorem restates_concat {ls : List String} {l : String} (h : restates inCode ls = false)
    (h' : restates inCode (ls ++ [l]) = true) :
    inCode = false ∧ isHeader l = true ∧ ∃ blank, ls = [blank] ∧ Text.isBlank blank = true := by
  match ls, h, h' with
  | [], _, h' => simp [restates, startsWithHeader] at h'
  | [blank], _, h' =>
    obtain ⟨⟨hc, hb⟩, hh⟩ :
        (inCode = false ∧ Text.isBlank blank = true) ∧ isHeader l = true := by
      simpa [restates, startsWithHeader] using h'
    exact ⟨hc, hh, blank, rfl, hb⟩
  | a :: b :: ls, h, h' =>
    have he : restates inCode (a :: b :: ls ++ [l]) = restates inCode (a :: b :: ls) := rfl
    rw [he, h] at h'
    cases h'

/-- The last line is read into the last piece. What is read before it stays, unless it opens a
context: then a blank line above it may go. -/
theorem ofLines_concat {l : String} (before : Lookback) (inCode : Bool) (ls : List String)
    (hl : Marker.separator.isOn l = false) :
    ∃ ps, ofLines before inCode (ls ++ [l]) =
        ps ++ [ofLine (before.pushAll ls) (codeAfter inCode ls) l] ∧
      ps <+: ofLines before inCode ls ∧
      (ofLine (before.pushAll ls) (codeAfter inCode ls) l ≠ opening l →
        ps = ofLines before inCode ls) := by
  induction before, inCode, ls using reading_induction with
  | nil before inCode => exact ⟨[], ofLines_cons [] hl, List.nil_prefix, fun _ => rfl⟩
  | line before inCode k rest hk ih =>
    obtain ⟨ps, he, hp, hn⟩ := ih
    refine ⟨ofLine before inCode k :: ps, ?_, ?_, ?_⟩
    · rw [List.cons_append, ofLines_cons _ hk, he]
      rfl
    · rw [ofLines_cons _ hk]
      exact List.cons_prefix_cons.2 ⟨rfl, hp⟩
    · intro h
      rw [ofLines_cons _ hk, hn h]
  | separator before inCode k rest hk hr ih =>
    have hf : isFence k = false := Marker.not_isFence_of_isOn hk
    cases hr' : restates inCode (rest ++ [l]) with
    | false =>
      rw [List.cons_append, ofLines_separator hk hr', ofLines_separator hk hr,
        Lookback.pushAll_cons, codeAfter_cons, hf, Bool.xor_false]
      exact ih
    | true =>
      obtain ⟨rfl, hh, blank, rfl, hb⟩ := restates_concat hr hr'
      have hs : ((before.push k).push blank).suppresses = false :=
        Lookback.suppresses_push_push (not_shields_of_isOn_separator hk)
          (not_shields_of_isBlank hb)
      have ho : ofLine (before.pushAll [k, blank]) (codeAfter false [k, blank]) l = opening l := by
        simp only [codeAfter_cons, codeAfter_nil, hf, not_isFence_of_isBlank hb, Bool.xor_false]
        exact ofLine_opening hh hs
      refine ⟨[], ?_, List.nil_prefix, fun h => absurd ho h⟩
      calc ofLines before false ([k, blank] ++ [l])
        _ = ofLines ((before.push k).push blank) false [l] := ofLines_restated hk hr'
        _ = [opening l] := by rw [ofLines_cons _ hl, ofLine_opening hh hs]; rfl
        _ = _ := by rw [ho]; rfl
  | restated before k blank below hk hb hh ih =>
    have hf : isFence k = false := Marker.not_isFence_of_isOn hk
    have hh' : startsWithHeader (below ++ [l]) = true := by
      cases below with
      | nil => cases hh
      | cons a below => exact hh
    rw [List.cons_append, List.cons_append, ofLines_restated hk (restates_cons hb hh'),
      ofLines_restated hk (restates_cons hb hh)]
    simpa [hf, not_isFence_of_isBlank hb] using ih

theorem exists_lines_ofLine (before : Lookback) (inCode : Bool) (l : String) :
    ∃ ls, (ofLine before inCode l).lines = ls ++ [l] := by
  rcases ofLine_cases before inCode l with he | he | ⟨he, -⟩
  · exact ⟨[], by rw [he]; rfl⟩
  · exact ⟨[], by rw [he]; rfl⟩
  · exact ⟨[Marker.separator.sentinel, ""], by rw [he]; rfl⟩

/-! ## Lines in place of others -/

/-- If the last of the lines is no separator, the last line written for them is that line, or there
is none of either. -/
theorem one_pushAll_allLines {ls : List String} {p : Piece} {qs : List Piece}
    (hls : ls.getLast?.any Marker.separator.isOn = false) (hp : p.isBlank = false)
    (hq : tidy isBlank (ofLines before inCode ls ++ [p]) = qs ++ [p]) :
    (before.pushAll (allLines qs)).one = (before.pushAll ls).one := by
  rcases List.eq_nil_or_concat' ls with rfl | ⟨init, a, rfl⟩
  · have hn : tidy isBlank ([] ++ [p]) = qs ++ [p] := hq
    obtain rfl : [] = qs := List.append_cancel_right ((tidy_cons_solid [] hp).symm.trans hn)
    rfl
  · have ha : Marker.separator.isOn a = false := by simpa using hls
    obtain ⟨ps, he, -, -⟩ := ofLines_concat before inCode init ha
    obtain ⟨rs, hr⟩ := tidy_append_pair ps hp
    rw [he, List.append_assoc, List.singleton_append, hr] at hq
    have hqs : qs = rs ++ [ofLine (before.pushAll init) (codeAfter inCode init) a] :=
      List.append_cancel_right (by simpa using hq.symm)
    obtain ⟨above, hab⟩ := exists_lines_ofLine (before.pushAll init) (codeAfter inCode init) a
    have hl : allLines qs = allLines rs ++ above ++ [a] := by
      rw [hqs, allLines_append, allLines_cons, hab]
      simp
    rw [hl, Lookback.pushAll_concat, Lookback.pushAll_concat]
    rfl

section Replacement

variable {l : String} (hl : Marker.separator.isOn l = false) (hb : Text.isBlank l = false)
include hl hb

/-- What is written for some lines and `l` ends in `l` too, with lines above it that were read or
belong to a separator. The line directly above `l` shields a header just where it did before. -/
theorem exists_written (before : Lookback) (inCode : Bool) (ls : List String) :
    ∃ ks, allLines (tidied before inCode (ls ++ [l])) = ks ++ [l] ∧
      (∀ k ∈ ks, k ∈ ls ∨ k = Marker.separator.sentinel ∨ k = "") ∧
      (ls.getLast?.any Marker.separator.isOn = false →
        (before.pushAll ks).one.any shields = (before.pushAll ls).one.any shields) := by
  obtain ⟨ps, he, hp, hn⟩ := ofLines_concat before inCode ls hl
  generalize hq : ofLine (before.pushAll ls) (codeAfter inCode ls) l = p at he hn
  have hpb : p.isBlank = false := by rw [← hq, isBlank_ofLine, hb]
  obtain ⟨qs, ht, hs⟩ := tidy_concat ps hpb
  have hm (k : String) (hk : k ∈ allLines qs) :
      k ∈ ls ∨ k = Marker.separator.sentinel ∨ k = "" :=
    mem_allLines_of_subset (fun q hq => hp.subset (hs.subset hq)) hk
  rw [tidied, he, ht, allLines_append]
  by_cases ho : p = opening l
  · -- an empty line is written above `l`, and nothing shielded `l` before
    have hsup : (before.pushAll ls).suppresses = false := by
      rcases ofLine_cases (before.pushAll ls) (codeAfter inCode ls) l with h | h | ⟨-, -, -, h⟩
      · rw [ho, h] at hq; cases hq
      · rw [ho, h] at hq; cases hq
      · exact h
    rw [Lookback.suppresses_eq, Bool.or_eq_false_iff] at hsup
    refine ⟨allLines qs ++ [Marker.separator.sentinel, ""], by simp [ho, lines], ?_, fun _ => ?_⟩
    · intro k hk
      rcases List.mem_append.1 hk with hk | hk
      · exact hm k hk
      · simpa [or_comm] using Or.inr hk
    · have he : shields "" = false := by decide
      simp [hsup.1, Lookback.pushAll_append, Lookback.push, he]
  · have hlines : p.lines = [l] := by rw [← hq]; exact lines_ofLine (by rwa [hq])
    refine ⟨allLines qs, by simp [hlines], hm, ?_⟩
    intro hls
    rw [hn ho] at ht
    rw [one_pushAll_allLines hls hpb ht]

theorem tidied_cut (before : Lookback) (inCode : Bool) (ls rest : List String) :
    tidied before inCode (ls ++ l :: rest) = tidied before inCode (ls ++ [l]) ++
      tidied (before.pushAll (ls ++ [l])) (codeAfter inCode (ls ++ [l])) rest := by
  obtain ⟨ps, he, -, -⟩ := ofLines_concat before inCode ls hl
  rw [tidied, tidied, tidied, ofLines_cut ls rest hl hb, he, List.append_assoc, List.singleton_append, tidy_append_cons]
  rw [isBlank_ofLine, hb]

/-- **Replacement.** What is written for some lines above `l` may stand there in their place: it is
read like these lines, and so is what follows, unless the last of them is a separator. -/
theorem exists_replacement (before : Lookback) (inCode : Bool) (ls : List String) :
    ∃ ks, allLines (tidied before inCode (ls ++ [l])) = ks ++ [l] ∧
      (∀ k ∈ ks, k ∈ ls ∨ k = Marker.separator.sentinel ∨ k = "") ∧
      (ls.getLast?.any Marker.separator.isOn = false → ∀ rest,
        tidied before inCode (ks ++ l :: rest) = tidied before inCode (ls ++ l :: rest)) := by
  obtain ⟨ks, hk, hm, hone⟩ := exists_written hl hb before inCode ls
  refine ⟨ks, hk, hm, ?_⟩
  intro hls rest
  have ha : (before.pushAll (ks ++ [l])).Alike (before.pushAll (ls ++ [l])) := by
    rw [Lookback.pushAll_concat, Lookback.pushAll_concat]
    exact Lookback.alike_push (hone hls) l
  have hc : codeAfter inCode (ks ++ [l]) = codeAfter inCode (ls ++ [l]) := by
    rw [← hk, codeAfter_allLines_tidied]
  calc tidied before inCode (ks ++ l :: rest)
    _ = tidied before inCode (ks ++ [l]) ++
          tidied (before.pushAll (ks ++ [l])) (codeAfter inCode (ks ++ [l])) rest :=
        tidied_cut hl hb before inCode ks rest
    _ = tidied before inCode (ls ++ [l]) ++
          tidied (before.pushAll (ls ++ [l])) (codeAfter inCode (ls ++ [l])) rest := by
        rw [← hk, tidied_allLines_tidied, hk, hc, tidied_of_alike ha]
    _ = tidied before inCode (ls ++ l :: rest) := (tidied_cut hl hb before inCode ls rest).symm

end Replacement

end Piece

end PagePrep
