import PagePrep.Proofs.Page.Reading

/-!
# Pieces that are read back

Pieces are settled if each of their body lines and marks is what a reader makes of it behind the
lines of the pieces before. The lines of settled pieces are read back as the same pieces
(`Settled.ofLines_append`), because a separator above an opening header stands in that header's own
block. Reading gives settled pieces, and they stay settled when blank lines go and when carriage
returns are taken off, since a mark above a header never moves further away from it
(`Lookback.Covers`).
-/

set_option autoImplicit false

namespace PagePrep

open Text

/-! ## Lookback that sees no less -/

namespace Lookback

/-- Whatever shields a header in the place of `b` shields it in the place of `b'` too, now and on
every line to come. -/
structure Covers (b b' : Lookback) : Prop where
  one : b.one.any shields = true → b'.one.any shields = true
  two : b.two.any shields = true → b'.suppresses = true

variable {b b' : Lookback} {l k : String}

namespace Covers

theorem refl (b : Lookback) : b.Covers b :=
  ⟨id, fun h => by rw [suppresses_eq, h, Bool.or_true]⟩

theorem suppresses (h : b.Covers b') (hs : b.suppresses = true) : b'.suppresses = true := by
  rw [suppresses_eq, Bool.or_eq_true] at hs
  rcases hs with ho | ht
  · rw [suppresses_eq, h.one ho, Bool.true_or]
  · exact h.two ht

theorem of_not_suppresses (h : b.suppresses = false) : b.Covers b' := by
  rw [suppresses_eq, Bool.or_eq_false_iff] at h
  exact ⟨fun ho => absurd (h.1.symm.trans ho) (by decide),
    fun ht => absurd (h.2.symm.trans ht) (by decide)⟩

/-- Both go on by lines that shield alike. -/
theorem push (h : b.Covers b') (hk : shields k = shields l) : (b.push l).Covers (b'.push k) := by
  constructor
  · intro ho
    simpa [Lookback.push, hk] using ho
  · intro ht
    have ho : b'.one.any shields = true := h.one ht
    rw [suppresses_eq]
    simp only [Lookback.push, ho, Bool.or_true]

/-- Only the first goes on, by a line that does not shield. -/
theorem push_left (h : b.Covers b') (hl : shields l = false) : (b.push l).Covers b' := by
  constructor
  · intro ho
    simp [Lookback.push, hl] at ho
  · intro ht
    have ho : b'.one.any shields = true := h.one ht
    rw [suppresses_eq, ho, Bool.true_or]

end Covers

/-- Two lines that do not shield suppress nothing. -/
theorem suppresses_push_push (hl : shields l = false) (hk : shields k = false) :
    ((b.push l).push k).suppresses = false := by
  rw [suppresses_eq]
  simp [Lookback.push, hl, hk]

theorem not_suppresses_push (h : b.suppresses = false) (hl : shields l = false) :
    (b.push l).suppresses = false := by
  rw [suppresses_eq, Bool.or_eq_false_iff] at h
  rw [suppresses_eq]
  simp [Lookback.push, hl, h.1]

end Lookback

namespace Piece

/-! ## The pieces of a page -/

/-- The input line of a piece. -/
def line : Piece → String
  | mark l => l
  | body l => l
  | opening l => l

/-- A piece of a blank line. -/
def isBlank : Piece → Bool
  | mark l => Text.isBlank l
  | body l => Text.isBlank l
  | opening _ => false

/-- The header that a piece opens a context with. -/
def header? : Piece → Option String
  | opening h => some h
  | _ => none

/-- The piece with the carriage return taken off its line. -/
def chomp : Piece → Piece
  | mark l => mark (Text.chomp l)
  | body l => body (Text.chomp l)
  | opening l => opening (Text.chomp l)

/-- A piece that a page can have: a line that is no separator, or an opening header. -/
def Proper : Piece → Prop
  | mark l => Marker.separator.isOn l = false
  | body l => Marker.separator.isOn l = false
  | opening h => isHeader h = true

@[simp] theorem allLines_nil : allLines [] = [] := rfl

@[simp] theorem allLines_cons (p : Piece) (ps : List Piece) :
    allLines (p :: ps) = p.lines ++ allLines ps := rfl

theorem allLines_append (ps qs : List Piece) : allLines (ps ++ qs) = allLines ps ++ allLines qs :=
  List.flatMap_append

theorem isBlank_chomp (p : Piece) : p.chomp.isBlank = p.isBlank := by
  cases p <;> simp [chomp, isBlank, Text.isBlank_chomp]

theorem lines_chomp (p : Piece) : p.chomp.lines = p.lines.map Text.chomp := by
  have hs : Text.chomp Marker.separator.sentinel = Marker.separator.sentinel := by decide
  cases p <;> simp [chomp, lines, hs]

theorem allLines_map_chomp (ps : List Piece) :
    allLines (ps.map chomp) = (allLines ps).map Text.chomp := by
  induction ps with
  | nil => rfl
  | cons p ps ih => rw [List.map_cons, allLines_cons, lines_chomp, ih, allLines_cons, List.map_append]

section OfLine

variable {before before' : Lookback} {inCode : Bool} {l : String}

theorem ofLine_cases (before : Lookback) (inCode : Bool) (l : String) :
    ofLine before inCode l = mark l ∨ ofLine before inCode l = body l ∨
      (ofLine before inCode l = opening l ∧ isHeader l = true ∧ inCode = false ∧
        before.suppresses = false) := by
  unfold ofLine
  split
  · exact .inl rfl
  · split
    · rename_i hh
      simp only [Bool.and_eq_true, Bool.not_eq_true', Bool.or_eq_false_iff] at hh
      exact .inr (.inr ⟨rfl, hh.1, hh.2.1, hh.2.2⟩)
    · exact .inr (.inl rfl)

theorem line_ofLine (before : Lookback) (inCode : Bool) (l : String) :
    (ofLine before inCode l).line = l := by
  rcases ofLine_cases before inCode l with he | he | ⟨he, -⟩ <;> rw [he] <;> rfl

theorem lines_ofLine (h : ofLine before inCode l ≠ opening l) :
    (ofLine before inCode l).lines = [l] := by
  rcases ofLine_cases before inCode l with he | he | ⟨he, -⟩
  · rw [he]; rfl
  · rw [he]; rfl
  · exact absurd he h

theorem isBlank_ofLine (before : Lookback) (inCode : Bool) (l : String) :
    (ofLine before inCode l).isBlank = Text.isBlank l := by
  rcases ofLine_cases before inCode l with he | he | ⟨he, hh, -⟩
  · rw [he]; rfl
  · rw [he]; rfl
  · rw [he, not_isBlank_of_isHeader hh]; rfl

/-- A header without a mark above it outside of code opens a context. -/
theorem ofLine_opening (hh : isHeader l = true) (hs : before.suppresses = false) :
    ofLine before false l = opening l := by
  simp [ofLine, not_shields_of_isHeader hh, hh, hs]

/-- A line that opens no context is the same piece wherever the lookback sees no less. -/
theorem ofLine_of_covers (h : ofLine before inCode l ≠ opening l) (hc : before.Covers before') :
    ofLine before' inCode l = ofLine before inCode l := by
  cases hb : before.suppresses with
  | true => simp only [ofLine, hb, hc.suppresses hb]
  | false =>
    unfold ofLine at h ⊢
    simp only [hb, Bool.or_false] at h ⊢
    cases hs : shields l with
    | true => simp
    | false =>
      cases hh : isHeader l && !inCode with
      | true => simp [hs, hh] at h
      | false =>
        rw [Bool.and_eq_false_iff] at hh
        rcases hh with hh | hh <;> simp_all

theorem ofLine_chomp (before : Lookback) (inCode : Bool) (l : String) :
    ofLine before inCode (Text.chomp l) = (ofLine before inCode l).chomp := by
  unfold ofLine
  rw [shields_chomp, isHeader_chomp]
  split
  · rfl
  · split <;> rfl

end OfLine

/-! ## Settled pieces -/

/-- Pieces that are read back from their own lines, behind the lines `before`. -/
inductive Settled : Lookback → Bool → List Piece → Prop
  | nil (before : Lookback) (inCode : Bool) : Settled before inCode []
  | line {before : Lookback} {inCode : Bool} {l : String} {ps : List Piece}
      (separator : Marker.separator.isOn l = false) (stays : ofLine before inCode l ≠ opening l)
      (below : Settled (before.push l) (inCode ^^ isFence l) ps) :
      Settled before inCode (ofLine before inCode l :: ps)
  | opening {before : Lookback} {h : String} {ps : List Piece} (header : isHeader h = true)
      (below : Settled (((before.push Marker.separator.sentinel).push "").push h) false ps) :
      Settled before false (opening h :: ps)

namespace Settled

variable {before before' : Lookback} {inCode : Bool} {ps : List Piece}

/-- The lines of settled pieces are read back as these pieces, whatever follows. -/
theorem ofLines_append (h : Settled before inCode ps) (rest : List String) :
    ofLines before inCode (allLines ps ++ rest) =
      ps ++ ofLines (before.pushAll (allLines ps)) (codeAfter inCode (allLines ps)) rest := by
  induction h with
  | nil => rfl
  | line hs hn _ ih =>
    rw [allLines_cons, lines_ofLine hn, List.append_assoc, List.singleton_append,
      ofLines_cons _ hs, ih]
    rfl
  | @opening before h ps hh _ ih =>
    have hr : restates false ("" :: h :: (allLines ps ++ rest)) = true := restates_cons rfl hh
    have hs : Marker.separator.isOn h = false := Marker.not_isOn_of_isHeader hh
    have hp : ((before.push Marker.separator.sentinel).push "").suppresses = false :=
      Lookback.suppresses_push_push (by decide) (by decide)
    have hf : isFence Marker.separator.sentinel = false := by decide
    have hf' : isFence "" = false := by decide
    have hf'' : isFence h = false := not_isFence_of_isHeader hh
    calc ofLines before false (allLines (.opening h :: ps) ++ rest)
      _ = ofLines ((before.push Marker.separator.sentinel).push "") false
            (h :: (allLines ps ++ rest)) :=
          ofLines_restated (Marker.isOn_sentinel _) hr
      _ = .opening h :: ofLines (((before.push Marker.separator.sentinel).push "").push h) false
            (allLines ps ++ rest) := by
          rw [ofLines_cons _ hs, ofLine_opening hh hp, hf'', Bool.xor_false]
      _ = _ := by
          rw [ih]
          simp [lines, hf, hf', hf'']

theorem ofLines_allLines (h : Settled before inCode ps) :
    ofLines before inCode (allLines ps) = ps := by
  have := h.ofLines_append []
  simpa [ofLines] using this

theorem proper (h : Settled before inCode ps) : ∀ p ∈ ps, p.Proper := by
  induction h with
  | nil => simp
  | @line before inCode l ps hs hn _ ih =>
    intro p hp
    rcases List.mem_cons.1 hp with rfl | hp
    · rcases ofLine_cases before inCode l with he | he | ⟨he, -⟩
      · rw [he]; exact hs
      · rw [he]; exact hs
      · exact absurd he hn
    · exact ih p hp
  | opening hh _ ih =>
    intro p hp
    rcases List.mem_cons.1 hp with rfl | hp
    · exact hh
    · exact ih p hp

/-- Settled pieces stay settled without blank lines. -/
theorem tidy (h : Settled before inCode ps) (hc : before.Covers before') :
    Settled before' inCode (tidy isBlank ps) := by
  induction h generalizing before' with
  | nil => exact .nil _ _
  | @line before inCode l ps hs hn _ ih =>
    cases hd : (ofLine before inCode l).isBlank && ps.head?.all isBlank with
    | true =>
      rw [Bool.and_eq_true, isBlank_ofLine] at hd
      rw [tidy_cons_drop (by rw [isBlank_ofLine, hd.1]) hd.2]
      have := ih (hc.push_left (not_shields_of_isBlank hd.1))
      rwa [not_isFence_of_isBlank hd.1, Bool.xor_false] at this
    | false =>
      rw [tidy_cons_keep hd, ← ofLine_of_covers hn hc]
      exact .line hs (by rwa [ofLine_of_covers hn hc]) (ih (hc.push rfl))
  | opening hh _ ih =>
    rw [tidy_cons_solid _ rfl]
    exact .opening hh (ih (.push (.of_not_suppresses
      (Lookback.suppresses_push_push (by decide) (by decide))) rfl))

/-- Settled pieces stay settled when carriage returns are taken off their lines. -/
theorem map_chomp (h : Settled before inCode ps) (hc : before.Covers before') :
    Settled before' inCode (ps.map chomp) := by
  induction h generalizing before' with
  | nil => exact .nil _ _
  | @line before inCode l ps hs hn _ ih =>
    have he : (ofLine before inCode l).chomp = ofLine before' inCode (Text.chomp l) := by
      rw [← ofLine_of_covers hn hc, ofLine_chomp]
    rw [List.map_cons, he]
    refine .line (by rw [Marker.isOn_chomp, hs]) ?_ ?_
    · rw [← he]
      rcases ofLine_cases before inCode l with he' | he' | ⟨he', -⟩
      · simp [he', chomp]
      · simp [he', chomp]
      · exact absurd he' hn
    · rw [isFence_chomp]
      exact ih (hc.push (shields_chomp l))
  | opening hh _ ih =>
    exact .opening (by rw [isHeader_chomp, hh]) (ih (.push (.of_not_suppresses
      (Lookback.suppresses_push_push (by decide) (by decide))) (shields_chomp _)))

end Settled

/-- Reading gives settled pieces, also behind other lines than those that were read before. -/
theorem settled_ofLines {before before' : Lookback} (inCode : Bool) (ls : List String)
    (hc : before.Covers before') : Settled before' inCode (ofLines before inCode ls) := by
  induction before, inCode, ls using reading_induction generalizing before' with
  | nil => exact .nil _ _
  | line before inCode l rest hl ih =>
    rw [ofLines_cons _ hl]
    by_cases ho : ofLine before inCode l = opening l
    · rcases ofLine_cases before inCode l with he | he | ⟨-, hh, rfl, hs⟩
      · simp [he] at ho
      · simp [he] at ho
      · rw [ho]
        refine .opening hh ?_
        rw [not_isFence_of_isHeader hh] at ih ⊢
        exact ih (.of_not_suppresses (Lookback.not_suppresses_push hs (not_shields_of_isHeader hh)))
    · rw [← ofLine_of_covers ho hc]
      exact .line hl (by rwa [ofLine_of_covers ho hc]) (ih (hc.push rfl))
  | separator before inCode l rest hl hr ih =>
    rw [ofLines_separator hl hr]
    exact ih (hc.push_left (not_shields_of_isOn_separator hl))
  | restated before l blank below hl hb hh ih =>
    rw [ofLines_restated hl (restates_cons hb hh)]
    exact ih (.of_not_suppresses (Lookback.suppresses_push_push
      (not_shields_of_isOn_separator hl) (not_shields_of_isBlank hb)))

end Piece

end PagePrep
