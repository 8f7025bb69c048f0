import PagePrep.Proofs.Region.Refilling

/-!
# Filling by the signs on lines

A line may open a region, close one or do neither. Filling reads the lines once, from top to bottom, and
stops at the first fault. The same comes of looking at each line by its position: at the last sign above
it, and at nothing else (`RegionKind.fillFrom_eq_by_position`). So the pages that can be filled are those
on which opening and closing lines take turns (`RegionKind.paired_iff_exists_layout`), and each fault has
one place where it is found.
-/

set_option autoImplicit false

namespace PagePrep

open Text

/-- What a line may say about the regions of a page. -/
inductive RegionSign where
  | opening
  | closing
  deriving DecidableEq, Repr

namespace RegionKind

variable {ε : Type} (kind : RegionKind) (refuse : RegionFault → ε)
  (fill : Url → Except ε (List String)) (body : String → List String)

/-- The sign on a line. A line with both words opens a region. -/
def sign? (line : String) : Option RegionSign :=
  if kind.opens line then some .opening else if kind.closes line then some .closing else none

/-- The signs on some lines, in order. -/
def signs (ls : List String) : List RegionSign := ls.filterMap kind.sign?

/-- Opening and closing signs take turns, an opening one first and a closing one last. -/
def Paired (ls : List String) : Prop :=
  ∃ n, kind.signs ls = (List.replicate n [.opening, .closing]).flatten

/-- The number of the line that opened the region in which line `i` stands, if it stands in one: the last
line above with a sign, if this sign opens. Lines are counted from zero. -/
def openedAt? (ls : List String) (i : Nat) : Option Nat :=
  match ((ls.take i).zipIdx.filter fun e => (kind.sign? e.1).isSome).getLast? with
  | some e => if kind.opens e.1 then some e.2 else none
  | none => none

/-- The number of the last line that opens a region. -/
def lastOpening? (ls : List String) : Option Nat :=
  (ls.zipIdx.filter fun e => kind.opens e.1).getLast?.map Prod.snd

/-- What is wrong with a numbered line. On a line that opens a region this is first that another region
is still open, then that the line gives no address, then that there is nothing to fill from there. -/
def faultAt? (ls : List String) (e : String × Nat) : Option ε :=
  match kind.sign? e.1, kind.openedAt? ls e.2 with
  | some .opening, some earlier => some (refuse (.nested kind (e.2 + 1) (earlier + 1)))
  | some .opening, none =>
    match addressOfLine e.1 with
    | .error f => some (refuse f)
    | .ok url =>
      match fill url with
      | .error f => some f
      | .ok _ => none
  | some .closing, none => some (refuse (.strayEnd kind (e.2 + 1)))
  | _, _ => none

/-- What is wrong with the first faulty line. -/
def firstFault? (ls : List String) : Option ε := ls.zipIdx.findSome? (kind.faultAt? refuse fill ls)

/-- What a numbered line becomes: one that opens a region stays and has the fresh lines below it, and one
without a sign goes if it stands in a region. -/
def shownAt (ls : List String) (e : String × Nat) : List String :=
  match kind.sign? e.1, kind.openedAt? ls e.2 with
  | some .opening, _ => e.1 :: body e.1
  | none, some _ => []
  | _, _ => [e.1]

/-- What some lines become. -/
def shown (ls : List String) : List String := ls.zipIdx.flatMap (kind.shownAt body ls)

/-- What filling comes to: the first fault, or else that the region which line `opened` opened is still
open, or else the lines made. -/
def outcome : Option ε → Option Nat → List String → Except ε (List String)
  | some f, _, _ => .error f
  | none, some opened, _ => .error (refuse (.unclosed kind (opened + 1)))
  | none, none, out => .ok out

variable {kind refuse fill body} {above rest ls : List String} {line : String}

/-! ## Signs -/

theorem sign?_eq_opening_iff : kind.sign? line = some .opening ↔ kind.opens line = true := by
  unfold sign?
  cases kind.opens line <;> cases kind.closes line <;> simp

theorem sign?_eq_closing_iff :
    kind.sign? line = some .closing ↔ kind.opens line = false ∧ kind.closes line = true := by
  unfold sign?
  cases kind.opens line <;> cases kind.closes line <;> simp

theorem sign?_eq_none_iff : kind.sign? line = none ↔ kind.isPlain line = true := by
  unfold sign? isPlain
  cases kind.opens line <;> cases kind.closes line <;> simp

theorem signs_of_plain (h : ∀ l ∈ ls, kind.isPlain l = true) : kind.signs ls = [] := by
  rw [signs, List.filterMap_eq_nil_iff]
  exact fun l hl => sign?_eq_none_iff.2 (h l hl)

/-- Signs take turns just where the lines have a layout. -/
theorem paired_iff_exists_layout :
    kind.Paired ls ↔ ∃ L : Layout, L.Fits kind ∧ L.lines = ls := by
  constructor
  · rintro ⟨n, hn⟩
    induction n generalizing ls with
    | zero =>
      refine ⟨.page ls, .page fun l hl => ?_, rfl⟩
      exact sign?_eq_none_iff.1 (List.filterMap_eq_nil_iff.1 hn l hl)
    | succ n ih =>
      -- the first two signs stand on the lines around a region
      have plain {ks : List String} (h : ∀ l ∈ ks, kind.sign? l = none) :
          ∀ l ∈ ks, kind.isPlain l = true := fun l hl => sign?_eq_none_iff.1 (h l hl)
      obtain ⟨above, opening, below, rfl, ha, ho, hbelow⟩ := List.filterMap_eq_cons_iff.1 hn
      obtain ⟨inner, closing, rest, rfl, hi, hc, hrest⟩ := List.filterMap_eq_cons_iff.1 hbelow
      obtain ⟨L, hL, rfl⟩ := ih hrest
      obtain ⟨hco, hcc⟩ := sign?_eq_closing_iff.1 hc
      exact ⟨.region above opening inner closing L,
        .region (plain ha) (sign?_eq_opening_iff.1 ho) (plain hi) hco hcc hL, rfl⟩
  · rintro ⟨L, hL, rfl⟩
    induction hL with
    | page hp => exact ⟨0, signs_of_plain hp⟩
    | @region above opening inner closing rest ha ho hi hn hc _ ih =>
      obtain ⟨n, ih⟩ := ih
      have hopening := sign?_eq_opening_iff.2 ho
      have hclosing := sign?_eq_closing_iff.2 ⟨hn, hc⟩
      refine ⟨n + 1, ?_⟩
      calc kind.signs (Layout.region above opening inner closing rest).lines
        _ = kind.signs above ++ .opening :: (kind.signs inner ++ .closing :: kind.signs rest.lines) := by
            simp [signs, Layout.lines, hopening, hclosing]
        _ = _ := by rw [signs_of_plain ha, signs_of_plain hi, ih]; rfl

/-! ## The last sign above a line -/

theorem openedAt?_append (rest : List String) :
    kind.openedAt? (above ++ rest) above.length = kind.openedAt? above above.length := by
  rw [openedAt?, openedAt?, List.take_left, List.take_length]

/-- One line further on. -/
theorem openedAt?_concat (above : List String) (line : String) :
    kind.openedAt? (above ++ [line]) (above ++ [line]).length =
      match kind.sign? line with
      | some .opening => some above.length
      | some .closing => none
      | none => kind.openedAt? above above.length := by
  rw [openedAt?, List.take_length, List.zipIdx_append, List.filter_append]
  cases hs : kind.sign? line with
  | none => simp [hs, openedAt?]
  | some sign =>
    cases sign with
    | opening => simp [hs, sign?_eq_opening_iff.1 hs]
    | closing => simp [hs, (sign?_eq_closing_iff.1 hs).1]

/-- A region that is still open was opened by the last line that opens one. -/
theorem lastOpening?_of_openedAt? {i : Nat} (h : kind.openedAt? ls ls.length = some i) :
    kind.lastOpening? ls = some i := by
  rw [openedAt?, List.take_length] at h
  cases hl : (ls.zipIdx.filter fun e => (kind.sign? e.1).isSome).getLast? with
  | none => simp [hl] at h
  | some e =>
    obtain ⟨earlier, he⟩ := List.getLast?_eq_some_iff.1 hl
    have hopens : kind.opens e.1 = true ∧ e.2 = i := by simpa [hl] using h
    -- of the lines with a sign, those are left that open
    have hf : (ls.zipIdx.filter fun e => kind.opens e.1) =
        (ls.zipIdx.filter fun e => (kind.sign? e.1).isSome).filter fun e => kind.opens e.1 := by
      rw [List.filter_filter]
      apply List.filter_congr
      intro e _
      unfold sign?
      cases kind.opens e.1 <;> simp
    rw [lastOpening?, hf, he]
    simp [List.filter_append, hopens]

/-! ## Reading from top to bottom -/

theorem fillFrom_nested (h : kind.opens line = true) (earlier n : Nat) (rest : List String) :
    kind.fillFrom refuse fill (some earlier) n (line :: rest) =
      .error (refuse (.nested kind n earlier)) := by
  simp [fillFrom, h]

theorem fillFrom_stray (ho : kind.opens line = false) (hc : kind.closes line = true) (n : Nat)
    (rest : List String) :
    kind.fillFrom refuse fill none n (line :: rest) = .error (refuse (.strayEnd kind n)) := by
  simp [fillFrom, ho, hc]

theorem map_outcome (f : List String → List String) (fault : Option ε) (opened : Option Nat)
    (out : List String) :
    (kind.outcome refuse fault opened out).map f = kind.outcome refuse fault opened (f out) := by
  cases fault <;> cases opened <;> rfl

/-- What filling comes to, told by the position of each line: the first fault, or else that a region is
still open at the end, or else what the lines become. The lines `above` were read before. -/
theorem fillFrom_eq_by_position (above rest : List String) :
    kind.fillFrom refuse fill ((kind.openedAt? above above.length).map (· + 1)) (above.length + 1)
        rest =
      kind.outcome refuse
        ((rest.zipIdx above.length).findSome? (kind.faultAt? refuse fill (above ++ rest)))
        (kind.openedAt? (above ++ rest) (above ++ rest).length)
        ((rest.zipIdx above.length).flatMap
          (kind.shownAt (bodyFor refuse fill) (above ++ rest))) := by
  induction rest generalizing above with
  | nil =>
    rw [List.append_nil]
    cases kind.openedAt? above above.length <;> rfl
  | cons line rest ih =>
    have hnext := ih (above ++ [line])
    rw [openedAt?_concat, List.append_assoc, List.singleton_append, List.length_append,
      List.length_singleton] at hnext
    have hopen : kind.openedAt? (above ++ line :: rest) above.length =
        kind.openedAt? above above.length := openedAt?_append _
    rw [List.zipIdx_cons, List.findSome?_cons, List.flatMap_cons, faultAt?, shownAt, hopen]
    cases hs : kind.sign? line with
    | none =>
      have hp := sign?_eq_none_iff.1 hs
      rw [hs] at hnext
      cases ho : kind.openedAt? above above.length with
      | none =>
        rw [ho] at hnext
        exact (fillFrom_plain hp _).trans (hnext ▸ map_outcome _ _ _ _)
      | some earlier =>
        rw [ho] at hnext
        exact (fillFrom_inner hp _ _).trans hnext
    | some sign =>
      rw [hs] at hnext
      cases sign with
      | opening =>
        have hl := sign?_eq_opening_iff.1 hs
        cases ho : kind.openedAt? above above.length with
        | some earlier => exact fillFrom_nested hl _ _ rest
        | none =>
          -- the line gives lines to fill with, or its fault is the first
          rw [Option.map_none, fillFrom_opening hl, bodyFor, linesFor]
          cases addressOfLine line with
          | error f => rfl
          | ok url =>
            cases hb : fill url with
            | error f => simp [Except.mapError, bind, Except.bind, hb, outcome]
            | ok body =>
              simp only [Except.mapError, bind, Except.bind, hb]
              exact hnext ▸ map_outcome _ _ _ _
      | closing =>
        obtain ⟨hn, hc⟩ := sign?_eq_closing_iff.1 hs
        cases ho : kind.openedAt? above above.length with
        | none => exact fillFrom_stray hn hc _ rest
        | some earlier => exact (fillFrom_closing hn hc _ _).trans (hnext ▸ map_outcome _ _ _ _)

theorem fillFrom_eq_outcome (ls : List String) :
    kind.fillFrom refuse fill none 1 ls =
      kind.outcome refuse (kind.firstFault? refuse fill ls) (kind.openedAt? ls ls.length)
        (kind.shown (bodyFor refuse fill) ls) :=
  fillFrom_eq_by_position [] ls

theorem outcome_eq_ok_iff {fault : Option ε} {opened : Option Nat} {out out' : List String} :
    kind.outcome refuse fault opened out = .ok out' ↔ fault = none ∧ opened = none ∧ out = out' := by
  cases fault <;> cases opened <;> simp [outcome]

theorem outcome_eq_error_iff {fault : Option ε} {opened : Option Nat} {out : List String} {e : ε} :
    kind.outcome refuse fault opened out = .error e ↔
      fault = some e ∨
        fault = none ∧ ∃ i, opened = some i ∧ e = refuse (.unclosed kind (i + 1)) := by
  cases fault <;> cases opened <;> simp [outcome, eq_comm]

/-- A line from which there is something to fill its region with. -/
theorem linesFor_eq_ok_iff {fresh : List String} :
    linesFor refuse fill line = .ok fresh ↔
      ∃ url, addressOfLine line = .ok url ∧ fill url = .ok fresh := by
  rw [linesFor, bind_eq_ok_iff]
  cases addressOfLine line <;> simp [Except.mapError]

/-- Of the fresh lines only those for opening lines matter. -/
theorem shown_congr {body' : String → List String}
    (h : ∀ l ∈ ls, kind.opens l = true → body l = body' l) : kind.shown body ls = kind.shown body' ls := by
  refine List.flatMap_congr fun e he => ?_
  have hl : e.1 ∈ ls := List.fst_mem_of_mem_zipIdx he
  unfold shownAt
  cases hs : kind.sign? e.1 with
  | none => cases kind.openedAt? ls e.2 <;> rfl
  | some sign =>
    cases sign with
    | opening => simp only [h e.1 hl (sign?_eq_opening_iff.1 hs)]
    | closing => rfl

/-- The first line of a page always stays. -/
theorem shown_eq_nil_iff : kind.shown body ls = [] ↔ ls = [] := by
  refine ⟨fun h => ?_, fun h => by rw [h]; rfl⟩
  cases ls with
  | nil => rfl
  | cons line rest =>
    have hfirst : kind.shownAt body (line :: rest) (line, 0) = [] :=
      List.flatMap_eq_nil_iff.1 h _ (by simp)
    have hopen : kind.openedAt? (line :: rest) 0 = none := rfl
    rw [shownAt, hopen] at hfirst
    cases hs : kind.sign? line with
    | none => simp [hs] at hfirst
    | some sign => cases sign <;> simp [hs] at hfirst

/-! ## Pages that can be filled -/

theorem fillFrom_of_paired (hp : kind.Paired ls)
    (hb : ∀ l ∈ ls, kind.opens l = true → linesFor refuse fill l = .ok (body l)) :
    kind.fillFrom refuse fill none 1 ls = .ok (kind.shown body ls) := by
  obtain ⟨L, hL, rfl⟩ := paired_iff_exists_layout.1 hp
  have hopening (o : String) (ho : o ∈ L.openings) :
      linesFor refuse fill o = .ok (bodyFor refuse fill o) := by
    rw [← Layout.filter_opens_lines hL, List.mem_filter] at ho
    exact linesFor_eq_bodyFor (hb o ho.1 ho.2)
  have hout := fillFrom_lines hL hopening 1
  have hshown := (outcome_eq_ok_iff.1 ((fillFrom_eq_outcome _).symm.trans hout)).2.2
  have hbody : kind.shown (bodyFor refuse fill) L.lines = kind.shown body L.lines :=
    shown_congr fun l hl ho => by rw [bodyFor, hb l hl ho]; rfl
  rw [hout, ← hshown, hbody]

theorem paired_of_fillFrom {out : List String} (h : kind.fillFrom refuse fill none 1 ls = .ok out) :
    kind.Paired ls ∧
      ∀ l ∈ ls, kind.opens l = true → linesFor refuse fill l = .ok (bodyFor refuse fill l) := by
  obtain ⟨L, hL, rfl, hb, -⟩ := fillFrom_eq_ok_iff.1 h
  refine ⟨paired_iff_exists_layout.2 ⟨L, hL, rfl⟩, fun l hl ho => hb l ?_⟩
  rw [← Layout.filter_opens_lines hL]
  exact List.mem_filter.2 ⟨hl, ho⟩

/-- Where no line is faulty, each line that opens a region has something to fill it with. -/
theorem linesFor_of_firstFault? (h : kind.firstFault? refuse fill ls = none) (hl : line ∈ ls)
    (ho : kind.opens line = true) : linesFor refuse fill line = .ok (bodyFor refuse fill line) := by
  obtain ⟨i, hi⟩ := List.mem_iff_getElem?.1 hl
  have hfault : kind.faultAt? refuse fill ls (line, i) = none :=
    List.findSome?_eq_none_iff.1 h _ (List.mk_mem_zipIdx_iff_getElem?.2 hi)
  rw [faultAt?, sign?_eq_opening_iff.2 ho] at hfault
  cases hopen : kind.openedAt? ls i with
  | some earlier => simp [hopen] at hfault
  | none =>
    cases ha : addressOfLine line with
    | error f => simp [hopen, ha] at hfault
    | ok url =>
      cases hf : fill url with
      | error f => simp [hopen, ha, hf] at hfault
      | ok fresh => exact linesFor_eq_bodyFor (linesFor_eq_ok_iff.2 ⟨url, ha, hf⟩)

/-- Where no line is faulty, a region stays open at the end just where the signs do not take turns. -/
theorem openedAt?_eq_some_iff (h : kind.firstFault? refuse fill ls = none) {i : Nat} :
    kind.openedAt? ls ls.length = some i ↔ ¬kind.Paired ls ∧ kind.lastOpening? ls = some i := by
  have hrun : kind.fillFrom refuse fill none 1 ls = _ := fillFrom_eq_outcome ls
  rw [h] at hrun
  constructor
  · intro hi
    refine ⟨fun hp => ?_, lastOpening?_of_openedAt? hi⟩
    rw [fillFrom_of_paired hp fun l hl => linesFor_of_firstFault? h hl, hi] at hrun
    cases hrun
  · rintro ⟨hp, hlast⟩
    cases hopen : kind.openedAt? ls ls.length with
    | none =>
      rw [hopen] at hrun
      exact absurd (paired_of_fillFrom hrun).1 hp
    | some j => exact (lastOpening?_of_openedAt? hopen).symm.trans hlast

variable (kind refuse fill) in
/-- **Filling regions, by the signs on the lines.** A page can be filled just where opening and closing
lines take turns and each line that opens a region gives an address with something to fill from. Then the
lines inside of regions go, those filled from an address stand below the line that opens the region, and
all others stay. Else the fault of the first faulty line is told, or, where no line has one, that the
region of the last opening line stays open. -/
theorem fillRegions_by_signs (text : String) :
    (∀ filled, kind.fillRegions refuse fill text = .ok filled ↔
      kind.Paired (lines text) ∧ ∃ body : String → List String,
        (∀ l ∈ lines text, kind.opens l = true →
          ∃ url, addressOfLine l = .ok url ∧ fill url = .ok (body l)) ∧
        filled = unlines (kind.shown body (lines text))) ∧
    (kind.fillRegions refuse fill text = .ok "" ↔ lines text = []) ∧
    ∀ e, kind.fillRegions refuse fill text = .error e ↔
      kind.firstFault? refuse fill (lines text) = some e ∨
        kind.firstFault? refuse fill (lines text) = none ∧ ¬kind.Paired (lines text) ∧
          ∃ i, kind.lastOpening? (lines text) = some i ∧ e = refuse (.unclosed kind (i + 1)) := by
  have hfilled (filled : String) : kind.fillRegions refuse fill text = .ok filled ↔
      kind.Paired (lines text) ∧ ∃ body : String → List String,
        (∀ l ∈ lines text, kind.opens l = true →
          ∃ url, addressOfLine l = .ok url ∧ fill url = .ok (body l)) ∧
        filled = unlines (kind.shown body (lines text)) := by
    rw [fillRegions, map_eq_ok_iff]
    constructor
    · rintro ⟨out, hout, rfl⟩
      obtain ⟨hp, hb⟩ := paired_of_fillFrom hout
      refine ⟨hp, bodyFor refuse fill, fun l hl ho => linesFor_eq_ok_iff.1 (hb l hl ho), ?_⟩
      rw [Except.ok.inj (hout.symm.trans (fillFrom_of_paired hp hb))]
    · rintro ⟨hp, body, hb, rfl⟩
      exact ⟨_, fillFrom_of_paired hp fun l hl ho => linesFor_eq_ok_iff.2 (hb l hl ho), rfl⟩
  refine ⟨hfilled, ?_, fun e => ?_⟩
  · rw [hfilled]
    constructor
    · rintro ⟨-, body, -, he⟩
      exact shown_eq_nil_iff.1 (unlines_eq_empty_iff.1 he.symm)
    · intro he
      rw [he]
      exact ⟨⟨0, rfl⟩, fun _ => [], by simp, rfl⟩
  · calc kind.fillRegions refuse fill text = .error e
      _ ↔ kind.fillFrom refuse fill none 1 (lines text) = .error e := by
          rw [fillRegions]
          cases kind.fillFrom refuse fill none 1 (lines text) <;> simp [Except.map]
      _ ↔ _ := by
          rw [fillFrom_eq_outcome, outcome_eq_error_iff]
          refine or_congr_right (and_congr_right fun hnone => ?_)
          simp only [openedAt?_eq_some_iff hnone, and_assoc, exists_and_left]

end RegionKind

end PagePrep
