import PagePrep.Proofs.Outcome
import PagePrep.Proofs.Text.LineEnding
import PagePrep.Region.Filling

/-!
# Layout of a page with regions

The regions of a page can be filled just where its lines have a layout: lines outside of regions,
and regions that one line opens and the next such line closes. Then the filled page has the same
layout but for the lines inside (`RegionKind.fillFrom_eq_ok_iff`).
-/

set_option autoImplicit false

namespace PagePrep

open Text

namespace RegionKind

/-- A line that neither opens nor closes a region. -/
def isPlain (kind : RegionKind) (line : String) : Bool := !kind.opens line && !kind.closes line

variable {kind : RegionKind} {line : String}

theorem isPlain_eq_true_iff :
    kind.isPlain line = true ↔ kind.opens line = false ∧ kind.closes line = false := by
  simp [isPlain]

theorem return_not_mem_beginWord (kind : RegionKind) : '\r' ∉ kind.beginWord.toList := by
  cases kind <;> decide

theorem return_not_mem_endWord (kind : RegionKind) : '\r' ∉ kind.endWord.toList := by
  cases kind <;> decide

theorem opens_chomp (kind : RegionKind) (line : String) :
    kind.opens (chomp line) = kind.opens line :=
  contains_chomp kind.return_not_mem_beginWord

theorem closes_chomp (kind : RegionKind) (line : String) :
    kind.closes (chomp line) = kind.closes line :=
  contains_chomp kind.return_not_mem_endWord

theorem isPlain_chomp (kind : RegionKind) (line : String) :
    kind.isPlain (chomp line) = kind.isPlain line := by
  rw [isPlain, isPlain, opens_chomp, closes_chomp]

end RegionKind

/-! ## Layouts -/

/-- The lines of a page, told by the regions they stand in. -/
inductive Layout where
  /-- No region is left. -/
  | page (below : List String)
  /-- A region, with the lines above it and the layout of the lines below. -/
  | region (above : List String) (opening : String) (inner : List String) (closing : String)
      (rest : Layout)
  deriving Repr

namespace Layout

/-- All lines. -/
def lines : Layout → List String
  | page below => below
  | region above opening inner closing rest => above ++ opening :: (inner ++ closing :: rest.lines)

/-- The lines that open a region. -/
def openings : Layout → List String
  | page _ => []
  | region _ opening _ _ rest => opening :: rest.openings

/-- The lines outside of regions, and those that open and close one. -/
def outside : Layout → List String
  | page below => below
  | region above opening _ closing rest => above ++ opening :: closing :: rest.outside

/-- The layout with fresh lines inside each region, as `body` makes them of the opening line. -/
def fill (body : String → List String) : Layout → Layout
  | page below => page below
  | region above opening _ closing rest =>
    region above opening (body opening) closing (rest.fill body)

/-- The layout with each line altered. -/
def map (f : String → String) : Layout → Layout
  | page below => page (below.map f)
  | region above opening inner closing rest =>
    region (above.map f) (f opening) (inner.map f) (f closing) (rest.map f)

/-- The layout with one more line at the top. -/
def push (l : String) : Layout → Layout
  | page below => page (l :: below)
  | region above opening inner closing rest => region (l :: above) opening inner closing rest

/-- The opening and closing lines, and only these, open and close regions. -/
inductive Fits (kind : RegionKind) : Layout → Prop
  | page {below : List String} (plain : ∀ l ∈ below, kind.isPlain l = true) : Fits kind (page below)
  | region {above : List String} {opening : String} {inner : List String} {closing : String}
      {rest : Layout} (above_plain : ∀ l ∈ above, kind.isPlain l = true)
      (opens : kind.opens opening = true) (inner_plain : ∀ l ∈ inner, kind.isPlain l = true)
      (not_opens : kind.opens closing = false) (closes : kind.closes closing = true)
      (rest_fits : Fits kind rest) : Fits kind (region above opening inner closing rest)

variable {kind : RegionKind} {L : Layout} {f : String → String} {body : String → List String}

theorem Fits.push {l : String} (h : L.Fits kind) (hl : kind.isPlain l = true) :
    (push l L).Fits kind := by
  cases h with
  | page hp => exact .page (by simpa [hl] using hp)
  | region ha ho hi hn hc hr => exact .region (by simpa [hl] using ha) ho hi hn hc hr

theorem lines_push (l : String) (L : Layout) : (push l L).lines = l :: L.lines := by
  cases L <;> rfl

theorem openings_push (l : String) (L : Layout) : (push l L).openings = L.openings := by
  cases L <;> rfl

theorem fill_push (l : String) (L : Layout) : (push l L).fill body = (L.fill body).push l := by
  cases L <;> rfl

theorem opens_of_mem_openings {l : String} (hL : L.Fits kind) (h : l ∈ L.openings) :
    kind.opens l = true := by
  induction hL with
  | page _ => cases h
  | region _ ho _ _ _ _ ih =>
    rcases List.mem_cons.1 h with rfl | h
    · exact ho
    · exact ih h

theorem mem_lines_of_mem_outside {l : String} (h : l ∈ L.outside) : l ∈ L.lines := by
  induction L with
  | page below => exact h
  | region above opening inner closing rest ih =>
    simp only [outside, lines, List.mem_append, List.mem_cons] at h ⊢
    rcases h with h | h | h | h
    · exact .inl h
    · exact .inr (.inl h)
    · exact .inr (.inr (.inr (.inl h)))
    · exact .inr (.inr (.inr (.inr (ih h))))

theorem mem_outside_of_mem_openings {l : String} (h : l ∈ L.openings) : l ∈ L.outside := by
  induction L with
  | page below => cases h
  | region above opening inner closing rest ih =>
    simp only [outside, List.mem_append, List.mem_cons]
    rcases List.mem_cons.1 h with rfl | h
    · exact .inr (.inl rfl)
    · exact .inr (.inr (.inr (ih h)))

/-- A line of a filled layout stands outside of the regions or is one that fills a region. -/
theorem mem_lines_fill {l : String} :
    l ∈ (L.fill body).lines ↔ l ∈ L.outside ∨ ∃ o ∈ L.openings, l ∈ body o := by
  induction L with
  | page below => simp [fill, lines, outside, openings]
  | region above opening inner closing rest ih =>
    simp only [fill, lines, outside, openings, List.mem_append, List.mem_cons, ih,
      exists_eq_or_imp]
    tauto

theorem openings_fill (body : String → List String) (L : Layout) :
    (L.fill body).openings = L.openings := by
  induction L with
  | page below => rfl
  | region above opening inner closing rest ih => exact congrArg (opening :: ·) ih

theorem outside_fill (body : String → List String) (L : Layout) :
    (L.fill body).outside = L.outside := by
  induction L with
  | page below => rfl
  | region above opening inner closing rest ih => simp only [fill, outside, ih]

theorem fill_fill (body body' : String → List String) (L : Layout) :
    (L.fill body').fill body = L.fill body := by
  induction L with
  | page below => rfl
  | region above opening inner closing rest ih => simp only [fill, ih]

theorem Fits.fill (h : L.Fits kind) (hb : ∀ o ∈ L.openings, ∀ l ∈ body o, kind.isPlain l = true) :
    (L.fill body).Fits kind := by
  induction h with
  | page hp => exact .page hp
  | region ha ho _ hn hc _ ih =>
    exact .region ha ho (hb _ (by simp [openings])) hn hc
      (ih fun o hm => hb o (List.mem_cons_of_mem _ hm))

theorem outside_map (f : String → String) (L : Layout) : (L.map f).outside = L.outside.map f := by
  induction L with
  | page below => rfl
  | region above opening inner closing rest ih => simp [map, outside, ih]

theorem lines_map (f : String → String) (L : Layout) : (L.map f).lines = L.lines.map f := by
  induction L with
  | page below => rfl
  | region above opening inner closing rest ih => simp [map, lines, ih]

theorem map_openings (f : String → String) (L : Layout) : (L.map f).openings = L.openings.map f := by
  induction L with
  | page below => rfl
  | region above opening inner closing rest ih => simp [map, openings, ih]

theorem fits_map_chomp (h : L.Fits kind) : (L.map chomp).Fits kind := by
  have plain {ls : List String} (hp : ∀ l ∈ ls, kind.isPlain l = true) :
      ∀ l ∈ ls.map chomp, kind.isPlain l = true := by
    intro l hl
    obtain ⟨k, hk, rfl⟩ := List.mem_map.1 hl
    rw [RegionKind.isPlain_chomp, hp k hk]
  induction h with
  | page hb => exact .page (plain hb)
  | region ha ho hi hn hc _ ih =>
    exact .region (plain ha) (by rw [RegionKind.opens_chomp, ho]) (plain hi)
      (by rw [RegionKind.opens_chomp, hn]) (by rw [RegionKind.closes_chomp, hc]) ih

section Fixed

variable (h : ∀ l ∈ L.outside, f l = l)
include h

theorem openings_map : (L.map f).openings = L.openings := by
  induction L with
  | page below => rfl
  | region above opening inner closing rest ih =>
    simp only [outside, List.mem_append, List.mem_cons, or_imp, forall_and, forall_eq] at h
    simp only [map, openings, h.2.1, ih h.2.2.2]

/-- Alterations that leave the lines outside of regions are lost once the regions are filled. -/
theorem fill_map : (L.map f).fill body = L.fill body := by
  induction L with
  | page below => exact congrArg page ((List.map_congr_left h).trans (List.map_id below))
  | region above opening inner closing rest ih =>
    simp only [outside, List.mem_append, List.mem_cons, or_imp, forall_and, forall_eq] at h
    have ha : above.map f = above := (List.map_congr_left h.1).trans (List.map_id above)
    simp only [map, fill, ha, h.2.1, h.2.2.1, ih h.2.2.2]

/-- Such alterations of a filled page may be made before the regions are filled. -/
theorem map_lines_fill :
    (L.fill body).lines.map f = (L.fill fun o => (body o).map f).lines := by
  induction L with
  | page below => exact (List.map_congr_left h).trans (List.map_id below)
  | region above opening inner closing rest ih =>
    simp only [outside, List.mem_append, List.mem_cons, or_imp, forall_and, forall_eq] at h
    have ha : above.map f = above := (List.map_congr_left h.1).trans (List.map_id above)
    simp only [fill, lines, List.map_append, List.map_cons, ha, h.2.1, h.2.2.1, ih h.2.2.2]

end Fixed

/-- What has a property stands no earlier than behind a prefix of elements that lack it. -/
theorem append_cons_cases {α : Type} {p : α → Bool} {as bs above rest : List α} {b o : α}
    (ha : ∀ a ∈ as, p a = false) (ho : p o = true) (h : as ++ b :: bs = above ++ o :: rest) :
    (as = above ∧ b = o ∧ bs = rest) ∨
      ∃ between, above = as ++ b :: between ∧ bs = between ++ o :: rest := by
  rcases List.append_eq_append_iff.1 h with ⟨between, rfl, hb⟩ | ⟨between, rfl, hb⟩
  · cases between with
    | nil =>
      obtain ⟨rfl, rfl⟩ := List.cons.inj hb
      exact .inl ⟨(List.append_nil as).symm, rfl, rfl⟩
    | cons x between =>
      obtain ⟨rfl, rfl⟩ := List.cons.inj hb
      exact .inr ⟨between, rfl, rfl⟩
  · cases between with
    | nil =>
      obtain ⟨rfl, rfl⟩ := List.cons.inj hb
      exact .inl ⟨List.append_nil above, rfl, rfl⟩
    | cons x between =>
      obtain ⟨rfl, -⟩ := List.cons.inj hb
      rw [ha o (by simp)] at ho
      cases ho

theorem fill_congr {body' : String → List String} (h : ∀ o ∈ L.openings, body o = body' o) :
    L.fill body = L.fill body' := by
  induction L with
  | page below => rfl
  | region above opening inner closing rest ih =>
    rw [fill, fill, h opening (by simp [openings]), ih fun o ho => h o (List.mem_cons_of_mem _ ho)]

/-- A line that opens a region takes a layout apart. -/
theorem Fits.exists_split {above rest : List String} {opening : String} (hL : L.Fits kind)
    (h : L.lines = above ++ opening :: rest) (ho : kind.opens opening = true) :
    ∃ (upper : Layout) (closing : String) (lower : Layout), upper.Fits kind ∧ upper.lines = above ∧
      kind.closes closing = true ∧ ∀ body, (L.fill body).lines =
        (upper.fill body).lines ++ opening :: (body opening ++ closing :: (lower.fill body).lines) := by
  induction hL generalizing above with
  | page hp =>
    have hm := hp opening (by show opening ∈ lines (.page _); rw [h]; simp)
    rw [(RegionKind.isPlain_eq_true_iff.1 hm).1] at ho
    cases ho
  | @region above₁ opening₁ inner closing₁ lower ha ho₁ hi hn hc hlower ih =>
    have plain {ls : List String} (hp : ∀ l ∈ ls, kind.isPlain l = true) :
        ∀ l ∈ ls, kind.opens l = false := fun l hl => (RegionKind.isPlain_eq_true_iff.1 (hp l hl)).1
    rcases append_cons_cases (plain ha) ho h with ⟨rfl, rfl, rfl⟩ | ⟨between, rfl, hb⟩
    · exact ⟨.page above₁, closing₁, lower, .page ha, rfl, hc, fun body => rfl⟩
    · -- the line opens a region below the first one
      rcases append_cons_cases (plain hi) ho hb with ⟨-, rfl, -⟩ | ⟨between', rfl, hb'⟩
      · rw [hn] at ho
        cases ho
      · obtain ⟨upper, closing, lower', hu, rfl, hcl, hf⟩ := ih hb'
        refine ⟨.region above₁ opening₁ inner closing₁ upper, closing, lower',
          .region ha ho₁ hi hn hc hu, rfl, hcl, fun body => ?_⟩
        simp only [Layout.fill, Layout.lines, hf, List.append_assoc, List.cons_append]

end Layout

/-! ## Filling -/

namespace RegionKind

variable {ε : Type} (kind : RegionKind) (refuse : RegionFault → ε)
  (fill : Url → Except ε (List String))

/-- The lines for the region that a line opens. -/
def linesFor (line : String) : Except ε (List String) := do
  let url ← (addressOfLine line).mapError refuse
  fill url

/-- The same lines, or none if the line gives no address to fill from. -/
def bodyFor (line : String) : List String := (linesFor refuse fill line).toOption.getD []

variable {kind refuse fill} {ls : List String}

theorem linesFor_eq_bodyFor {line : String} (h : linesFor refuse fill line = .ok ls) :
    linesFor refuse fill line = .ok (bodyFor refuse fill line) := by
  rw [bodyFor, h]
  rfl

section Steps

variable {line : String} {out rest : List String}

theorem fillFrom_plain (h : kind.isPlain line = true) (n : Nat) :
    kind.fillFrom refuse fill none n (line :: rest) =
      (kind.fillFrom refuse fill none (n + 1) rest).map (line :: ·) := by
  rw [isPlain_eq_true_iff] at h
  simp only [fillFrom, h, Bool.false_eq_true, if_false]
  cases kind.fillFrom refuse fill none (n + 1) rest <;> rfl

theorem fillFrom_inner (h : kind.isPlain line = true) (earlier n : Nat) :
    kind.fillFrom refuse fill (some earlier) n (line :: rest) =
      kind.fillFrom refuse fill (some earlier) (n + 1) rest := by
  rw [isPlain_eq_true_iff] at h
  simp only [fillFrom, h, Bool.false_eq_true, if_false]

theorem fillFrom_opening (h : kind.opens line = true) (n : Nat) :
    kind.fillFrom refuse fill none n (line :: rest) =
      linesFor refuse fill line >>= fun body =>
        (kind.fillFrom refuse fill (some n) (n + 1) rest).map fun below =>
          line :: (body ++ below) := by
  simp only [fillFrom, h, if_true, linesFor, bind_assoc]
  rfl

theorem fillFrom_closing (ho : kind.opens line = false) (h : kind.closes line = true)
    (earlier n : Nat) :
    kind.fillFrom refuse fill (some earlier) n (line :: rest) =
      (kind.fillFrom refuse fill none (n + 1) rest).map (line :: ·) := by
  simp only [fillFrom, ho, h, Bool.false_eq_true, if_false, if_true]
  cases kind.fillFrom refuse fill none (n + 1) rest <;> rfl

end Steps

section Success

variable {out rest : List String}

theorem fillFrom_above (hp : ∀ l ∈ ls, kind.isPlain l = true)
    (h : ∀ n, kind.fillFrom refuse fill none n rest = .ok out) (n : Nat) :
    kind.fillFrom refuse fill none n (ls ++ rest) = .ok (ls ++ out) := by
  induction ls generalizing n with
  | nil => exact h n
  | cons l ls ih =>
    rw [List.cons_append, fillFrom_plain (hp l (by simp)),
      ih (fun k hk => hp k (List.mem_cons_of_mem _ hk))]
    rfl

theorem fillFrom_inside (hp : ∀ l ∈ ls, kind.isPlain l = true) {earlier : Nat}
    (h : ∀ n, kind.fillFrom refuse fill (some earlier) n rest = .ok out) (n : Nat) :
    kind.fillFrom refuse fill (some earlier) n (ls ++ rest) = .ok out := by
  induction ls generalizing n with
  | nil => exact h n
  | cons l ls ih =>
    rw [List.cons_append, fillFrom_inner (hp l (by simp)),
      ih (fun k hk => hp k (List.mem_cons_of_mem _ hk))]

/-- A page with a layout is filled, if there is something to fill each region with. -/
theorem fillFrom_lines {L : Layout} (hL : L.Fits kind)
    (hb : ∀ o ∈ L.openings, linesFor refuse fill o = .ok (bodyFor refuse fill o)) (n : Nat) :
    kind.fillFrom refuse fill none n L.lines = .ok (L.fill (bodyFor refuse fill)).lines := by
  induction hL generalizing n with
  | @page below hp =>
    have he (n : Nat) : kind.fillFrom refuse fill none n [] = .ok [] := rfl
    simpa [Layout.lines, Layout.fill] using fillFrom_above hp he n
  | @region above opening inner closing rest ha ho hi hn hc _ ih =>
    have hr := ih fun o h => hb o (List.mem_cons_of_mem _ h)
    have hclosing (earlier n : Nat) :
        kind.fillFrom refuse fill (some earlier) n (closing :: rest.lines) =
          .ok (closing :: (rest.fill (bodyFor refuse fill)).lines) := by
      rw [fillFrom_closing hn hc, hr]
      rfl
    apply fillFrom_above ha
    intro n
    rw [fillFrom_opening ho, hb opening (by simp [Layout.openings])]
    show Except.map _ _ = _
    rw [fillFrom_inside hi (hclosing n)]
    rfl

/-- Inside of a region, lines that are filled reach the line that closes the region. -/
theorem exists_closing {earlier n : Nat}
    (h : kind.fillFrom refuse fill (some earlier) n ls = .ok out) :
    ∃ inner closing rest below m, (∀ l ∈ inner, kind.isPlain l = true) ∧
      kind.opens closing = false ∧ kind.closes closing = true ∧ ls = inner ++ closing :: rest ∧
      out = closing :: below ∧ kind.fillFrom refuse fill none m rest = .ok below := by
  induction ls generalizing n with
  | nil => cases h
  | cons l ls ih =>
    cases ho : kind.opens l with
    | true => simp [fillFrom, ho] at h
    | false =>
      cases hc : kind.closes l with
      | true =>
        rw [fillFrom_closing ho hc, map_eq_ok_iff] at h
        obtain ⟨below, hr, rfl⟩ := h
        exact ⟨[], l, ls, below, n + 1, by simp, ho, hc, rfl, rfl, hr⟩
      | false =>
        have hp : kind.isPlain l = true := isPlain_eq_true_iff.2 ⟨ho, hc⟩
        rw [fillFrom_inner hp] at h
        obtain ⟨inner, closing, rest, below, m, hi, hn, hk, rfl, rfl, hr⟩ := ih h
        exact ⟨l :: inner, closing, rest, below, m, by simpa [hp] using hi, hn, hk, rfl, rfl, hr⟩

/-- Lines that are filled have a layout. -/
theorem exists_layout {n : Nat} (h : kind.fillFrom refuse fill none n ls = .ok out) :
    ∃ L : Layout, L.Fits kind ∧ L.lines = ls ∧
      (∀ o ∈ L.openings, linesFor refuse fill o = .ok (bodyFor refuse fill o)) ∧
      (L.fill (bodyFor refuse fill)).lines = out := by
  generalize hk : ls.length = k
  induction k using Nat.strongRecOn generalizing ls n out with
  | ind k ih =>
    cases ls with
    | nil => exact ⟨.page [], .page (by simp), rfl, by simp [Layout.openings], Except.ok.inj h⟩
    | cons l ls =>
      cases ho : kind.opens l with
      | true =>
        rw [fillFrom_opening ho, bind_eq_ok_iff] at h
        obtain ⟨body, hb, h⟩ := h
        obtain ⟨inside, hi, rfl⟩ := map_eq_ok_iff.1 h
        obtain ⟨inner, closing, rest, below, m, hp, hn, hc, rfl, rfl, hr⟩ := exists_closing hi
        obtain ⟨L, hL, rfl, hbs, rfl⟩ := ih rest.length (by simp at hk; omega) hr rfl
        have hb' : body = bodyFor refuse fill l := by rw [bodyFor, hb]; rfl
        refine ⟨.region [] l inner closing L, .region (by simp) ho hp hn hc hL, rfl, ?_, ?_⟩
        · intro o hm
          rcases List.mem_cons.1 hm with rfl | hm
          · exact linesFor_eq_bodyFor hb
          · exact hbs o hm
        · rw [hb']
          rfl
      | false =>
        cases hc : kind.closes l with
        | true => simp [fillFrom, ho, hc] at h
        | false =>
          have hp : kind.isPlain l = true := isPlain_eq_true_iff.2 ⟨ho, hc⟩
          rw [fillFrom_plain hp, map_eq_ok_iff] at h
          obtain ⟨below, hr, rfl⟩ := h
          obtain ⟨L, hL, rfl, hb, rfl⟩ := ih _ (by simp at hk; omega) hr rfl
          exact ⟨L.push l, hL.push hp, Layout.lines_push l L, by rwa [Layout.openings_push],
            by rw [Layout.fill_push, Layout.lines_push]⟩

end Success

/-- The regions of a page are filled just where the page has a layout and there is something to
fill each region with. -/
theorem fillFrom_eq_ok_iff {n : Nat} {out : List String} :
    kind.fillFrom refuse fill none n ls = .ok out ↔
      ∃ L : Layout, L.Fits kind ∧ L.lines = ls ∧
        (∀ o ∈ L.openings, linesFor refuse fill o = .ok (bodyFor refuse fill o)) ∧
        (L.fill (bodyFor refuse fill)).lines = out := by
  constructor
  · exact exists_layout
  · rintro ⟨L, hL, rfl, hb, rfl⟩
    exact fillFrom_lines hL hb n

end RegionKind

theorem Fetched.fill_eq_ok_iff {α : Type} {fetched : Fetched α} {kind : RegionKind}
    {render : α → List String} {url : Url} {ls : List String} :
    fetched.fill kind render url = .ok ls ↔
      ∃ content, fetched.get? url = some content ∧ render content = ls := by
  unfold Fetched.fill
  cases fetched.get? url <;> simp

end PagePrep
