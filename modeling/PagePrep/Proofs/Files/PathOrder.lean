import PagePrep.Files.Path
import PagePrep.Proofs.Text.Lines
import PagePrep.Run.Discovery
import Mathlib.Data.List.Lex
import Mathlib.Tactic.SplitIfs

/-!
# The order of paths

Paths are compared part by part and names byte by byte, while the listing of pages goes by the names
below a root and by the characters of names. UTF-8 keeps the order of characters
(`lex_utf8EncodeChar`), and a path from a root has the parts of the root and then one for each name
(`Path.parts_joinAll`), so the two orders agree (`Path.before_joinAll`).
-/

set_option autoImplicit false

namespace PagePrep

open Text

namespace Path

/-- A part of a path, as paths are compared. -/
inductive Part where
  /-- The start of an absolute path. -/
  | top
  /-- A first step that stays in place. -/
  | here
  /-- A step up. -/
  | up
  | name (s : String)
  deriving DecidableEq, Repr

/-- The part that a step gives, unless it stays in place. -/
def Part.ofStep? (step : String) : Option Part :=
  if step = "." then none else if step = ".." then some .up else some (.name step)

/-- The parts of a path. Steps that stay in place are left out unless the path starts with one. -/
def parts (path : String) : List Part :=
  (if isAbsolute path then [.top]
    else if (steps path).head? = some "." then [.here] else []) ++
    (steps path).filterMap Part.ofStep?

/-- The bytes of a text. -/
def bytes (s : String) : List Nat := s.toUTF8.data.toList.map UInt8.toNat

/-- What parts are compared by: the start of an absolute path comes first, then steps, and then names by
their bytes. -/
def Part.key : Part → List Nat
  | top => [0]
  | here => [1]
  | up => [2]
  | name s => 3 :: bytes s

/-- Whether a path comes before another: part by part, and names byte by byte. -/
def Before (p q : String) : Prop :=
  List.Lex (List.Lex (· < ·)) ((parts p).map Part.key) ((parts q).map Part.key)

theorem Before.ne {p q : String} (h : Before p q) : p ≠ q := by
  rintro rfl
  exact irrefl_of (List.Lex (List.Lex (· < ·))) _ h

/-- What can be the name of something in a folder. -/
structure IsName (s : String) : Prop where
  nonempty : s ≠ ""
  noSlash : '/' ∉ s.toList
  noNul : '\x00' ∉ s.toList
  noStep : s ≠ "." ∧ s ≠ ".."
  short : s.utf8ByteSize ≤ nameLimit

instance (s : String) : Decidable (IsName s) :=
  decidable_of_iff (s ≠ "" ∧ '/' ∉ s.toList ∧ '\x00' ∉ s.toList ∧ (s ≠ "." ∧ s ≠ "..") ∧
      s.utf8ByteSize ≤ nameLimit)
    ⟨fun ⟨h, hs, h0, hn, hl⟩ => ⟨h, hs, h0, hn, hl⟩, fun ⟨h, hs, h0, hn, hl⟩ => ⟨h, hs, h0, hn, hl⟩⟩

end Path

/-! ## Bytes and characters -/

theorem bytes_eq (s : String) :
    Path.bytes s = (s.toList.flatMap String.utf8EncodeChar).map UInt8.toNat := by
  have h : s.toUTF8 = s.toList.utf8Encode := String.utf8Encode_toList.symm
  rw [Path.bytes, h, List.utf8Encode, List.toList_data_toByteArray]

/-- Lists of bytes are ordered by their first bytes, and by the others if these are the same. -/
theorem lex_map_toNat {m n : Nat} {xs ys : List UInt8} (hle : m ≤ n) (hn : n < 256)
    (h : m = n → List.Lex (· < ·) (xs.map UInt8.toNat) (ys.map UInt8.toNat)) :
    List.Lex (· < ·) ((UInt8.ofNat m :: xs).map UInt8.toNat)
      ((UInt8.ofNat n :: ys).map UInt8.toNat) := by
  have hm' : (UInt8.ofNat m).toNat = m := UInt8.toNat_ofNat_of_lt' (by simp [UInt8.size]; omega)
  have hn' : (UInt8.ofNat n).toNat = n := UInt8.toNat_ofNat_of_lt' (by simp [UInt8.size]; omega)
  rw [List.map_cons, List.map_cons, hm', hn']
  rcases Nat.lt_or_eq_of_le hle with hlt | rfl
  · exact .rel hlt
  · exact .cons (h rfl)

/-- UTF-8 keeps the order of characters, whatever follows them. -/
theorem lex_utf8EncodeChar {c d : Char} (h : c.toNat < d.toNat) (xs ys : List UInt8) :
    List.Lex (· < ·) ((String.utf8EncodeChar c ++ xs).map UInt8.toNat)
      ((String.utf8EncodeChar d ++ ys).map UInt8.toNat) := by
  have hd : d.toNat < 0x110000 := by
    have hv : d.val.toNat < 0xd800 ∨ 0xdfff < d.val.toNat ∧ d.val.toNat < 0x110000 := d.valid
    show d.val.toNat < _
    omega
  simp only [String.utf8EncodeChar, show c.val.toNat = c.toNat from rfl,
    show d.val.toNat = d.toNat from rfl]
  -- the first byte tells the length, and the bytes are the digits of the character
  split_ifs <;> simp only [List.cons_append, List.nil_append] <;>
    (repeat refine lex_map_toNat (by omega) (by omega) fun _ => ?_) <;> omega

/-! ## The order of a listing -/

/-- Characters in order have their bytes in order. -/
theorem lex_of_charsLe {as bs : List Char} (h : FileTree.charsLe as bs = true) (hne : as ≠ bs) :
    List.Lex (· < ·) ((as.flatMap String.utf8EncodeChar).map UInt8.toNat)
      ((bs.flatMap String.utf8EncodeChar).map UInt8.toNat) := by
  induction as generalizing bs with
  | nil =>
    cases bs with
    | nil => exact absurd rfl hne
    | cons b bs =>
      obtain ⟨x, xs, hx⟩ := List.exists_cons_of_ne_nil (String.utf8EncodeChar_ne_nil (c := b))
      rw [List.flatMap_cons, hx]
      exact .nil
  | cons a as ih =>
    cases bs with
    | nil => cases h
    | cons b bs =>
      rw [FileTree.charsLe] at h
      rw [List.flatMap_cons, List.flatMap_cons]
      split at h
      · rename_i hab
        subst hab
        rw [List.map_append, List.map_append]
        exact .append_left _ (ih h fun e => hne (e ▸ rfl)) _
      · exact lex_utf8EncodeChar (by simpa using h) _ _

/-- Names in order come before one another name by name. -/
theorem lex_of_namesLe {ns ms : List String} (h : FileTree.namesLe ns ms = true) (hne : ns ≠ ms) :
    List.Lex (List.Lex (· < ·)) (ns.map fun n => (Path.Part.name n).key)
      (ms.map fun n => (Path.Part.name n).key) := by
  induction ns generalizing ms with
  | nil =>
    cases ms with
    | nil => exact absurd rfl hne
    | cons m ms => exact .nil
  | cons n ns ih =>
    cases ms with
    | nil => cases h
    | cons m ms =>
      rw [FileTree.namesLe] at h
      split at h
      · rename_i hnm
        subst hnm
        exact .cons (ih h fun e => hne (e ▸ rfl))
      · rename_i hnm
        refine .rel (.cons ?_)
        rw [bytes_eq, bytes_eq]
        exact lex_of_charsLe h (mt String.toList_inj.1 hnm)

/-! ## Paths from a root -/

namespace Path

section Join

variable {base name : String} (hb : base ≠ "") (hn : IsName name)

theorem ofStep?_of_isName (hn : IsName name) : Part.ofStep? name = some (.name name) := by
  rw [Part.ofStep?, if_neg hn.noStep.1, if_neg hn.noStep.2]

include hb

theorem join_ne_empty (sub : String) : join base sub ≠ "" := by
  rw [join]
  split
  · rename_i h
    rintro rfl
    cases h
  · split <;> simp [hb]

/-- A path that is not absolute has a first step. -/
theorem steps_ne_nil (ha : isAbsolute base = false) : steps base ≠ [] := by
  obtain ⟨c, cs, hc⟩ := List.exists_cons_of_ne_nil (l := base.toList) (by simpa using hb)
  have hs : c ≠ '/' := by
    rintro rfl
    rw [isAbsolute, hc] at ha
    cases ha
  rw [steps, hc, splitAt, if_neg hs]
  split <;> simp

include hn

/-- A name is joined to a path with one slash between them. -/
theorem toList_join : ∃ cs, (base.toList = cs ∨ base.toList = cs ++ ['/']) ∧
    (join base name).toList = cs ++ '/' :: name.toList := by
  have hs : isAbsolute name = false := by
    rw [isAbsolute, beq_eq_false_iff_ne]
    exact fun h => hn.noSlash (List.mem_of_head? h)
  have he : base.isEmpty = false := by simpa using hb
  by_cases h : endsInSlash base = true
  · obtain ⟨cs, hc⟩ := List.getLast?_eq_some_iff.1 (by simpa [endsInSlash] using h)
    exact ⟨cs, .inr hc, by simp [join, hs, h, hc]⟩
  · refine ⟨base.toList, .inl rfl, ?_⟩
    rw [join, hs, he, if_neg (by decide), if_neg (by simpa using h)]
    simp

theorem steps_join : steps (join base name) = steps base ++ [name] := by
  obtain ⟨cs, hc, hj⟩ := toList_join hb hn
  have hname : (splitAt '/' name.toList).filter (fun p => !p.isEmpty) = [name.toList] := by
    rw [splitAt_of_not_mem hn.noSlash]
    simp [hn.nonempty]
  have hbase : (splitAt '/' base.toList).filter (fun p => !p.isEmpty) =
      (splitAt '/' cs).filter fun p => !p.isEmpty := by
    rcases hc with hc | hc <;> rw [hc]
    rw [splitAt_append_cons]
    simp [splitAt]
  rw [steps, steps, hj, splitAt_append_cons, List.filter_append, hname, hbase, List.map_append]
  simp

theorem isAbsolute_join : isAbsolute (join base name) = isAbsolute base := by
  obtain ⟨cs, hc, hj⟩ := toList_join hb hn
  rw [isAbsolute, isAbsolute, hj]
  rcases hc with hc | hc <;> rw [hc]
  · obtain ⟨c, rest, rfl⟩ := List.exists_cons_of_ne_nil (l := cs) (by rw [← hc]; simpa using hb)
    rfl
  · cases cs <;> rfl

/-- A path with a name at its end has one part more. -/
theorem parts_join : parts (join base name) = parts base ++ [.name name] := by
  rw [parts, parts, isAbsolute_join hb hn, steps_join hb hn, List.filterMap_append,
    List.filterMap_cons_some (ofStep?_of_isName hn), List.filterMap_nil, ← List.append_assoc]
  congr 2
  split
  · rfl
  · rename_i h
    obtain ⟨step, rest, hs⟩ := List.exists_cons_of_ne_nil (steps_ne_nil hb (by simpa using h))
    rw [hs]
    rfl

end Join

/-- A path from a root has the parts of the root, and then one for each name. -/
theorem parts_joinAll {root : String} (hr : root ≠ "") {names : List String}
    (hs : ∀ n ∈ names, IsName n) : parts (joinAll root names) = parts root ++ names.map .name := by
  induction names generalizing root with
  | nil => simp [joinAll]
  | cons n names ih =>
    have hn := hs n List.mem_cons_self
    show parts (joinAll (join root n) names) = _
    rw [ih (join_ne_empty hr n) fun m hm => hs m (List.mem_cons_of_mem _ hm), parts_join hr hn,
      List.map_cons, List.append_assoc]
    rfl

/-- Names in order give paths in order. -/
theorem before_joinAll {root : String} (hr : root ≠ "") {ns ms : List String}
    (hn : ∀ n ∈ ns, IsName n) (hm : ∀ m ∈ ms, IsName m) (hle : FileTree.namesLe ns ms = true)
    (hne : ns ≠ ms) : Before (joinAll root ns) (joinAll root ms) := by
  rw [Before, parts_joinAll hr hn, parts_joinAll hr hm, List.map_append, List.map_append,
    List.map_map, List.map_map]
  exact .append_left _ (lex_of_namesLe hle hne) _

/-- As texts these paths are in the other order. -/
example : Before "docs/sub/page.md" "docs/sub.md/page.md" := by
  unfold Before
  decide +kernel

end Path

end PagePrep
