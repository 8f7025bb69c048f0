import PagePrep.Proofs.Text.Lines
import PagePrep.Text.Blank

/-!
# The carriage return of a line ending

Taking the carriage return off the end of a line changes neither its trimmed text nor its words nor
what it holds. Over a written text it is the replacement of `\r\n` by `\n`, which leaves the text as
it was just where no line ends in a carriage return.
-/

set_option autoImplicit false

namespace PagePrep.Text

theorem toList_chomp (l : String) :
    l.toList = (chomp l).toList ∨ l.toList = (chomp l).toList ++ ['\r'] := by
  unfold chomp dropReturn
  split
  · rename_i held hd
    right
    have hr : l.toList = held.reverse ++ ['\r'] := by
      rw [← List.reverse_reverse l.toList, hd, List.reverse_cons]
    simpa using hr
  · left
    simp

@[simp] theorem chomp_empty : chomp "" = "" := rfl

theorem chomp_eq_self {l : String} (h : l.toList.getLast? ≠ some '\r') : chomp l = l := by
  rcases toList_chomp l with he | he
  · exact (String.toList_injective he).symm
  · rw [he, List.getLast?_concat] at h
    exact absurd rfl h

/-! ## What stays -/

theorem trimEnd_concat {c : Char} (cs : List Char) (h : isSpace c = true) :
    trimEnd (cs ++ [c]) = trimEnd cs := by
  simp [trimEnd, h]

theorem trimStart_concat {c : Char} (cs : List Char) (h : isSpace c = true) :
    trimStart (cs ++ [c]) = trimStart cs ∨ trimStart (cs ++ [c]) = trimStart cs ++ [c] := by
  unfold trimStart
  rw [List.dropWhile_append]
  split
  · rename_i he
    left
    rw [List.isEmpty_iff] at he
    simp [he, h]
  · exact .inr rfl

theorem trim_concat {s t : String} {c : Char} (h : isSpace c = true)
    (he : s.toList = t.toList ++ [c]) : trim s = trim t := by
  unfold trim
  rw [he]
  rcases trimStart_concat t.toList h with hs | hs
  · rw [hs]
  · rw [hs, trimEnd_concat _ h]

theorem trim_chomp (l : String) : trim (chomp l) = trim l := by
  rcases toList_chomp l with he | he
  · rw [String.toList_injective he.symm]
  · exact (trim_concat (by decide) he).symm

theorem isBlank_chomp (l : String) : isBlank (chomp l) = isBlank l := by
  have hr : isSpace '\r' = true := by decide
  unfold isBlank
  rcases toList_chomp l with he | he <;> rw [he]
  simp [hr]

theorem wordsFrom_concat {c : Char} (inside : Bool) (cs : List Char) (h : isSpace c = true) :
    wordsFrom inside (cs ++ [c]) = wordsFrom inside cs := by
  induction cs generalizing inside with
  | nil => simp [wordsFrom, h]
  | cons d cs ih => simp [wordsFrom, ih]

theorem wordCount_chomp (l : String) : wordCount (chomp l) = wordCount l := by
  unfold wordCount
  rcases toList_chomp l with he | he <;> rw [he]
  rw [wordsFrom_concat _ _ (by decide)]

theorem contains_chomp {l needle : String} (hn : '\r' ∉ needle.toList) :
    contains (chomp l) needle = contains l needle := by
  rw [Bool.eq_iff_iff, contains_iff_isInfix, contains_iff_isInfix]
  rcases toList_chomp l with he | he <;> rw [he]
  rw [infix_append_cons_iff hn]
  constructor
  · exact .inl
  · rintro (h | h)
    · exact h
    · rw [List.eq_nil_of_infix_nil h]
      exact List.nil_infix

/-! ## The replacement over a text -/

theorem reverse_dropReturn_cons {c : Char} {cs : List Char} (h : cs ≠ []) :
    (dropReturn (c :: cs).reverse).reverse = c :: (dropReturn cs.reverse).reverse := by
  have hr : cs.reverse ≠ [] := by simpa using h
  rw [List.reverse_cons]
  cases hc : cs.reverse with
  | nil => exact absurd hc hr
  | cons d ds => by_cases hd : d = '\r' <;> simp [dropReturn, hd]

theorem substitute_line {cs : List Char} (rest : List Char) (h : '\n' ∉ cs) :
    substitute ['\r', '\n'] ['\n'] 0 (cs ++ '\n' :: rest) =
      (dropReturn cs.reverse).reverse ++ '\n' :: substitute ['\r', '\n'] ['\n'] 0 rest := by
  induction cs with
  | nil => simp [substitute, dropReturn, List.isPrefixOf]
  | cons c cs ih =>
    have hcs : '\n' ∉ cs := fun m => h (List.mem_cons_of_mem _ m)
    cases cs with
    | nil => by_cases hc : c = '\r' <;> simp [substitute, dropReturn, List.isPrefixOf, hc, Ne.symm]
    | cons d cs =>
      have hd : d ≠ '\n' := fun e => hcs (e ▸ List.mem_cons_self)
      have hp : List.isPrefixOf ['\r', '\n'] (c :: (d :: cs ++ '\n' :: rest)) = false := by
        simp [List.isPrefixOf, Ne.symm hd]
      calc substitute ['\r', '\n'] ['\n'] 0 (c :: (d :: cs ++ '\n' :: rest))
        _ = c :: substitute ['\r', '\n'] ['\n'] 0 (d :: cs ++ '\n' :: rest) := by
          rw [substitute, hp]
          rfl
        _ = _ := by
          rw [ih hcs, reverse_dropReturn_cons (List.cons_ne_nil d cs), List.cons_append]

/-- Over a written text, replacing `\r\n` by `\n` takes the carriage return off every line's end. -/
theorem replaceAll_unlines {ls : List String} (h : ∀ l ∈ ls, '\n' ∉ l.toList) :
    replaceAll (unlines ls) "\r\n" "\n" = unlines (ls.map chomp) := by
  apply String.toList_injective
  have hr : ("\r\n" : String).isEmpty = false := rfl
  simp only [replaceAll, hr, Bool.false_eq_true, if_false, String.toList_ofList]
  rw [toList_unlines, toList_unlines]
  show substitute ['\r', '\n'] ['\n'] 0 _ = _
  induction ls with
  | nil => rfl
  | cons l ls ih =>
    rw [List.flatMap_cons, List.append_assoc, List.singleton_append,
      substitute_line _ (h l (by simp)), ih fun k hk => h k (List.mem_cons_of_mem _ hk)]
    simp [chomp]

section Shorter

variable {needle new : List Char}

theorem substitute_eq_self {cs : List Char} (h : occurs needle cs = false) :
    substitute needle new 0 cs = cs := by
  induction cs with
  | nil => rfl
  | cons c cs ih =>
    simp only [occurs, Bool.or_eq_false_iff] at h
    simp [substitute, h.1, ih h.2]

theorem length_substitute_le (hs : new.length < needle.length) (skip : Nat) (cs : List Char) :
    (substitute needle new skip cs).length ≤ cs.length - skip := by
  induction cs generalizing skip with
  | nil => simp [substitute]
  | cons c cs ih =>
    cases skip with
    | succ skip =>
      rw [substitute]
      have := ih skip
      simp only [List.length_cons]
      omega
    | zero =>
      rw [substitute]
      split
      · rename_i hp
        have hl : needle.length ≤ cs.length + 1 := (List.isPrefixOf_iff_prefix.1 hp).length_le
        have := ih (needle.length - 1)
        simp only [List.length_append, List.length_cons]
        omega
      · have := ih 0
        simp only [List.length_cons]
        omega

theorem length_substitute_lt (hs : new.length < needle.length) {cs : List Char}
    (h : occurs needle cs = true) : (substitute needle new 0 cs).length < cs.length := by
  induction cs with
  | nil =>
    have hn : needle = [] := by simpa [occurs] using h
    simp [hn] at hs
  | cons c cs ih =>
    rw [substitute]
    split
    · rename_i hp
      have hl : needle.length ≤ cs.length + 1 := (List.isPrefixOf_iff_prefix.1 hp).length_le
      have := length_substitute_le hs (needle.length - 1) cs
      simp only [List.length_append, List.length_cons]
      omega
    · rename_i hp
      have := ih (by simpa [occurs, hp] using h)
      simp only [List.length_cons]
      omega

end Shorter

theorem isPrefixOf_append_cons {needle : List Char} {c : Char} (hc : c ∉ needle) (as bs : List Char) :
    needle.isPrefixOf (as ++ c :: bs) = needle.isPrefixOf as := by
  rw [Bool.eq_iff_iff, List.isPrefixOf_iff_prefix, List.isPrefixOf_iff_prefix]
  constructor
  · intro h
    rcases List.prefix_or_prefix_of_prefix h (List.prefix_append as (c :: bs)) with hp | ⟨m, rfl⟩
    · exact hp
    · -- a needle that reaches beyond `as` would hold `c`
      cases m with
      | nil => simp
      | cons d m =>
        have hd : d = c := (List.cons_prefix_cons.1 ((List.prefix_append_right_inj as).1 h)).1
        exact absurd (by simp [hd]) hc
  · exact fun h => h.trans (List.prefix_append _ _)

/-- What stands on the two sides of a character that is not part of the needle is replaced apart. -/
theorem substitute_append_cons {needle new : List Char} {c : Char} (hc : c ∉ needle)
    (hne : needle ≠ []) {skip : Nat} {as : List Char} (bs : List Char) (hs : skip ≤ as.length) :
    substitute needle new skip (as ++ c :: bs) =
      substitute needle new skip as ++ c :: substitute needle new 0 bs := by
  induction as generalizing skip with
  | nil =>
    have hn : needle.isPrefixOf (c :: bs) = false := by
      rw [← List.nil_append (c :: bs), isPrefixOf_append_cons hc]
      cases needle with
      | nil => exact absurd rfl hne
      | cons d ds => rfl
    obtain rfl : skip = 0 := by simpa using hs
    simp [substitute, hn]
  | cons d as ih =>
    cases skip with
    | succ skip => exact ih (by simpa using hs)
    | zero =>
      have hd := isPrefixOf_append_cons hc (d :: as) bs
      rw [List.cons_append] at hd
      rw [List.cons_append, substitute, substitute, hd]
      split
      · rename_i hpre
        have hl := (List.isPrefixOf_iff_prefix.1 hpre).length_le
        rw [ih (by simp only [List.length_cons] at hl; omega), List.append_assoc]
      · rw [ih (Nat.zero_le _), List.cons_append]

section Replacement

variable {s needle new : String}

theorem replaceAll_of_ne_empty (h : needle ≠ "") :
    replaceAll s needle new = String.ofList (substitute needle.toList new.toList 0 s.toList) := by
  have hne : needle.isEmpty = false := by
    rw [Bool.eq_false_iff]
    exact fun he => h (String.isEmpty_iff.1 he)
  simp only [replaceAll, hne, Bool.false_eq_true, if_false]

theorem toList_replaceAll_concat (needle new : String) {t : String} {c : Char} (hc : c ∉ needle.toList)
    (hne : needle ≠ "") (he : s.toList = t.toList ++ [c]) :
    (replaceAll s needle new).toList = (replaceAll t needle new).toList ++ [c] := by
  rw [replaceAll_of_ne_empty hne, replaceAll_of_ne_empty hne, String.toList_ofList,
    String.toList_ofList, he, substitute_append_cons hc (by simpa using hne) [] (Nat.zero_le _)]
  rfl

variable (hs : new.toList.length < needle.toList.length)
include hs

/-- A replacement by something shorter makes a text shorter if it replaces anything. -/
theorem length_replaceAll_lt (h : contains s needle = true) :
    (replaceAll s needle new).toList.length < s.toList.length := by
  rw [replaceAll_of_ne_empty (by rintro rfl; simp at hs), String.toList_ofList]
  exact length_substitute_lt hs h

/-- A replacement by something shorter leaves a text as it was just where nothing is replaced. -/
theorem replaceAll_eq_self_iff : replaceAll s needle new = s ↔ contains s needle = false := by
  constructor
  · intro h
    rw [Bool.eq_false_iff]
    intro hc
    have hl := length_replaceAll_lt hs hc
    rw [h] at hl
    exact Nat.lt_irrefl _ hl
  · intro h
    rw [replaceAll_of_ne_empty (by rintro rfl; simp at hs), substitute_eq_self h,
      String.ofList_toList]

end Replacement

end PagePrep.Text
