/-!
# Outcomes

What steps that can fail come to, one after the other. A list is gone over with an outcome for each of
its members (`mapM_eq_ok_iff`), or fails as the first member does that has none
(`exists_of_mapM_eq_error`).
-/

set_option autoImplicit false

namespace PagePrep

variable {ε α β : Type} {x : Except ε α} {e : ε}

theorem eq_ok_of_toOption {a : α} (h : x.toOption = some a) : x = .ok a := by
  cases x with
  | error e => cases h
  | ok b => exact congrArg _ (Option.some.inj h)

theorem map_eq_ok_iff {f : α → β} {b : β} : x.map f = .ok b ↔ ∃ a, x = .ok a ∧ f a = b := by
  cases x <;> simp [Except.map]

theorem map_eq_error_iff {f : α → β} : x.map f = .error e ↔ x = .error e := by
  cases x <;> simp [Except.map]

theorem bind_eq_ok_iff {f : α → Except ε β} {b : β} :
    x >>= f = .ok b ↔ ∃ a, x = .ok a ∧ f a = .ok b := by
  cases x <;> simp [bind, Except.bind]

/-! ## Lists -/

variable {f : α → Except ε β} {as : List α} {bs : List β}

theorem mapM_eq_ok_iff : as.mapM f = .ok bs ↔ as.map f = bs.map .ok := by
  induction as generalizing bs with
  | nil =>
    constructor
    · intro h
      obtain rfl : [] = bs := Except.ok.inj h
      rfl
    · intro h
      rw [List.map_eq_nil_iff.1 h.symm]
      rfl
  | cons a as ih =>
    rw [List.mapM_cons, bind_eq_ok_iff]
    constructor
    · rintro ⟨b, hb, h⟩
      obtain ⟨bs, hbs, h⟩ := bind_eq_ok_iff.1 h
      obtain rfl := Except.ok.inj h
      rw [List.map_cons, List.map_cons, hb, ih.1 hbs]
    · intro h
      obtain ⟨b, bs, rfl, hb, hbs⟩ := List.map_eq_cons_iff.1 h.symm
      exact ⟨b, hb.symm, bind_eq_ok_iff.2 ⟨bs, ih.2 hbs.symm, rfl⟩⟩

theorem mapM_congr {g : α → Except ε β} (h : ∀ a ∈ as, f a = g a) : as.mapM f = as.mapM g := by
  induction as with
  | nil => rfl
  | cons a as ih =>
    rw [List.mapM_cons, List.mapM_cons, h a List.mem_cons_self,
      ih fun a' ha' => h a' (List.mem_cons_of_mem _ ha')]

theorem length_of_mapM_eq_ok (h : as.mapM f = .ok bs) : bs.length = as.length := by
  simpa using congrArg List.length (mapM_eq_ok_iff.1 h).symm

/-- The outcomes are those of the members. -/
theorem mem_of_mapM_eq_ok (h : as.mapM f = .ok bs) {b : β} : b ∈ bs ↔ ∃ a ∈ as, f a = .ok b := by
  rw [← List.mem_map, mapM_eq_ok_iff.1 h]
  simp

theorem exists_mem_of_mapM_eq_ok (h : as.mapM f = .ok bs) {a : α} (ha : a ∈ as) :
    ∃ b ∈ bs, f a = .ok b := by
  have hm : f a ∈ bs.map .ok := mapM_eq_ok_iff.1 h ▸ List.mem_map_of_mem ha
  obtain ⟨b, hb, hf⟩ := List.mem_map.1 hm
  exact ⟨b, hb, hf.symm⟩

theorem mem_flatten_of_mapM_eq_ok {f : α → Except ε (List β)} {parts : List (List β)}
    (h : as.mapM f = .ok parts) {b : β} :
    b ∈ parts.flatten ↔ ∃ a ∈ as, ∃ part, f a = .ok part ∧ b ∈ part := by
  rw [List.mem_flatten]
  constructor
  · rintro ⟨part, hp, hb⟩
    obtain ⟨a, ha, hf⟩ := (mem_of_mapM_eq_ok h).1 hp
    exact ⟨a, ha, part, hf, hb⟩
  · rintro ⟨a, ha, part, hf, hb⟩
    exact ⟨part, (mem_of_mapM_eq_ok h).2 ⟨a, ha, hf⟩, hb⟩

/-- Outcomes of members that are apart in pairs are apart in pairs. -/
theorem pairwise_of_mapM_eq_ok {R : α → α → Prop} {S : β → β → Prop} (h : as.mapM f = .ok bs)
    (hR : as.Pairwise R)
    (hS : ∀ a ∈ as, ∀ a' ∈ as, R a a' → ∀ b b', f a = .ok b → f a' = .ok b' → S b b') :
    bs.Pairwise S := by
  have hf : (as.map f).Pairwise fun x y => ∀ b b', x = .ok b → y = .ok b' → S b b' := by
    rw [List.pairwise_map]
    exact hR.imp_of_mem fun ha ha' hr => hS _ ha _ ha' hr
  rw [mapM_eq_ok_iff.1 h, List.pairwise_map] at hf
  exact hf.imp fun hb => hb _ _ rfl rfl

/-- What fails first is the failure. -/
theorem exists_of_mapM_eq_error (h : as.mapM f = .error e) :
    ∃ before a after, as = before ++ a :: after ∧ (∀ a' ∈ before, ∃ b, f a' = .ok b) ∧
      f a = .error e := by
  induction as with
  | nil => cases h
  | cons a as ih =>
    rw [List.mapM_cons] at h
    cases ha : f a with
    | error e' =>
      rw [ha] at h
      obtain rfl : e' = e := Except.error.inj h
      exact ⟨[], a, as, rfl, by simp, ha⟩
    | ok b =>
      rw [ha] at h
      have hs : as.mapM f = .error e := by
        cases hs : as.mapM f with
        | error e' =>
          rw [hs] at h
          exact h
        | ok bs =>
          rw [hs] at h
          cases h
      obtain ⟨before, a', after, rfl, hok, hf⟩ := ih hs
      exact ⟨a :: before, a', after, rfl, by simpa [ha] using hok, hf⟩

/-- A list is gone over if each of its members has an outcome. -/
theorem exists_mapM_eq_ok (h : ∀ a ∈ as, ∃ b, f a = .ok b) : ∃ bs, as.mapM f = .ok bs := by
  cases hm : as.mapM f with
  | ok bs => exact ⟨bs, rfl⟩
  | error e =>
    obtain ⟨before, a, after, rfl, -, hf⟩ := exists_of_mapM_eq_error hm
    obtain ⟨b, hb⟩ := h a (by simp)
    rw [hf] at hb
    cases hb

end PagePrep
