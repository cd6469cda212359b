import Mathlib.Data.List.Forall2

/-! # Outcomes

How computations without a state end that are made of others: two in a sequence, or one for each
member of a list.
-/

namespace TapScript.Outcome

variable {φ ψ α β : Type} {x : Except φ α} {f : α → Except φ β} {g : φ → ψ}

theorem bind_eq_ok {b : β} : (x >>= f) = .ok b ↔ ∃ a, x = .ok a ∧ f a = .ok b := by
  cases x with
  | error e => simp [bind, Except.bind]
  | ok a => simp [bind, Except.bind]

theorem bind_eq_error {e : φ} :
    (x >>= f) = .error e ↔ x = .error e ∨ ∃ a, x = .ok a ∧ f a = .error e := by
  cases x with
  | error e => simp [bind, Except.bind]
  | ok a => simp [bind, Except.bind]

@[simp] theorem mapError_ok (a : α) : (.ok a : Except φ α).mapError g = .ok a := rfl

@[simp] theorem mapError_error (e : φ) : (.error e : Except φ α).mapError g = .error (g e) := rfl

theorem mapError_eq_error {e : ψ} : x.mapError g = .error e ↔ ∃ d, x = .error d ∧ g d = e := by
  cases x <;> simp

theorem mapError_eq_ok {a : α} : x.mapError g = .ok a ↔ x = .ok a := by
  cases x <;> simp

theorem eq_ok_of_toOption {a : α} (h : x.toOption = some a) : x = .ok a := by
  cases x with
  | error e => cases h
  | ok b => exact congrArg _ (Option.some.inj h)

/-- A list of results is made if and only if each of them is. -/
theorem mapM_eq_ok {h : α → Except φ β} {as : List α} {bs : List β} :
    as.mapM h = .ok bs ↔ List.Forall₂ (fun a b => h a = .ok b) as bs := by
  induction as generalizing bs with
  | nil =>
    rw [List.mapM_nil, List.forall₂_nil_left_iff]
    exact ⟨fun h => (Except.ok.inj h).symm, fun h => congrArg _ h.symm⟩
  | cons a as ih =>
    rw [List.mapM_cons, List.forall₂_cons_left_iff]
    simp only [bind_eq_ok, ih]
    constructor
    · rintro ⟨b, hb, bs, hbs, ⟨⟩⟩
      exact ⟨b, bs, hb, hbs, rfl⟩
    · rintro ⟨b, bs, hb, hbs, rfl⟩
      exact ⟨b, hb, bs, hbs, rfl⟩

/-- A list of results is made member by member if each is made under some condition. -/
theorem mapM_eq_ok_map {h : α → Except φ β} {p : α → Prop} {k : α → β}
    (hk : ∀ a b, h a = .ok b ↔ p a ∧ b = k a) {as : List α} {bs : List β} :
    as.mapM h = .ok bs ↔ (∀ a ∈ as, p a) ∧ bs = as.map k := by
  simp only [mapM_eq_ok, hk]
  induction as generalizing bs with
  | nil => simp
  | cons a as ih =>
    simp only [List.forall₂_cons_left_iff, ih, List.forall_mem_cons, List.map_cons]
    constructor
    · rintro ⟨_, _, ⟨ha, rfl⟩, ⟨has, rfl⟩, rfl⟩
      exact ⟨⟨ha, has⟩, rfl⟩
    · rintro ⟨⟨ha, has⟩, rfl⟩
      exact ⟨_, _, ⟨ha, rfl⟩, ⟨has, rfl⟩, rfl⟩

theorem mem_of_mapM {h : α → Except φ β} {as : List α} {bs : List β} (hm : as.mapM h = .ok bs) :
    ∀ b ∈ bs, ∃ a ∈ as, h a = .ok b := by
  induction mapM_eq_ok.mp hm with
  | nil => nofun
  | cons hab hbs ih =>
    refine List.forall_mem_cons.mpr ⟨⟨_, List.mem_cons_self, hab⟩, fun b hb => ?_⟩
    obtain ⟨a, ha, h⟩ := ih (mapM_eq_ok.mpr hbs) b hb
    exact ⟨a, List.mem_cons_of_mem _ ha, h⟩

theorem exists_mem_of_mapM {h : α → Except φ β} {as : List α} {bs : List β}
    (hm : as.mapM h = .ok bs) : ∀ a ∈ as, ∃ b ∈ bs, h a = .ok b := by
  induction mapM_eq_ok.mp hm with
  | nil => nofun
  | cons hab hbs ih =>
    refine List.forall_mem_cons.mpr ⟨⟨_, List.mem_cons_self, hab⟩, fun a ha => ?_⟩
    obtain ⟨b, hb, h⟩ := ih (mapM_eq_ok.mpr hbs) a ha
    exact ⟨b, List.mem_cons_of_mem _ hb, h⟩

/-- The first member of a list that gives an error gives that of the list. -/
theorem first_of_mapM {h : α → Except φ β} {as : List α} {e : φ} (hm : as.mapM h = .error e) :
    ∃ before a after, as = before ++ a :: after ∧ (∀ a' ∈ before, ∃ b, h a' = .ok b) ∧
      h a = .error e := by
  induction as with
  | nil => cases hm
  | cons a as ih =>
    rw [List.mapM_cons] at hm
    obtain ha | ⟨b, hb, hm⟩ := bind_eq_error.mp hm
    · exact ⟨[], a, as, rfl, nofun, ha⟩
    obtain has | ⟨bs, -, hm⟩ := bind_eq_error.mp hm
    · obtain ⟨before, a', after, rfl, hbefore, h'⟩ := ih has
      exact ⟨a :: before, a', after, rfl, List.forall_mem_cons.mpr ⟨⟨b, hb⟩, hbefore⟩, h'⟩
    · cases hm

theorem exists_of_mapM {h : α → Except φ β} {as : List α} {e : φ} (hm : as.mapM h = .error e) :
    ∃ a ∈ as, h a = .error e := by
  obtain ⟨before, a, after, rfl, -, ha⟩ := first_of_mapM hm
  exact ⟨a, by simp, ha⟩

/-- A walk over a list ends with an error at the first member that gives one. -/
theorem foldlM_eq_error {h : β → α → Except φ β} {as : List α} {b : β} {e : φ} :
    as.foldlM h b = .error e ↔
      ∃ before a after b', as = before ++ a :: after ∧ before.foldlM h b = .ok b' ∧
        h b' a = .error e := by
  constructor
  · intro hm
    induction as generalizing b with
    | nil => cases hm
    | cons a as ih =>
      rw [List.foldlM_cons] at hm
      obtain ha | ⟨b₁, hb, hm⟩ := bind_eq_error.mp hm
      · exact ⟨[], a, as, b, rfl, rfl, ha⟩
      · obtain ⟨before, a', after, b', rfl, hbefore, h'⟩ := ih hm
        refine ⟨a :: before, a', after, b', rfl, ?_, h'⟩
        rw [List.foldlM_cons]
        exact bind_eq_ok.mpr ⟨b₁, hb, hbefore⟩
  · rintro ⟨before, a, after, b', rfl, hbefore, ha⟩
    rw [List.foldlM_append]
    refine bind_eq_error.mpr (.inr ⟨b', hbefore, ?_⟩)
    rw [List.foldlM_cons]
    exact bind_eq_error.mpr (.inl ha)

end TapScript.Outcome
