import TapScript.Library.Registry
import TapScript.Proofs.Outcome

/-! # The cache of a registry

A registry only grows: a library that it holds stays under its key, so that it is loaded without a
look at the files from then on. Loading the libraries of some commands either leaves all of them
held or ends at the first command whose library cannot be loaded.
-/

namespace TapScript.Registry

open Outcome

variable {r r' r'' : Registry} {t : FileTree} {segments : List String} {cs : List Command}
  {f : Fault} {l : Library} {key : String}

theorem lookup_concat {α : Type} {xs : List (String × α)} {x : α} {key' : String} :
    (xs ++ [(key, x)]).lookup key' = (xs.lookup key').or (if key' = key then some x else none) := by
  rw [List.lookup_append, List.lookup_cons]
  by_cases h : key' = key
  · simp [h]
  · simp [h, beq_false_of_ne h]

/-- The first registry is part of the second. -/
structure Extends (r r' : Registry) : Prop where
  root : r'.root = r.root
  cacheKey : r'.cacheKey = r.cacheKey
  loaded : r.loaded <+: r'.loaded

/-- Whether a registry has the library of a namespace. -/
def Holds (r : Registry) (segments : List String) : Prop :=
  segments ≠ [] ∧ ∃ key l, r.key segments = .ok key ∧ r.loaded.lookup key = some l

theorem Extends.refl (r : Registry) : r.Extends r :=
  ⟨rfl, rfl, List.prefix_refl _⟩

theorem Extends.trans (h : r.Extends r') (h' : r'.Extends r'') : r.Extends r'' :=
  ⟨h'.root.trans h.root, h'.cacheKey.trans h.cacheKey, h.loaded.trans h'.loaded⟩

theorem Extends.key_eq (h : r.Extends r') : r'.key segments = r.key segments := by
  unfold key
  rw [h.cacheKey]

theorem Extends.fetch_eq (h : r.Extends r') : r'.fetch t key segments = r.fetch t key segments := by
  unfold fetch modulePath
  rw [h.root]

theorem Extends.lookup_eq (h : r.Extends r') (hl : r.loaded.lookup key = some l) :
    r'.loaded.lookup key = some l := by
  obtain ⟨more, hm⟩ := h.loaded
  rw [← hm, List.lookup_append, hl, Option.some_or]

theorem Holds.mono (h : r.Extends r') (hs : r.Holds segments) : r'.Holds segments := by
  obtain ⟨hn, key, l, hk, hl⟩ := hs
  exact ⟨hn, key, l, h.key_eq.trans hk, h.lookup_eq hl⟩

theorem load_of_lookup (hn : segments ≠ []) (hk : r.key segments = .ok key)
    (hl : r.loaded.lookup key = some l) (t : FileTree) : r.load t segments = (.ok l, r) := by
  simp only [load, hn, hk, hl, if_false]

theorem load_of_fetch (hn : segments ≠ []) (hk : r.key segments = .ok key)
    (hl : r.loaded.lookup key = none) (hf : r.fetch t key segments = .ok l) :
    r.load t segments = (.ok l, { r with loaded := r.loaded ++ [(key, l)] }) := by
  simp only [load, hn, hk, hl, hf, if_false]

/-- A library that is held is loaded from no file tree. -/
theorem Holds.load (h : r.Holds segments) : ∃ l, ∀ t, r.load t segments = (.ok l, r) := by
  obtain ⟨hn, key, l, hk, hl⟩ := h
  exact ⟨l, load_of_lookup hn hk hl⟩

/-- All that loading a library can do. -/
theorem load_cases (r : Registry) (t : FileTree) (segments : List String) :
    (∃ f, r.load t segments = (.error f, r)) ∨
    (∃ l, r.Holds segments ∧ r.load t segments = (.ok l, r)) ∨
    ∃ key l, segments ≠ [] ∧ r.key segments = .ok key ∧ r.loaded.lookup key = none ∧
      r.fetch t key segments = .ok l ∧
      r.load t segments = (.ok l, { r with loaded := r.loaded ++ [(key, l)] }) := by
  by_cases hn : segments = []
  · exact Or.inl ⟨_, by rw [load, if_pos hn]⟩
  rw [load, if_neg hn]
  cases hk : r.key segments with
  | error f => exact Or.inl ⟨f, rfl⟩
  | ok key =>
    cases hl : r.loaded.lookup key with
    | some l => exact Or.inr (Or.inl ⟨l, ⟨hn, key, l, hk, hl⟩, by simp only [hl]⟩)
    | none =>
      cases hf : r.fetch t key segments with
      | error f => exact Or.inl ⟨f, by simp only [hl, hf]⟩
      | ok l => exact Or.inr (Or.inr ⟨key, l, hn, rfl, hl, hf, by simp only [hl, hf]⟩)

theorem load_extends (r : Registry) (t : FileTree) (segments : List String) :
    r.Extends (r.load t segments).2 := by
  obtain ⟨f, h⟩ | ⟨l, -, h⟩ | ⟨key, l, -, -, -, -, h⟩ := load_cases r t segments
  · rw [h]; exact .refl r
  · rw [h]; exact .refl r
  · rw [h]; exact ⟨rfl, rfl, List.prefix_append _ _⟩

/-- A library that has been loaded is held under the key of its namespace. -/
theorem lookup_of_load (h : r.load t segments = (.ok l, r')) :
    segments ≠ [] ∧ ∃ key, r'.key segments = .ok key ∧ r'.loaded.lookup key = some l := by
  obtain ⟨f, hf⟩ | ⟨m, ⟨hn, key, l', hk, hl⟩, hm⟩ | ⟨key, m, hn, hk, hl, -, hm⟩ :=
    load_cases r t segments
  · rw [hf] at h; cases h
  · rw [load_of_lookup hn hk hl] at h; cases h
    exact ⟨hn, key, hk, hl⟩
  · rw [hm] at h; cases h
    exact ⟨hn, key, hk, by rw [List.lookup_append, hl]; simp⟩

theorem holds_of_load (h : r.load t segments = (.ok l, r')) : r'.Holds segments := by
  obtain ⟨hn, key, hk, hl⟩ := lookup_of_load h
  exact ⟨hn, key, l, hk, hl⟩

/-- A library that has been loaded is the same for all who load it later. -/
theorem load_of_extends (h : r.load t segments = (.ok l, r')) (he : r'.Extends r'')
    (t' : FileTree) : r''.load t' segments = (.ok l, r'') := by
  obtain ⟨hn, key, hk, hl⟩ := lookup_of_load h
  exact load_of_lookup hn (he.key_eq.trans hk) (he.lookup_eq hl) t'

theorem load_error_eq (h : r.load t segments = (.error f, r')) : r' = r := by
  obtain ⟨g, hg⟩ | ⟨l, -, hl⟩ | ⟨key, l, -, -, -, -, hl⟩ := load_cases r t segments
  · rw [hg] at h; cases h; rfl
  · rw [hl] at h; cases h
  · rw [hl] at h; cases h

theorem prepare_extends (t : FileTree) (cs : List Command) (r : Registry) :
    r.Extends (prepare t cs r).2 := by
  fun_induction prepare t cs r with
  | case1 r => exact .refl r
  | case2 c cs r hc ih => exact ih
  | case3 c cs r hc f r' h => exact (congrArg Prod.snd h) ▸ load_extends r t c.library
  | case4 c cs r hc l r' h ls r'' h' ih =>
    rw [h'] at ih
    exact ((congrArg Prod.snd h) ▸ load_extends r t c.library).trans ih
  | case5 c cs r hc l r' h f r'' h' ih =>
    rw [h'] at ih
    exact ((congrArg Prod.snd h) ▸ load_extends r t c.library).trans ih

/-- Once the libraries of some commands are loaded, all of them are held. -/
theorem holds_of_prepare {ls : List Library} (h : prepare t cs r = (.ok ls, r')) :
    ∀ c ∈ cs, c.library ≠ [] → r'.Holds c.library := by
  fun_induction prepare t cs r generalizing ls r' with
  | case1 r => simp
  | case2 c cs r hc ih =>
    intro d hd hn
    rcases List.mem_cons.mp hd with rfl | hd
    · exact absurd hc hn
    · exact ih h d hd hn
  | case3 c cs r hc f r' hl => cases h
  | case4 c cs r hc l r₁ hl ls r₂ hp ih =>
    cases h
    intro d hd hn
    rcases List.mem_cons.mp hd with rfl | hd
    · have he := prepare_extends t cs r₁
      rw [hp] at he
      exact (holds_of_load hl).mono he
    · exact ih hp d hd hn
  | case5 c cs r hc l r' hl f r'' hp ih => cases h

/-- Loading the libraries of some commands fails at the first command whose library fails. -/
theorem prepare_error (h : prepare t cs r = (.error f, r')) :
    ∃ before c after ls f₀, cs = before ++ c :: after ∧ c.library ≠ [] ∧
      prepare t before r = (.ok ls, r') ∧ r'.load t c.library = (.error f₀, r') ∧
      f = blame c f₀ := by
  fun_induction prepare t cs r generalizing f r' with
  | case1 r => cases h
  | case2 c cs r hc ih =>
    obtain ⟨before, d, after, ls, f₀, rfl, hd, hp, hl, rfl⟩ := ih h
    exact ⟨c :: before, d, after, ls, f₀, rfl, hd, by rw [prepare, if_pos hc, hp], hl, rfl⟩
  | case3 c cs r hc f₀ r₁ hl =>
    cases h
    obtain rfl := load_error_eq hl
    exact ⟨[], c, cs, [], f₀, rfl, hc, rfl, hl, rfl⟩
  | case4 c cs r hc l r₁ hl ls r₂ hp ih => cases h
  | case5 c cs r hc l r₁ hl f₁ r₂ hp ih =>
    cases h
    obtain ⟨before, d, after, ls, f₀, rfl, hd, hb, hf, rfl⟩ := ih hp
    refine ⟨c :: before, d, after, l :: ls.filter (·.name != l.name), f₀, rfl, hd, ?_, hf, rfl⟩
    rw [prepare, if_neg hc, hl]
    simp only [hb]

theorem firstFile?_error {ps : List Path} (h : firstFile? t ps = .error f) :
    ∃ m, f = .mishap m := by
  induction ps with
  | nil => cases h
  | cons p ps ih =>
    rw [firstFile?] at h
    obtain h | ⟨b, -, h⟩ := bind_eq_error.mp h
    · obtain ⟨x, -, rfl⟩ := mapError_eq_error.mp h
      exact ⟨_, rfl⟩
    · cases b
      · exact ih h
      · cases h

theorem candidates_error {root : Path} (h : candidates root segments = .error f) :
    ∃ m, f = .mishap m := by
  simp only [candidates] at h
  split at h
  · cases h
  · cases h; exact ⟨_, rfl⟩

/-- A namespace without a file is a problem with its library, or a mishap. -/
theorem modulePath_error (h : r.modulePath t segments = .error f) :
    (∃ p, p.category = .libraryLoad ∧ f = .ofProblem p) ∨ ∃ m, f = .mishap m := by
  rw [modulePath] at h
  split at h
  · cases h; exact Or.inl ⟨_, rfl, rfl⟩
  · obtain h | ⟨ps, -, h⟩ := bind_eq_error.mp h
    · exact Or.inr (candidates_error h)
    obtain h | ⟨o, -, h⟩ := bind_eq_error.mp h
    · exact Or.inr (firstFile?_error h)
    cases o with
    | some p => cases h
    | none => cases h; exact Or.inl ⟨_, rfl, rfl⟩

/-- A library that cannot be read is a problem with its library, or a mishap. -/
theorem fetch_error (h : r.fetch t key segments = .error f) :
    (∃ p, p.category = .libraryLoad ∧ f = .ofProblem p) ∨ ∃ m, f = .mishap m := by
  obtain h | ⟨file, -, h⟩ := bind_eq_error.mp h
  · exact modulePath_error h
  obtain h | ⟨m, -, h⟩ := bind_eq_error.mp h
  · obtain ⟨x, -, rfl⟩ := mapError_eq_error.mp h
    exact Or.inl ⟨_, rfl, rfl⟩
  · split at h
    · cases h; exact Or.inl ⟨_, rfl, rfl⟩
    · cases h

/-- A library is read from the file of its namespace. -/
theorem fetch_ok (h : r.fetch t key segments = .ok l) :
    r.modulePath t segments = .ok l.file ∧ moduleOf t l.file = .ok l.module ∧
      l.module.fault = none ∧ l.name = key ∧ l.origin = segments := by
  obtain ⟨file, hp, h⟩ := bind_eq_ok.mp h
  obtain ⟨m, hm, h⟩ := bind_eq_ok.mp h
  split at h
  · cases h
  · next hf =>
    cases h
    exact ⟨hp, mapError_eq_ok.mp hm, hf, rfl, rfl⟩

theorem key_error (h : r.key segments = .error f) : ∃ m, f = .mishap m := by
  unfold key at h
  split at h
  · cases h
  · cases h
  · cases h; exact ⟨_, rfl⟩

/-- A library that cannot be loaded is a problem of its own kind, or a mishap. -/
theorem load_error (hn : segments ≠ []) (h : r.load t segments = (.error f, r')) :
    (∃ p, p.category = .libraryLoad ∧ f = .ofProblem p) ∨ ∃ m, f = .mishap m := by
  rw [load, if_neg hn] at h
  cases hk : r.key segments with
  | error x =>
    rw [hk] at h
    cases h
    exact Or.inr (key_error hk)
  | ok key =>
    cases hl : r.loaded.lookup key with
    | some l => simp only [hk, hl] at h; cases h
    | none =>
      cases hf : r.fetch t key segments with
      | ok l => simp only [hk, hl, hf] at h; cases h
      | error x =>
        simp only [hk, hl, hf] at h
        cases h
        exact fetch_error hf

/-- Loading the libraries of some commands fails at one of them: those before it have theirs, and
its own cannot be loaded. A problem with the library is reported at the place of the command. -/
def FailsAt (t : FileTree) (r : Registry) (cs : List Command) (f : Fault) : Prop :=
  ∃ before c after g f₀, cs = before ++ c :: after ∧ c.library ≠ [] ∧ r.Extends g ∧
    (∀ b ∈ before, b.library ≠ [] → g.Holds b.library) ∧ g.load t c.library = (.error f₀, g) ∧
    ((∃ p, p.category = .libraryLoad ∧ f₀ = .ofProblem p ∧ f = c.fault p) ∨
      ∃ m, f₀ = .mishap m ∧ f = f₀)

theorem failsAt_of_prepare (h : prepare t cs r = (.error f, r')) : FailsAt t r cs f := by
  obtain ⟨before, c, after, ls, f₀, hcs, hn, hp, hl, rfl⟩ := prepare_error h
  have he := prepare_extends t before r
  rw [hp] at he
  refine ⟨before, c, after, r', f₀, hcs, hn, he, holds_of_prepare hp, hl, ?_⟩
  obtain ⟨p, hc, rfl⟩ | ⟨m, rfl⟩ := load_error hn hl
  · exact Or.inl ⟨p, hc, rfl, by rw [Fault.ofProblem, blame, if_pos hc, Command.fault]⟩
  · exact Or.inr ⟨m, rfl, rfl⟩

end TapScript.Registry
