import TapScript.Proofs.Library.Cache

/-! # Registries that agree

A registry that keeps its libraries under whole namespaces loads each of them on its own: no load
changes what another one gives. So two such registries agree on files that stay as they are,
whatever each of them has loaded before.
-/

namespace TapScript.Registry

/-- Whether a namespace can be told from all others when it is written: no segment holds a dot. -/
def IsPlain (segments : List String) : Prop :=
  ∀ s ∈ segments, '.' ∉ s.toList

/-- Whether two registries that keep libraries under whole namespaces load the same from some
files. -/
structure Agrees (t : FileTree) (r r' : Registry) : Prop where
  cacheKey : r.cacheKey = .path
  cacheKey' : r'.cacheKey = .path
  load : ∀ segments, IsPlain segments → (r'.load t segments).1 = (r.load t segments).1

variable {t : FileTree} {r r' r'' : Registry} {segments : List String} {cs : List Command}

/-- A namespace is read back from how it is written. -/
theorem pieces_dotted (hs : IsPlain segments) (hn : segments ≠ []) :
    Text.pieces '.' (dotted segments) = segments :=
  Text.pieces_intercalate hs hn

theorem dotted_injective {ss ss' : List String} (hs : IsPlain ss) (hs' : IsPlain ss')
    (hn : ss ≠ []) (hn' : ss' ≠ []) (h : dotted ss = dotted ss') : ss = ss' := by
  rw [← pieces_dotted hs hn, h, pieces_dotted hs' hn']

/-- What a registry loads that keeps libraries under whole namespaces. -/
theorem load_path (hr : r.cacheKey = .path) (hn : segments ≠ []) : (r.load t segments).1 =
    match r.loaded.lookup (dotted segments) with
    | some l => .ok l
    | none => r.fetch t (dotted segments) segments := by
  have hk : r.key segments = .ok (dotted segments) := by rw [key, hr]
  simp only [Registry.load, if_neg hn, hk]
  cases r.loaded.lookup (dotted segments) with
  | some l => rfl
  | none =>
    simp only
    cases r.fetch t (dotted segments) segments <;> rfl

theorem Agrees.refl (hr : r.cacheKey = .path) : Agrees t r r :=
  ⟨hr, hr, fun _ _ => rfl⟩

theorem Agrees.symm (h : Agrees t r r') : Agrees t r' r :=
  ⟨h.cacheKey', h.cacheKey, fun s hs => (h.load s hs).symm⟩

theorem Agrees.trans (h : Agrees t r r') (h' : Agrees t r' r'') : Agrees t r r'' :=
  ⟨h.cacheKey, h'.cacheKey', fun s hs => (h'.load s hs).trans (h.load s hs)⟩

/-- No load changes what another one gives. -/
theorem agrees_load (hr : r.cacheKey = .path) (hs : IsPlain segments) :
    Agrees t r (r.load t segments).2 := by
  obtain ⟨f, h⟩ | ⟨l, -, h⟩ | ⟨key, l, hn, hk, hl, hf, h⟩ := load_cases r t segments
  · rw [h]; exact .refl hr
  · rw [h]; exact .refl hr
  · obtain rfl : dotted segments = key := by
      rw [Registry.key, hr] at hk
      exact Except.ok.inj hk
    have hx := load_extends r t segments
    rw [h] at hx ⊢
    refine ⟨hr, hr, fun ss hss => ?_⟩
    by_cases hne : ss = []
    · subst hne; rfl
    have hg : { r with loaded := r.loaded ++ [(dotted segments, l)] }.cacheKey = .path := hr
    rw [load_path hr hne, load_path hg hne, hx.fetch_eq, List.lookup_append]
    by_cases he : ss = segments
    · subst he
      simp [hl, hf]
    · have hd : (dotted ss == dotted segments) = false := by
        simpa using fun h => he (dotted_injective hss hs hne hn h)
      simp [List.lookup_cons, hd]

theorem agrees_prepare (hr : r.cacheKey = .path) (hc : ∀ c ∈ cs, IsPlain c.library) :
    Agrees t r (prepare t cs r).2 := by
  fun_induction prepare t cs r with
  | case1 r => exact .refl hr
  | case2 c cs r hn ih => exact ih hr (List.forall_mem_cons.mp hc).2
  | case3 c cs r hn f r₁ h => exact (congrArg Prod.snd h) ▸ agrees_load hr (hc c (by simp))
  | case4 c cs r hn l r₁ h ls r₂ h' ih | case5 c cs r hn l r₁ h f r₂ h' ih =>
    obtain ⟨hc, hcs⟩ := List.forall_mem_cons.mp hc
    have ha := agrees_load (t := t) hr hc
    rw [h] at ha
    rw [h'] at ih
    exact ha.trans (ih ha.cacheKey' hcs)

/-- Registries that agree load the libraries of the same commands, or fail at the same. -/
theorem Agrees.prepare_eq (h : Agrees t r r') (hc : ∀ c ∈ cs, IsPlain c.library) :
    (prepare t cs r').1 = (prepare t cs r).1 := by
  induction cs generalizing r r' with
  | nil => rfl
  | cons c cs ih =>
    obtain ⟨hl, hcs⟩ := List.forall_mem_cons.mp hc
    by_cases hn : c.library = []
    · rw [prepare, prepare, if_pos hn, if_pos hn]
      exact ih h hcs
    rw [prepare, prepare, if_neg hn, if_neg hn]
    have he := h.load c.library hl
    have ha : Agrees t (r.load t c.library).2 (r'.load t c.library).2 :=
      ((agrees_load h.cacheKey hl).symm.trans h).trans (agrees_load h.cacheKey' hl)
    rcases hr : r.load t c.library with ⟨x, r₁⟩
    rcases hr' : r'.load t c.library with ⟨x', r₁'⟩
    rw [hr, hr'] at he ha
    obtain rfl : x' = x := he
    cases x' with
    | error f => rfl
    | ok l =>
      have hp := ih ha hcs
      rcases hq : prepare t cs r₁ with ⟨y, r₂⟩
      rcases hq' : prepare t cs r₁' with ⟨y', r₂'⟩
      rw [hq, hq'] at hp
      obtain rfl : y' = y := hp
      cases y' <;> simp only [hq, hq']

/-- The libraries of some commands can be loaded together if each of them can. -/
theorem prepare_ok (hr : r.cacheKey = .path) (hc : ∀ c ∈ cs, IsPlain c.library)
    (hl : ∀ c ∈ cs, c.library ≠ [] → ∃ l, (r.load t c.library).1 = .ok l) :
    ∃ ls g, prepare t cs r = (.ok ls, g) := by
  induction cs generalizing r with
  | nil => exact ⟨[], r, rfl⟩
  | cons c cs ih =>
    obtain ⟨hp, hcs⟩ := List.forall_mem_cons.mp hc
    obtain ⟨hlc, hls⟩ := List.forall_mem_cons.mp hl
    by_cases hn : c.library = []
    · rw [prepare, if_pos hn]
      exact ih hr hcs hls
    obtain ⟨l, hlc⟩ := hlc hn
    have ha := agrees_load (t := t) hr hp
    rcases h : r.load t c.library with ⟨x, r₁⟩
    rw [h] at hlc ha
    cases hlc
    obtain ⟨ls, g, hg⟩ := ih ha.cacheKey' hcs fun d hd hn => by
      rw [ha.load d.library (hcs d hd)]
      exact hls d hd hn
    refine ⟨l :: ls.filter (·.name != l.name), g, ?_⟩
    rw [prepare, if_neg hn, h]
    simp only [hg]

end TapScript.Registry
