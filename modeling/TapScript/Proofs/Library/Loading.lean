import TapScript.Proofs.Library.Agreement

/-! # A registry in use

A registry is asked for libraries one at a time, or for all that the commands of a script name,
and the files may have changed each time. What it has loaded under a key it gives to all who ask
later, without another look at the files; what it cannot load leaves no trace.
-/

namespace TapScript.Registry

/-- A load from a registry, with the files as they stand then. -/
structure Load where
  files : FileTree
  segments : List String
  before : Registry

namespace Load

/-- How a load ends. -/
def outcome (x : Load) : Except Fault Library :=
  (x.before.load x.files x.segments).1

/-- The registry that a load leaves. -/
def after (x : Load) : Registry :=
  (x.before.load x.files x.segments).2

/-- Whether a load looks under a key. The empty namespace has no library to look for. -/
def IsUnder (x : Load) (key : String) : Prop :=
  x.segments ≠ [] ∧ x.before.key x.segments = .ok key

/-- Whether a load imports a library: it reads it from its file and keeps it under its key. -/
def Imports (x : Load) (key : String) (l : Library) : Prop :=
  x.IsUnder key ∧ x.before.fetch x.files key x.segments = .ok l ∧
    x.after.loaded = x.before.loaded ++ [(key, l)]

variable {x y : Load} {key : String} {l m : Library} {f : Fault}

theorem run_eq : x.before.load x.files x.segments = (x.outcome, x.after) := rfl

theorem extends_after : x.before.Extends x.after :=
  load_extends x.before x.files x.segments

/-- A load imports a library that was not held, or leaves the registry as it was. -/
theorem imports_or_after_eq (x : Load) :
    (∃ key l, x.Imports key l ∧ x.before.loaded.lookup key = none ∧ x.outcome = .ok l) ∨
      x.after = x.before := by
  obtain ⟨f, h⟩ | ⟨l, -, h⟩ | ⟨key, l, hn, hk, hl, hf, h⟩ :=
    load_cases x.before x.files x.segments
  · exact Or.inr (congrArg Prod.snd h)
  · exact Or.inr (congrArg Prod.snd h)
  · have ha : x.after = { x.before with loaded := x.before.loaded ++ [(key, l)] } :=
      congrArg Prod.snd h
    exact Or.inl ⟨key, l, ⟨⟨hn, hk⟩, hf, by rw [ha]⟩, hl, congrArg Prod.fst h⟩

theorem after_of_error (h : x.outcome = .error f) : x.after = x.before :=
  load_error_eq (run_eq.trans (by rw [h]))

/-- A library that is given is held from then on, under the key that was looked under. -/
theorem lookup_after (h : x.outcome = .ok l) :
    ∃ key, x.IsUnder key ∧ x.after.loaded.lookup key = some l := by
  obtain ⟨hn, key, hk, hl⟩ := lookup_of_load (run_eq.trans (by rw [h]))
  exact ⟨key, ⟨hn, extends_after.key_eq.symm.trans hk⟩, hl⟩

theorem IsUnder.unique {key' : String} (h : x.IsUnder key) (h' : x.IsUnder key') : key = key' :=
  Except.ok.inj (h.2.symm.trans h'.2)

/-- What one load gives under a key, every later one under that key gives too, from no file. -/
theorem load_of_earlier (hxy : x.after.Extends y.before) (hx : x.IsUnder key)
    (hy : y.IsUnder key) (h : x.outcome = .ok l) (t : FileTree) :
    y.before.load t y.segments = (.ok l, y.before) := by
  obtain ⟨key', hx', hl⟩ := lookup_after h
  obtain rfl := hx.unique hx'
  exact load_of_lookup hy.1 hy.2 (hxy.lookup_eq hl) t

/-- A library is imported under a key that holds none, and is held there from then on. -/
theorem Imports.lookup_eq (h : x.Imports key l) :
    x.before.loaded.lookup key = none ∧ x.after.loaded.lookup key = some l := by
  obtain ⟨hk, -, ha⟩ := h
  obtain ⟨key', l', ⟨hk', -, -⟩, hn, -⟩ | he := x.imports_or_after_eq
  · obtain rfl := hk.unique hk'
    refine ⟨hn, ?_⟩
    rw [ha, lookup_concat, hn]
    simp
  · rw [he] at ha
    simp at ha

theorem Imports.not_again (h : x.Imports key l) (hxy : x.after.Extends y.before) :
    ¬ y.Imports key m := by
  intro hy
  have hn := hy.lookup_eq.1
  rw [hxy.lookup_eq h.lookup_eq.2] at hn
  cases hn

end Load

/-- What a registry is asked for, with the files as they stand then. -/
inductive Request
  | load (files : FileTree) (segments : List String)
  | prepare (files : FileTree) (cs : List Command)

/-- The loads that the preparation of some commands makes, up to the first that fails. -/
def loadsFor (t : FileTree) : List Command → Registry → List Load
  | [], _ => []
  | c :: cs, r =>
    if c.library = [] then loadsFor t cs r
    else
      match r.load t c.library with
      | (.error _, _) => [⟨t, c.library, r⟩]
      | (.ok _, r') => ⟨t, c.library, r⟩ :: loadsFor t cs r'

namespace Request

/-- The registry that a request leaves. -/
def serve (r : Registry) : Request → Registry
  | load t segments => (r.load t segments).2
  | prepare t cs => (r.prepare t cs).2

/-- The loads that a request makes. -/
def loads (r : Registry) : Request → List Load
  | load t segments => [⟨t, segments, r⟩]
  | prepare t cs => loadsFor t cs r

end Request

/-- The registry that some requests leave, one after the other. -/
def serve (r : Registry) (qs : List Request) : Registry :=
  qs.foldl Request.serve r

/-- The loads that some requests make, one after the other. -/
def loads (r : Registry) : List Request → List Load
  | [] => []
  | q :: qs => q.loads r ++ (q.serve r).loads qs

/-- Whether loads lead from a registry to another, each from the one that the last one left. -/
inductive Chain : Registry → List Load → Registry → Prop
  | nil {r} : Chain r [] r
  | cons {x xs r} (rest : Chain x.after xs r) : Chain x.before (x :: xs) r

variable {r r' r'' : Registry} {xs ys : List Load} {x y : Load} {key : String} {l m : Library}

theorem Chain.append (h : Chain r xs r') (h' : Chain r' ys r'') : Chain r (xs ++ ys) r'' := by
  induction h with
  | nil => exact h'
  | cons _ ih => exact .cons (ih h')

/-- A preparation does what its loads do, one after the other. -/
theorem chain_loadsFor (t : FileTree) (cs : List Command) (r : Registry) :
    Chain r (loadsFor t cs r) (prepare t cs r).2 := by
  have step {t segments r o r₁ xs r'} (h : load t segments r = (o, r₁)) (hx : Chain r₁ xs r') :
      Chain r (⟨t, segments, r⟩ :: xs) r' := by
    obtain rfl : Load.after ⟨t, segments, r⟩ = r₁ := congrArg Prod.snd h
    exact Chain.cons (x := ⟨t, segments, r⟩) hx
  fun_induction prepare t cs r with
  | case1 r => exact .nil
  | case2 c cs r hc ih =>
    rw [loadsFor, if_pos hc]
    exact ih
  | case3 c cs r hc f r₁ h =>
    rw [loadsFor, if_neg hc, h]
    exact step h .nil
  | case4 c cs r hc l r₁ h ls r₂ h' ih | case5 c cs r hc l r₁ h f r₂ h' ih =>
    rw [h'] at ih
    rw [loadsFor, if_neg hc, h]
    exact step h ih

theorem chain_loads (r : Registry) (qs : List Request) : Chain r (r.loads qs) (r.serve qs) := by
  induction qs generalizing r with
  | nil => exact .nil
  | cons q qs ih =>
    refine Chain.append ?_ (ih (q.serve r))
    cases q with
    | load t segments => exact Chain.cons (x := ⟨t, segments, r⟩) .nil
    | prepare t cs => exact chain_loadsFor t cs r

theorem key_leaf (hr : r.cacheKey = .leaf) {segments : List String} (hn : segments ≠ []) :
    r.key segments = .ok key ↔ segments.getLast? = some key := by
  cases hs : segments.getLast? with
  | none => exact absurd (List.getLast?_eq_none_iff.mp hs) hn
  | some s => simp [Registry.key, hr, hs]

theorem key_path (hr : r.cacheKey = .path) {segments : List String} :
    r.key segments = .ok key ↔ dotted segments = key := by
  simp [Registry.key, hr]

namespace Chain

theorem extends_end (h : Chain r xs r') : r.Extends r' := by
  induction h with
  | nil => exact .refl _
  | cons _ ih => exact Load.extends_after.trans ih

theorem extends_of_mem (h : Chain r xs r') : ∀ x ∈ xs, r.Extends x.before ∧ x.after.Extends r' := by
  induction h with
  | nil => simp
  | @cons x xs r rest ih =>
    refine List.forall_mem_cons.mpr ⟨⟨.refl _, rest.extends_end⟩, fun y hy => ?_⟩
    obtain ⟨hb, ha⟩ := ih y hy
    exact ⟨Load.extends_after.trans hb, ha⟩

/-- A load goes on from what all loads before it have left. -/
theorem pairwise (h : Chain r xs r') : xs.Pairwise fun x y => x.after.Extends y.before := by
  induction h with
  | nil => exact .nil
  | cons rest ih => exact .cons (fun y hy => (rest.extends_of_mem y hy).1) ih

/-- What is held in the end was held at the start or has been imported. -/
theorem lookup_cases (h : Chain r xs r') (hl : r'.loaded.lookup key = some l) :
    r.loaded.lookup key = some l ∨ ∃ x ∈ xs, x.Imports key l := by
  induction h with
  | nil => exact Or.inl hl
  | @cons x xs r rest ih =>
    obtain hx | ⟨y, hy, hi⟩ := ih hl
    · obtain ⟨key', m, hi, -⟩ | ha := x.imports_or_after_eq
      · rw [hi.2.2, lookup_concat, Option.or_eq_some_iff] at hx
        obtain hx | ⟨-, hx⟩ := hx
        · exact Or.inl hx
        · have he : key = key' ∧ m = l := by simpa using hx
          obtain ⟨rfl, rfl⟩ := he
          exact Or.inr ⟨x, by simp, hi⟩
      · rw [ha] at hx
        exact Or.inl hx
    · exact Or.inr ⟨y, by simp [hy], hi⟩

/-- From an empty registry, a library that a load gives has been imported by one of the loads. -/
theorem exists_import (h : Chain r xs r') (hr : r.loaded = []) (hx : x ∈ xs)
    (ho : x.outcome = .ok l) : ∃ key, x.IsUnder key ∧ ∃ y ∈ xs, y.Imports key l := by
  obtain ⟨key, hk, hl⟩ := Load.lookup_after ho
  have hl : r'.loaded.lookup key = some l := (h.extends_of_mem x hx).2.lookup_eq hl
  obtain hl | hy := h.lookup_cases hl
  · rw [hr] at hl
    cases hl
  · exact ⟨key, hk, hy⟩

theorem isUnder_iff (h : Chain r xs r') (hx : x ∈ xs) :
    x.IsUnder key ↔ x.segments ≠ [] ∧ r.key x.segments = .ok key := by
  rw [Load.IsUnder, (h.extends_of_mem x hx).1.key_eq]

/-- Two loads under one key give the same library, whichever comes first. -/
theorem eq_of_isUnder (h : Chain r xs r') (hx : x ∈ xs) (hy : y ∈ xs)
    (hxk : x.IsUnder key) (hyk : y.IsUnder key) (hl : x.outcome = .ok l)
    (hm : y.outcome = .ok m) : l = m := by
  obtain ⟨key', hxk', hxl⟩ := Load.lookup_after hl
  obtain ⟨key'', hyk'', hym⟩ := Load.lookup_after hm
  obtain rfl := hxk.unique hxk'
  obtain rfl := hyk.unique hyk''
  have hl' := (h.extends_of_mem x hx).2.lookup_eq hxl
  have hm' := (h.extends_of_mem y hy).2.lookup_eq hym
  exact Option.some.inj (hl'.symm.trans hm')

/-- A library goes by the key under which it was loaded. -/
theorem isUnder_name (h : Chain r xs r') (hr : r.loaded = []) (hx : x ∈ xs)
    (ho : x.outcome = .ok l) : x.IsUnder l.name := by
  obtain ⟨key, hk, y, -, -, hf, -⟩ := h.exists_import hr hx ho
  obtain ⟨-, -, -, rfl, -⟩ := fetch_ok hf
  exact hk

/-- Under keys of last segments, two namespaces share a library if and only if they end in the same
segment. -/
theorem shared_iff (h : Chain r xs r') (hr : r.loaded = []) (hmode : r.cacheKey = .leaf)
    (hx : x ∈ xs) (hy : y ∈ xs) (hl : x.outcome = .ok l) (hm : y.outcome = .ok m) :
    l = m ↔ x.segments.getLast? = y.segments.getLast? := by
  have hxn := h.isUnder_name hr hx hl
  have hyn := h.isUnder_name hr hy hm
  have hxs := (key_leaf hmode hxn.1).mp ((h.isUnder_iff hx).mp hxn).2
  have hys := (key_leaf hmode hyn.1).mp ((h.isUnder_iff hy).mp hyn).2
  constructor
  · rintro rfl
    rw [hxs, hys]
  · intro he
    have hname : l.name = m.name := Option.some.inj (hxs.symm.trans (he.trans hys))
    exact h.eq_of_isUnder hx hy hxn (hname ▸ hyn) hl hm

/-- Under keys of whole namespaces, no two of them share a library. -/
theorem apart (h : Chain r xs r') (hr : r.loaded = []) (hmode : r.cacheKey = .path)
    (hx : x ∈ xs) (hy : y ∈ xs) (hxp : IsPlain x.segments) (hyp : IsPlain y.segments)
    (hne : x.segments ≠ y.segments) (hl : x.outcome = .ok l) (hm : y.outcome = .ok m) :
    l ≠ m := by
  rintro rfl
  have hxn := h.isUnder_name hr hx hl
  have hyn := h.isUnder_name hr hy hm
  have hxs := (key_path hmode).mp ((h.isUnder_iff hx).mp hxn).2
  have hys := (key_path hmode).mp ((h.isUnder_iff hy).mp hyn).2
  exact hne (dotted_injective hxp hyp hxn.1 hyn.1 (hxs.trans hys.symm))

/-- Under keys of whole namespaces, the library of each comes from the file of that very one. -/
theorem exists_own_import (h : Chain r xs r') (hr : r.loaded = []) (hmode : r.cacheKey = .path)
    (hp : ∀ y ∈ xs, IsPlain y.segments) (hx : x ∈ xs) (hl : x.outcome = .ok l) :
    ∃ y ∈ xs, y.segments = x.segments ∧ y.Imports (dotted x.segments) l := by
  obtain ⟨key, hxk, y, hy, hi⟩ := h.exists_import hr hx hl
  have hxs := (key_path hmode).mp ((h.isUnder_iff hx).mp hxk).2
  have hys := (key_path hmode).mp ((h.isUnder_iff hy).mp hi.1).2
  have he := dotted_injective (hp y hy) (hp x hx) hi.1.1 hxk.1 (hys.trans hxs.symm)
  exact ⟨y, hy, he, hxs ▸ hi⟩

/-- Under keys of whole namespaces, loads from the same files do not change what is loaded. -/
theorem agrees {t : FileTree} (h : Chain r xs r') (hmode : r.cacheKey = .path)
    (hx : ∀ x ∈ xs, x.files = t ∧ IsPlain x.segments) : Agrees t r r' := by
  induction h with
  | nil => exact .refl hmode
  | @cons x xs r' rest ih =>
    obtain ⟨⟨rfl, hp⟩, hxs⟩ := List.forall_mem_cons.mp hx
    have ha : Agrees x.files x.before x.after := agrees_load hmode hp
    exact ha.trans (ih ha.cacheKey' hxs)

end Chain

/-- How loads are served by a registry that starts with nothing: each key is imported once and
then given to all, what fails is forgotten, and namespaces share a library if they end in the same
segment or, under keys of whole namespaces, not at all. -/
structure Kept (r r' : Registry) (xs : List Load) : Prop where
  chain : Chain r xs r'
  nameless : ∀ x ∈ xs, x.segments = [] → x.outcome = .error (.ofProblem .builtinLibrary)
  later : xs.Pairwise fun x y => ∀ key l, x.IsUnder key → y.IsUnder key → x.outcome = .ok l →
    ∀ t, y.before.load t y.segments = (.ok l, y.before)
  failed : ∀ x ∈ xs, ∀ f, x.outcome = .error f → x.after = x.before
  once : xs.Pairwise fun x y => ∀ key l m, x.Imports key l → ¬ y.Imports key m
  byLeaf : r.cacheKey = .leaf → ∀ x ∈ xs, ∀ y ∈ xs, ∀ l m, x.outcome = .ok l →
    y.outcome = .ok m → (l = m ↔ x.segments.getLast? = y.segments.getLast?)
  byPath : r.cacheKey = .path → ∀ x ∈ xs, ∀ y ∈ xs, IsPlain x.segments → IsPlain y.segments →
    x.segments ≠ y.segments → ∀ l m, x.outcome = .ok l → y.outcome = .ok m → l ≠ m
  own : r.cacheKey = .path → (∀ x ∈ xs, IsPlain x.segments) → ∀ x ∈ xs, ∀ l, x.outcome = .ok l →
    ∃ y ∈ xs, y.segments = x.segments ∧ y.Imports (dotted x.segments) l ∧
      y.before.modulePath y.files x.segments = .ok l.file ∧
      moduleOf y.files l.file = .ok l.module

/-- A registry that starts with nothing keeps what it loads, whatever it is asked for and whatever
becomes of the files meanwhile. -/
theorem loads_kept (root : Option Path) (mode : CacheKey) (qs : List Request) :
    Kept ⟨root, mode, []⟩ (serve ⟨root, mode, []⟩ qs) (loads ⟨root, mode, []⟩ qs) := by
  have h := chain_loads ⟨root, mode, []⟩ qs
  exact {
    chain := h
    nameless := by
      rintro ⟨t, segments, r⟩ - rfl
      rfl
    later := h.pairwise.imp fun hxy key l hx hy ho => Load.load_of_earlier hxy hx hy ho
    failed := fun x _ f ho => Load.after_of_error ho
    once := h.pairwise.imp fun hxy key l m hi => hi.not_again hxy
    byLeaf := fun hr x hx y hy l m hl hm => h.shared_iff rfl hr hx hy hl hm
    byPath := fun hr x hx y hy hxp hyp hne l m hl hm => h.apart rfl hr hx hy hxp hyp hne hl hm
    own := fun hr hp x hx l hl => by
      obtain ⟨y, hy, he, hi⟩ := h.exists_own_import rfl hr hp hx hl
      obtain ⟨hf, hm, -⟩ := fetch_ok hi.2.1
      exact ⟨y, hy, he, hi, he ▸ hf, hm⟩ }

end TapScript.Registry
