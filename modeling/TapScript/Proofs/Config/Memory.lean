import Mathlib.Data.List.Forall2
import TapScript.Proofs.Config.Merging

/-! # Merging in memory

A mapping in memory has an address, and what it holds can be changed there. Two mappings may hold
the same third one, and the two that are merged may be one. A merge copies the first mapping and
writes to the copy alone, so that no mapping that was there before holds anything else afterwards.
-/

namespace TapScript

namespace Memory

/-- What a key of a mapping in memory is bound to: a mapping at an address, or another value. -/
inductive Content
  | mapping (n : Nat)
  | value (v : Value)

/-- What a mapping in memory holds. -/
abbrev Record := List (Value × Content)

def Record.under? (r : Record) (k : Value) : Option Content :=
  (r.find? (·.1.same k)).map (·.2)

def Record.bindTo (r : Record) (k : Value) (c : Content) : Record :=
  if r.any (·.1.same k) then r.map fun e => if e.1.same k then (e.1, c) else e
  else r ++ [(k, c)]

end Memory

/-- The mappings in memory, the newest last. -/
abbrev Memory := List Memory.Record

namespace Memory

/-- Binding a key of the mapping at an address. -/
def write (m : Memory) (n : Nat) (k : Value) (c : Content) : Memory :=
  m.modify n fun r => r.bindTo k c

/-- What overrides something, which is a new mapping if both are mappings. -/
def overriding (merge : Memory → Nat → Nat → Option (Memory × Nat)) (m : Memory)
    (base : Option Content) (c : Content) : Option (Memory × Content) :=
  match base, c with
  | some (.mapping x), .mapping y => (merge m x y).map fun (m', z) => (m', .mapping z)
  | _, c => some (m, c)

/-- Overriding the entries of a mapping by others, one after the other. -/
def mergeAll (merge : Memory → Nat → Nat → Option (Memory × Nat)) (m : Memory) (n : Nat) :
    Record → Option Memory
  | [] => some m
  | (k, c) :: override => do
    let r ← m[n]?
    let (m', c') ← overriding merge m (r.under? k) c
    mergeAll merge (m'.write n k c') n override

/-- Merging two mappings into a new one, whose address is returned. Calls may be nested down to a
depth. -/
def merge : (depth : Nat) → Memory → Nat → Nat → Option (Memory × Nat)
  | 0, _, _, _ => none
  | depth + 1, m, x, y => do
    let base ← m[x]?
    let override ← m[y]?
    let m' ← mergeAll (merge depth) (m ++ [base]) m.length override
    some (m', m.length)

/-! ### What memory holds

A mapping that is being written to is hidden: nothing that it holds leads back to it, so that what
it holds stays the same while it is written to.
-/

/-- Whether what is bound in memory stands for a value, and does not lead to a hidden mapping. -/
inductive StandsFor (m : Memory) (hidden : List Nat) : Content → Value → Prop
  | value {v : Value} (h : v.isMap = false) : StandsFor m hidden (.value v) v
  | mapping {n : Nat} {r : Record} {es : Entries} (hn : n ∉ hidden) (hr : m[n]? = some r)
      (length : r.length = es.length) (keys : ∀ e ∈ r.zip es, e.1.1 = e.2.1)
      (values : ∀ e ∈ r.zip es, StandsFor m hidden e.1.2 e.2.2) :
      StandsFor m hidden (.mapping n) (.map false es)

/-- Whether a record stands for entries. -/
def Holds (m : Memory) (hidden : List Nat) (r : Record) (es : Entries) : Prop :=
  List.Forall₂ (fun e f => e.1 = f.1 ∧ StandsFor m hidden e.2 f.2) r es

variable {m m' m'' : Memory} {hidden hidden' : List Nat} {n x y : Nat} {c : Content} {r r' : Record}
  {k v : Value} {es fs : Entries}

theorem standsFor_mapping : StandsFor m hidden (.mapping n) (.map false es) ↔
    n ∉ hidden ∧ ∃ r, m[n]? = some r ∧ Holds m hidden r es := by
  constructor
  · intro h
    cases h with
    | @mapping _ r _ hn hr length keys values =>
      exact ⟨hn, r, hr, List.forall₂_iff_zip.mpr ⟨length, fun he => ⟨keys _ he, values _ he⟩⟩⟩
  · rintro ⟨hn, r, hr, h⟩
    obtain ⟨length, h⟩ := List.forall₂_iff_zip.mp h
    exact .mapping hn hr length (fun _ he => (h he).1) fun _ he => (h he).2

theorem StandsFor.imp (h : ∀ n ∉ hidden, n < m.length → n ∉ hidden' ∧ m'[n]? = m[n]?)
    (hc : StandsFor m hidden c v) : StandsFor m' hidden' c v := by
  induction hc with
  | value h => exact .value h
  | mapping hn hr length keys _ ih =>
    obtain ⟨hn', hm⟩ := h _ hn (List.getElem?_eq_some_iff.mp hr).1
    exact .mapping hn' (hm.trans hr) length keys ih

theorem Holds.imp (h : ∀ n ∉ hidden, n < m.length → n ∉ hidden' ∧ m'[n]? = m[n]?)
    (hr : Holds m hidden r es) : Holds m' hidden' r es :=
  List.Forall₂.imp (fun _ _ he => ⟨he.1, he.2.imp h⟩) hr

theorem Holds.under? (h : Holds m hidden r es) (k : Value) :
    Option.Rel (StandsFor m hidden) (r.under? k) (Value.under? es k) := by
  induction h with
  | nil => exact .none
  | @cons e f r es he _ ih =>
    obtain ⟨j, c⟩ := e
    obtain ⟨j', v⟩ := f
    obtain ⟨rfl, hc⟩ := he
    cases hs : j.same k with
    | true => simpa [Record.under?, Value.under?, hs] using hc
    | false => simpa [Record.under?, Value.under?, hs] using ih

theorem Holds.any_eq (h : Holds m hidden r es) (p : Value → Bool) :
    r.any (fun e => p e.1) = es.any fun e => p e.1 := by
  induction h with
  | nil => rfl
  | cons he _ ih => rw [List.any_cons, List.any_cons, he.1, ih]

theorem Holds.bindTo (h : Holds m hidden r es) (hc : StandsFor m hidden c v) :
    Holds m hidden (r.bindTo k c) (Value.bindTo es k v) := by
  unfold Record.bindTo Value.bindTo
  rw [h.any_eq (·.same k)]
  split
  · refine List.forall₂_map_left_iff.mpr (List.forall₂_map_right_iff.mpr ?_)
    refine List.Forall₂.imp (fun e f he => ?_) h
    rw [he.1]
    split
    · exact ⟨rfl, hc⟩
    · exact he
  · exact List.rel_append h (.cons ⟨rfl, hc⟩ .nil)

/-- Whether mappings in memory hold what they held, but for some. -/
structure Keeps (changed : List Nat) (m m' : Memory) : Prop where
  length : m.length ≤ m'.length
  record : ∀ n ∉ changed, n < m.length → m'[n]? = m[n]?

theorem Keeps.refl : Keeps hidden m m where
  length := le_rfl
  record _ _ _ := rfl

theorem Keeps.trans (h : Keeps hidden m m') (h' : Keeps hidden m' m'') : Keeps hidden m m'' where
  length := h.length.trans h'.length
  record n hn hl := (h'.record n hn (hl.trans_le h.length)).trans (h.record n hn hl)

theorem Keeps.mono (h : Keeps hidden m m') (hs : hidden ⊆ hidden') : Keeps hidden' m m' where
  length := h.length
  record n hn := h.record n fun hm => hn (hs hm)

theorem Keeps.standsFor (h : Keeps hidden m m') (hc : StandsFor m hidden c v) :
    StandsFor m' hidden c v :=
  hc.imp fun n hn hl => ⟨hn, h.record n hn hl⟩

theorem Keeps.holds (h : Keeps hidden m m') (hr : Holds m hidden r es) : Holds m' hidden r es :=
  hr.imp fun n hn hl => ⟨hn, h.record n hn hl⟩

theorem keeps_append : Keeps hidden m (m ++ [r]) where
  length := by simp
  record n _ hl := List.getElem?_append_left hl

theorem keeps_write (h : n ∈ hidden) : Keeps hidden m (m.write n k c) where
  length := (List.length_modify ..).ge
  record j hj _ := by
    have hne : n ≠ j := fun hjn => hj (hjn ▸ h)
    rw [write, List.getElem?_modify_ne _ _ hne]

theorem getElem?_write (h : m[n]? = some r) : (m.write n k c)[n]? = some (r.bindTo k c) := by
  rw [write, List.getElem?_modify_eq, h]
  rfl

/-! ### What merging writes -/

/-- Whether a value overrides others in memory as it does by itself. -/
def Overrides (depth : Nat) (v : Value) : Prop :=
  ∀ ⦃m hidden base base? c⦄, Option.Rel (StandsFor m hidden) base base? → StandsFor m hidden c v →
    (∀ n ∈ hidden, n < m.length) → ∃ m' c', overriding (merge depth) m base c = some (m', c') ∧
      Keeps [] m m' ∧ StandsFor m' hidden c' (Value.overriding base? v)

/-- Whether entries override a mapping in memory as they do by themselves. -/
def OverridesAll (depth : Nat) (fs : Entries) : Prop :=
  ∀ ⦃m hidden n r es override⦄, n ∈ hidden → (∀ n ∈ hidden, n < m.length) → m[n]? = some r →
    Holds m hidden r es → Holds m hidden override fs →
    ∃ m' r', mergeAll (merge depth) m n override = some m' ∧ Keeps [n] m m' ∧ m'[n]? = some r' ∧
      Holds m' hidden r' (Value.mergeEntries es fs)

variable {depth : Nat}

theorem OverridesAll.standsFor_merge (h : OverridesAll depth fs)
    (hx : StandsFor m hidden (.mapping x) (.map false es))
    (hy : StandsFor m hidden (.mapping y) (.map false fs)) (hl : ∀ n ∈ hidden, n < m.length) :
    ∃ m' z, merge (depth + 1) m x y = some (m', z) ∧ Keeps [] m m' ∧
      StandsFor m' hidden (.mapping z) (.map false (Value.mergeEntries es fs)) := by
  obtain ⟨-, base, hxr, hes⟩ := standsFor_mapping.mp hx
  obtain ⟨-, override, hyr, hfs⟩ := standsFor_mapping.mp hy
  have happ : Keeps [] m (m ++ [base]) := keeps_append
  -- nothing leads to the address of the copy yet
  have hnew : ∀ n ∉ hidden, n < m.length →
      n ∉ m.length :: hidden ∧ (m ++ [base])[n]? = m[n]? := by
    intro n hn hl
    exact ⟨fun hm => (List.mem_cons.mp hm).elim hl.ne hn, happ.record n List.not_mem_nil hl⟩
  have hl' : ∀ n ∈ m.length :: hidden, n < (m ++ [base]).length := by
    intro n hn
    rw [List.length_append]
    rcases List.mem_cons.mp hn with rfl | hn
    · exact Nat.lt_succ_self _
    · exact Nat.lt_succ_of_lt (hl n hn)
  obtain ⟨m', r, hm, hk, hr, hh⟩ := h List.mem_cons_self hl' List.getElem?_concat_length
    (hes.imp hnew) (hfs.imp hnew)
  refine ⟨m', m.length, ?_, ?_, ?_⟩
  · rw [merge, hxr, hyr, Option.bind_eq_bind, Option.bind_some, Option.bind_eq_bind,
      Option.bind_some, hm]
    rfl
  · refine ⟨happ.length.trans hk.length, fun n _ hn => ?_⟩
    rw [hk.record n (by simpa using hn.ne) (hn.trans_le happ.length),
      happ.record n List.not_mem_nil hn]
  · refine standsFor_mapping.mpr ⟨fun hn => (hl _ hn).false, r, hr, hh.imp fun n hn _ => ?_⟩
    exact ⟨fun hm => hn (List.mem_cons_of_mem _ hm), rfl⟩

theorem overriding_of_not_mapping {merge : Memory → Nat → Nat → Option (Memory × Nat)}
    {base : Option Content} (h : ∀ x y, base = some (.mapping x) → c ≠ .mapping y) :
    overriding merge m base c = some (m, c) := by
  unfold overriding
  split
  · exact absurd rfl (h _ _ rfl)
  · rfl

theorem overrides_of_not_isMap (hv : v.isMap = false) : Overrides depth v := by
  intro m hidden base base? c hb hc hl
  cases hc with
  | value h =>
    rw [Value.overriding_of_not_isMap hv]
    exact ⟨m, .value v, overriding_of_not_mapping nofun, .refl, .value hv⟩
  | mapping => cases hv

theorem OverridesAll.overrides_map {b : Bool} (h : OverridesAll depth fs) :
    Overrides (depth + 1) (.map b fs) := by
  intro m hidden base base? c hb hc hl
  cases hc with
  | value h => cases h
  | @mapping y r _ hn hr length keys values =>
    have hy : StandsFor m hidden (.mapping y) (.map false fs) :=
      .mapping hn hr length keys values
    cases hb with
    | none =>
      rw [Value.overriding_none]
      exact ⟨m, .mapping y, overriding_of_not_mapping nofun, .refl, hy⟩
    | some hx =>
      cases hx with
      | value hw =>
        rw [Value.overriding_of_not_map (by rintro b es ⟨⟩; cases hw)]
        exact ⟨m, .mapping y, overriding_of_not_mapping nofun, .refl, hy⟩
      | mapping hn' hr' length' keys' values' =>
        obtain ⟨m', z, hm, hk, hz⟩ :=
          h.standsFor_merge (.mapping hn' hr' length' keys' values') hy hl
        refine ⟨m', .mapping z, ?_, hk, ?_⟩
        · rw [overriding, hm]
          rfl
        · rwa [Value.overriding_map]

theorem overridesAll_nil : OverridesAll depth [] := by
  intro m hidden n r es override _ _ hr hes hfs
  cases hfs
  refine ⟨m, r, rfl, .refl, hr, ?_⟩
  rwa [Value.mergeEntries]

theorem OverridesAll.cons (hv : Overrides depth v) (hfs : OverridesAll depth fs) :
    OverridesAll depth ((k, v) :: fs) := by
  intro m hidden n r es override hn hl hr hes ho
  obtain ⟨⟩ | @⟨e, _, override, _, ⟨he, hc⟩, ho⟩ := ho
  obtain ⟨j, c⟩ := e
  obtain rfl : j = k := he
  obtain ⟨m₁, c₁, hm₁, hk₁, hc₁⟩ := hv (hes.under? j) hc hl
  have hr₁ : m₁[n]? = some r := (hk₁.record n List.not_mem_nil (hl n hn)).trans hr
  -- only the mapping that is overridden is written to
  have hk : ∀ changed, n ∈ changed → Keeps changed m (m₁.write n j c₁) := fun changed hn =>
    (hk₁.mono (List.nil_subset _)).trans (keeps_write hn)
  obtain ⟨m', r', hm', hk', hr', hh⟩ := hfs hn (fun i hi => (hl i hi).trans_le (hk _ hn).length)
    (getElem?_write hr₁) (((hk _ hn).holds hes).bindTo ((keeps_write hn).standsFor hc₁))
    ((hk _ hn).holds ho)
  refine ⟨m', r', ?_, (hk _ List.mem_cons_self).trans hk', hr', ?_⟩
  · rw [mergeAll, hr]
    simp [hm₁, hm']
  · rwa [Value.mergeEntries]

mutual

/-- At some depth, and at any below, a value overrides others. -/
theorem exists_overrides : ∀ v : Value, ∃ depth, ∀ d, depth ≤ d → Overrides d v
  | .map _ fs => by
    obtain ⟨depth, h⟩ := exists_overridesAll fs
    exact ⟨depth + 1, fun | d + 1, hd => (h d (Nat.le_of_succ_le_succ hd)).overrides_map⟩
  | .none | .bool _ | .int _ | .float _ | .text _ | .date _ | .list _ | .tuple _ | .module ..
  | .object .. => ⟨0, fun _ _ => overrides_of_not_isMap rfl⟩

theorem exists_overridesAll : ∀ fs : Entries, ∃ depth, ∀ d, depth ≤ d → OverridesAll d fs
  | [] => ⟨0, fun _ _ => overridesAll_nil⟩
  | (_, v) :: fs => by
    obtain ⟨d₁, hv⟩ := exists_overrides v
    obtain ⟨d₂, hfs⟩ := exists_overridesAll fs
    refine ⟨max d₁ d₂, fun d hd => .cons (hv d ?_) (hfs d ?_)⟩
    · exact (le_max_left d₁ d₂).trans hd
    · exact (le_max_right d₁ d₂).trans hd

end

/-- Whether the mapping at an address binds just these entries. -/
def IsAt (m : Memory) (n : Nat) (es : Entries) : Prop :=
  StandsFor m [] (.mapping n) (.map false es)

/-- Merging two mappings makes a third one, and all that was in memory stays as it was. -/
theorem merge_isAt (hx : m.IsAt x es) (hy : m.IsAt y fs) : ∃ depth, ∀ d, depth ≤ d →
    ∃ m' z, merge d m x y = some (m', z) ∧ m <+: m' ∧ m'.IsAt x es ∧ m'.IsAt y fs ∧
      m'.IsAt z (Value.mergeEntries es fs) := by
  obtain ⟨depth, h⟩ := exists_overridesAll fs
  refine ⟨depth + 1, fun | d + 1, hd => ?_⟩
  obtain ⟨m', z, hm, hk, hz⟩ :=
    (h d (Nat.le_of_succ_le_succ hd)).standsFor_merge hx hy (by simp)
  refine ⟨m', z, hm, ?_, hk.standsFor hx, hk.standsFor hy, hz⟩
  refine List.prefix_iff_getElem?.mpr fun n hn => ?_
  rw [hk.record n List.not_mem_nil hn, List.getElem?_eq_getElem hn]

example :
    merge 1 [[(.text "width", .value (.int 800))], [(.text "width", .value (.int 1024))]] 0 1 =
    some ([[(.text "width", .value (.int 800))], [(.text "width", .value (.int 1024))],
      [(.text "width", .value (.int 1024))]], 2) := rfl

end Memory

end TapScript
