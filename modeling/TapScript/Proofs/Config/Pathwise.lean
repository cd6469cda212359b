import TapScript.Proofs.Config.Memory

/-! # Merging along paths

A path is a list of keys, each of which leads into one more mapping. If what lies along a path is a
mapping on both sides, the merge holds at its end what one of the two sides holds there, or the
merge of what both hold.

All of this is about keys that are the same as themselves. A value does not tell apart keys that
stand for nothing, such as doubles that are no number, and so cannot be found again by them.
-/

namespace TapScript

namespace Value

variable {k v w : Value} {v? : Option Value} {es fs : Entries} {path : List Value}

/-- Whether entries bind keys, and each of them once. -/
structure IsKeyed (es : Entries) : Prop where
  keys : ∀ e ∈ es, e.1.IsKey
  apart : es.Pairwise fun e f => e.1.same f.1 = false

theorem IsKeyed.of_cons {e : Value × Value} (h : IsKeyed (e :: es)) : IsKeyed es where
  keys f hf := h.keys f (List.mem_cons_of_mem _ hf)
  apart := (List.pairwise_cons.mp h.apart).2

theorem IsKeyed.not_same_of_cons {e : Value × Value} (h : IsKeyed (e :: es)) :
    ∀ f ∈ es, e.1.same f.1 = false :=
  (List.pairwise_cons.mp h.apart).1

theorem IsKeyed.bindsKeyOnce (h : IsKeyed es) (hk : IsKey k) : BindsKeyOnce es k := by
  refine h.apart.imp fun {e f} hef he => Bool.eq_false_iff.mpr fun hf => ?_
  rw [← hk.same_congr (hk.same_comm.mpr hf) e.1, he] at hef
  cases hef

/-- Only keys are bound. -/
theorem IsKeyed.under?_eq_none (h : IsKeyed es) (hk : ¬ IsKey k) :
    Value.under? es k = Option.none :=
  under?_eq_none_iff_not_same.mpr fun e he =>
    Bool.eq_false_iff.mpr fun hs => hk ((h.keys e he).of_same hs)

theorem IsKeyed.under?_of_mem (h : IsKeyed es) {e : Value × Value} (he : e ∈ es) :
    Value.under? es e.1 = some e.2 := by
  induction es with
  | nil => cases he
  | cons f es ih =>
    obtain ⟨j, v⟩ := f
    rcases List.mem_cons.mp he with rfl | he
    · exact under?_cons_of_same (h.keys _ List.mem_cons_self).same_self
    · rw [under?_cons_of_not_same (h.not_same_of_cons e he)]
      exact ih h.of_cons he

/-- Binding a key to what it is bound to changes nothing. -/
theorem IsKeyed.bindTo_eq_self (h : IsKeyed es) (hv : Value.under? es k = some v) :
    Value.bindTo es k v = es := by
  have hr : ∀ e ∈ es, (if e.1.same k then (e.1, v) else e) = e := by
    intro e he
    split
    · next hs =>
      have hu : Value.under? es e.1 = some e.2 := h.under?_of_mem he
      rw [(h.keys e he).under?_congr hs, hv] at hu
      cases hu
      rfl
    · rfl
  rw [bindTo_eq, if_pos (any_same_iff.mpr (hv ▸ nofun))]
  exact (List.map_congr_left hr).trans (List.map_id' es)

/-! ### The order of keys -/

theorem keys_bindTo : (bindTo es k v).map (·.1) =
    es.map (·.1) ++ if (under? es k).isNone then [k] else [] := by
  rw [bindTo_eq]
  split
  · next h =>
    rw [if_neg (by simpa using any_same_iff.mp h), List.append_nil, rebind, List.map_map]
    refine List.map_congr_left fun e _ => ?_
    dsimp only [Function.comp_apply]
    split <;> rfl
  · next h =>
    rw [if_pos (by simpa using not_not.mp (mt any_same_iff.mpr h)), List.map_append]
    rfl

/-- The keys that are bound stay in their order, and the new ones follow in theirs. -/
theorem keys_mergeEntries (h : IsKeyed fs) : (mergeEntries es fs).map (·.1) =
    es.map (·.1) ++ (fs.map (·.1)).filter fun k => (under? es k).isNone := by
  induction fs generalizing es with
  | nil => simp [mergeEntries]
  | cons f fs ih =>
    obtain ⟨k, v⟩ := f
    -- binding the first key makes no other of the keys known
    have hnew : ∀ j ∈ fs.map (·.1),
        (under? (bindTo es k (overriding (under? es k) v)) j).isNone = (under? es j).isNone := by
      intro j hj
      obtain ⟨f, hf, rfl⟩ := List.mem_map.mp hj
      rw [under?_bindTo_of_not_same (h.of_cons.keys f hf) (h.not_same_of_cons f hf)]
    rw [mergeEntries, ih h.of_cons, keys_bindTo, List.filter_congr hnew, List.map_cons,
      List.filter_cons, List.append_assoc]
    split <;> rfl

theorem IsKeyed.mergeEntries (he : IsKeyed es) (hf : IsKeyed fs) :
    IsKeyed (Value.mergeEntries es fs) := by
  constructor
  · intro e h
    have hm : e.1 ∈ (Value.mergeEntries es fs).map (·.1) := List.mem_map_of_mem h
    rw [keys_mergeEntries hf] at hm
    rcases List.mem_append.mp hm with hm | hm
    · obtain ⟨e', he', h'⟩ := List.mem_map.mp hm
      exact h' ▸ he.keys e' he'
    · obtain ⟨f, hf', h'⟩ := List.mem_map.mp (List.mem_filter.mp hm).1
      exact h' ▸ hf.keys f hf'
  · suffices ((Value.mergeEntries es fs).map (·.1)).Pairwise fun j k => j.same k = false from
      List.pairwise_map.mp this
    rw [keys_mergeEntries hf]
    refine List.pairwise_append.mpr ⟨List.pairwise_map.mpr he.apart, ?_, ?_⟩
    · exact List.Pairwise.filter _ (List.pairwise_map.mpr hf.apart)
    · intro j hj k hk
      obtain ⟨e, he, rfl⟩ := List.mem_map.mp hj
      have hn := Option.isNone_iff_eq_none.mp (List.mem_filter.mp hk).2
      exact under?_eq_none_iff_not_same.mp hn e he

/-! ### Nested mappings -/

/-- Mappings nested in mappings, each of which can be changed and binds its keys once. -/
inductive IsTree : Value → Prop
  | leaf {v : Value} (h : v.isMap = false) : IsTree v
  | map {es : Entries} (keyed : IsKeyed es) (values : ∀ e ∈ es, e.2.IsTree) :
      IsTree (.map false es)

theorem IsTree.eq_false {b : Bool} (h : IsTree (.map b es)) : b = false := by
  cases h with
  | leaf h => cases h
  | map _ _ => rfl

theorem IsTree.keyed (h : IsTree (.map false es)) : IsKeyed es := by
  cases h with
  | leaf h => cases h
  | map keyed _ => exact keyed

theorem IsTree.bound (h : IsTree (.map false es)) (hv : under? es k = some v) : v.IsTree := by
  obtain ⟨e, he, -, rfl⟩ := under?_mem hv
  cases h with
  | leaf h => cases h
  | map _ values => exact values e he

/-- What a key is bound to in the merge of two trees. -/
theorem IsTree.under?_mergeEntries (he : IsTree (.map false es)) (hf : IsTree (.map false fs)) :
    Value.under? (mergeEntries es fs) k =
      ((Value.under? fs k).map (overriding (Value.under? es k))).or (Value.under? es k) := by
  by_cases hk : IsKey k
  · exact under?_mergeEntries_of_once hk (hf.keyed.bindsKeyOnce hk)
  · -- what is no key is bound nowhere
    rw [he.keyed.under?_eq_none hk, hf.keyed.under?_eq_none hk,
      (he.keyed.mergeEntries hf.keyed).under?_eq_none hk]
    rfl

/-! ### Merging what is merged already -/

/-- Nothing changes if each key is bound already to what would override it. -/
theorem mergeEntries_eq_self (h : IsKeyed es)
    (hf : ∀ f ∈ fs, ∃ w, under? es f.1 = some w ∧ overriding (some w) f.2 = w) :
    mergeEntries es fs = es := by
  induction fs with
  | nil => rw [mergeEntries]
  | cons f fs ih =>
    obtain ⟨k, v⟩ := f
    obtain ⟨w, hw, ho⟩ := hf _ List.mem_cons_self
    rw [mergeEntries, hw, ho, h.bindTo_eq_self hw]
    exact ih fun f h => hf f (List.mem_cons_of_mem _ h)

/-- A tree that overrides itself stays as it is. -/
theorem IsTree.overriding_self (h : IsTree v) : overriding (some v) v = v := by
  induction h with
  | leaf h => exact overriding_of_not_isMap h
  | @map es keyed values ih =>
    rw [overriding_map, mergeEntries_eq_self keyed]
    intro e he
    exact ⟨e.2, keyed.under?_of_mem he, ih e he⟩

theorem IsTree.mergeEntries_self (h : IsTree (.map false es)) : mergeEntries es es = es := by
  have hs := h.overriding_self
  rw [overriding_map] at hs
  injection hs

/-- What has overridden a value changes nothing when it overrides the outcome. -/
theorem IsTree.overriding_overriding (h : IsTree v) (hb : ∀ w, v? = some w → w.IsTree) :
    overriding (some (overriding v? v)) v = overriding v? v := by
  induction h generalizing v? with
  | leaf h => rw [overriding_of_not_isMap h, overriding_of_not_isMap h]
  | @map fs keyed values ih =>
    have hfs : IsTree (.map false fs) := .map keyed values
    by_cases hm : ∃ b es, v? = some (.map b es)
    · obtain ⟨b, es, rfl⟩ := hm
      have hes : IsTree (.map b es) := hb _ rfl
      obtain rfl : b = false := hes.eq_false
      rw [overriding_map, overriding_map, mergeEntries_eq_self (hes.keyed.mergeEntries keyed)]
      -- every key is bound already to what has overridden it
      intro f hf
      refine ⟨overriding (Value.under? es f.1) f.2, ?_, ?_⟩
      · rw [hes.under?_mergeEntries hfs, keyed.under?_of_mem hf]
        rfl
      · exact ih f hf fun w hw => hes.bound hw
    · rw [overriding_of_not_map fun b es h => hm ⟨b, es, h⟩, hfs.overriding_self]

theorem IsTree.mergeEntries_mergeEntries (he : IsTree (.map false es))
    (hf : IsTree (.map false fs)) :
    mergeEntries (mergeEntries es fs) fs = mergeEntries es fs := by
  have ho := hf.overriding_overriding fun w (hw : some (.map false es) = some w) =>
    Option.some.inj hw ▸ he
  rw [overriding_map, overriding_map] at ho
  injection ho

/-! ### Paths -/

/-- What a value holds at the end of a path. -/
def descend? : Value → List Value → Option Value
  | v, [] => some v
  | map false es, k :: path => (under? es k).bind fun v => descend? v path
  | _, _ :: _ => Option.none

theorem descend?_map_cons : descend? (map false es) (k :: path) =
    (under? es k).bind fun v => descend? v path := by
  rw [descend?]

/-- Whether two values both hold mappings along a path, up to where it ends. -/
def MapsAlong (v w : Value) (path : List Value) : Prop :=
  ∀ way, way <+: path → way ≠ path →
    (∃ es, v.descend? way = some (map false es)) ∧ ∃ fs, w.descend? way = some (map false fs)

theorem MapsAlong.heads (h : MapsAlong (map false es) (map false fs) (k :: path))
    (hp : path ≠ []) : (∃ es', under? es k = some (map false es')) ∧
      ∃ fs', under? fs k = some (map false fs') := by
  have hk := h [k] (List.prefix_cons_inj k |>.mpr List.nil_prefix) (by simpa using hp.symm)
  simpa [descend?] using hk

theorem MapsAlong.tail {es' fs' : Entries}
    (h : MapsAlong (map false es) (map false fs) (k :: path))
    (he : under? es k = some (map false es')) (hf : under? fs k = some (map false fs')) :
    MapsAlong (map false es') (map false fs') path := by
  intro way hw hne
  have hk := h (k :: way) ((List.prefix_cons_inj k).mpr hw) (by simpa using hne)
  simpa [descend?_map_cons, he, hf] using hk

/-- What a merge holds at a place where the first and the second side hold what they hold. -/
inductive MergedAt : (first? second? merge? : Option Value) → Prop
  | kept {v? : Option Value} : MergedAt v? .none v?
  | merged {es fs : Entries} :
      MergedAt (some (.map false es)) (some (.map false fs))
        (some (.map false (mergeEntries es fs)))
  | overridden {v? : Option Value} {w : Value}
      (h : ∀ es fs, v? = some (.map false es) → w ≠ .map false fs) : MergedAt v? (some w) (some w)

/-- What one key leads to. -/
theorem IsTree.mergedAt_under? (he : IsTree (.map false es)) (hf : IsTree (.map false fs))
    (k : Value) :
    MergedAt (Value.under? es k) (Value.under? fs k) (Value.under? (mergeEntries es fs) k) := by
  rw [he.under?_mergeEntries hf]
  cases hw : Value.under? fs k with
  | none => exact .kept
  | some w =>
    rw [Option.map_some, Option.some_or]
    unfold overriding
    split
    · next b es' b' fs' hv =>
      obtain rfl : b = false := (he.bound hv).eq_false
      obtain rfl : b' = false := (hf.bound hw).eq_false
      rw [hv]
      exact .merged
    · next hn => exact .overridden fun es' fs' hv hw => hn false es' false fs' hv hw

/-- What a path leads to. -/
theorem IsTree.mergedAt_descend? (he : IsTree (.map false es)) (hf : IsTree (.map false fs))
    (h : MapsAlong (.map false es) (.map false fs) path) :
    MergedAt (descend? (.map false es) path) (descend? (.map false fs) path)
      (descend? (.map false (mergeEntries es fs)) path) := by
  induction path generalizing es fs with
  | nil =>
    simp only [descend?]
    exact .merged
  | cons k path ih =>
    simp only [descend?_map_cons]
    by_cases hp : path = []
    · subst hp
      have hk := he.mergedAt_under? hf k
      simpa only [descend?, Option.bind_fun_some] using hk
    · -- the path goes on in mappings on both sides, and so in the merge of these
      obtain ⟨⟨es', he'⟩, fs', hf'⟩ := h.heads hp
      have hm : Value.under? (mergeEntries es fs) k = some (.map false (mergeEntries es' fs')) := by
        rw [he.under?_mergeEntries hf, he', hf', Option.map_some, overriding_map, Option.some_or]
      rw [he', hf', hm]
      exact ih (he.bound he') (hf.bound hf') (h.tail he' hf')

theorem IsTree.descend? (h : IsTree v) (hw : Value.descend? v path = some w) : w.IsTree := by
  induction path generalizing v with
  | nil =>
    rw [Value.descend?] at hw
    cases hw
    exact h
  | cons k path ih =>
    cases v with
    | map b es =>
      obtain rfl : b = false := h.eq_false
      rw [descend?_map_cons] at hw
      obtain ⟨u, hu, hw⟩ := Option.bind_eq_some_iff.mp hw
      exact ih (h.bound hu) hw
    | _ => simp [Value.descend?] at hw

/-- The laws of merging two mappings with mappings nested in them. -/
structure MergeLaws (a b : Entries) : Prop where
  /-- Along mappings on both sides, a path leads to what its two ends make it lead to. -/
  pathwise : ∀ path, MapsAlong (.map false a) (.map false b) path →
    MergedAt (Value.descend? (.map false a) path) (Value.descend? (.map false b) path)
      (Value.descend? (.map false (mergeEntries a b)) path)
  /-- Wherever two mappings are merged, the keys of the first come first, then the new ones. -/
  order : ∀ path es fs, MapsAlong (.map false a) (.map false b) path →
    Value.descend? (.map false a) path = some (.map false es) →
    Value.descend? (.map false b) path = some (.map false fs) →
    ∃ gs, Value.descend? (.map false (mergeEntries a b)) path = some (.map false gs) ∧
      gs.map (·.1) = es.map (·.1) ++ (fs.map (·.1)).filter fun k => (Value.under? es k).isNone
  self : mergeEntries a a = a
  again : mergeEntries (mergeEntries a b) b = mergeEntries a b
  /-- In memory, the merge is a mapping of its own, and no mapping is changed. This is so at any
  depth to which calls may be nested that is enough for the merge. -/
  unchanged : ∀ m x y, Memory.IsAt m x a → Memory.IsAt m y b → ∃ depth, ∀ d, depth ≤ d →
    ∃ m' z, Memory.merge d m x y = some (m', z) ∧ m <+: m' ∧ m'.IsAt x a ∧ m'.IsAt y b ∧
      m'.IsAt z (mergeEntries a b)

theorem IsTree.mergeLaws {a b : Entries} (ha : IsTree (.map false a)) (hb : IsTree (.map false b)) :
    MergeLaws a b where
  pathwise _ h := ha.mergedAt_descend? hb h
  order path es fs h hes hfs := by
    have hm := ha.mergedAt_descend? hb h
    generalize hg : Value.descend? (.map false (mergeEntries a b)) path = g? at hm ⊢
    rw [hes, hfs] at hm
    cases hm with
    | merged => exact ⟨_, rfl, keys_mergeEntries (hb.descend? hfs).keyed⟩
    | overridden h => exact absurd rfl (h es fs rfl)
  self := ha.mergeEntries_self
  again := ha.mergeEntries_mergeEntries hb
  unchanged _ _ _ := Memory.merge_isAt

/-- A width and an empty section, over a browser without a window that has another width. -/
theorem mergeLaws_browser :
    MergeLaws
      [(.text "browser", .map false [(.text "headless", .bool false), (.text "width", .int 800)])]
      [(.text "browser", .map false [(.text "width", .int 1024)]),
        (.text "run", .map false [])] := by
  apply IsTree.mergeLaws
  · refine .map ⟨by simp [isKey_text], by simp⟩ ?_
    simp only [List.forall_mem_singleton]
    refine .map ⟨by simp [isKey_text], by simp [same, sameScalar]⟩ ?_
    simp only [List.forall_mem_cons]
    exact ⟨.leaf rfl, .leaf rfl, fun _ h => absurd h List.not_mem_nil⟩
  · refine .map ⟨by simp [isKey_text], by simp [same, sameScalar]⟩ ?_
    rw [List.forall_mem_cons, List.forall_mem_singleton]
    refine ⟨.map ⟨by simp [isKey_text], by simp⟩ ?_, .map ⟨by simp, .nil⟩ (by simp)⟩
    simp only [List.forall_mem_singleton]
    exact .leaf rfl

end Value

end TapScript
