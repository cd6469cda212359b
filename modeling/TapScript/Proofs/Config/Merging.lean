import TapScript.Config.Merge
import TapScript.Proofs.Config.Keys

/-! # Look-up after merging

What a merged mapping binds a key to is what the overriding mapping binds it to, merged with what
was bound before where both are mappings, and otherwise what was bound before. This needs that the
overriding mapping binds the key once, as every mapping does that a document writes.
-/

namespace TapScript

namespace Value

variable {k v w : Value} {s s' : String} {es fs : Entries}

theorem same_text : k.same (.text s) = true ↔ k = .text s := by
  cases k <;> simp [same, sameScalar, integer?]

theorem text_same : (text s).same k = true ↔ k = .text s := by
  cases k with
  | text t => simpa [same, sameScalar] using eq_comm
  | _ => simp [same, sameScalar, integer?]

theorem isKey_text : IsKey (.text s) :=
  ⟨_, rfl⟩

theorem under?_cons_self : under? ((.text s, v) :: es) (.text s) = some v :=
  under?_cons_of_same isKey_text.same_self

theorem under?_cons_of_ne (h : k ≠ .text s) :
    under? ((k, v) :: es) (.text s) = under? es (.text s) :=
  under?_cons_of_not_same (Bool.eq_false_iff.mpr (mt same_text.mp h))

theorem under?_eq_none_iff : under? es (.text s) = Option.none ↔ ∀ e ∈ es, e.1 ≠ .text s := by
  simp [under?_eq_none_iff_not_same, Bool.eq_false_iff, same_text]

/-- Whether entries bind a key at most once. -/
def BindsKeyOnce (es : Entries) (k : Value) : Prop :=
  es.Pairwise fun e f => e.1.same k = true → f.1.same k = false

/-- What a key is bound to after overriding. -/
theorem under?_mergeEntries_of_once (hk : IsKey k) (h : BindsKeyOnce fs k) :
    under? (mergeEntries es fs) k =
      ((under? fs k).map (overriding (under? es k))).or (under? es k) := by
  induction fs generalizing es with
  | nil =>
    rw [mergeEntries]
    rfl
  | cons f fs ih =>
    obtain ⟨j, v⟩ := f
    obtain ⟨hj, h⟩ := List.pairwise_cons.mp h
    rw [mergeEntries, ih h]
    cases hs : j.same k with
    | true =>
      have hnone : under? fs k = Option.none :=
        under?_eq_none_iff_not_same.mpr fun e he => hj e he hs
      have hjk : k.same j = true := hk.same_comm.mpr hs
      rw [hnone, under?_cons_of_same hs, hk.under?_congr hjk, hk.under?_congr hjk,
        under?_bindTo_self (hk.of_same hjk)]
      rfl
    | false => rw [under?_bindTo_of_not_same hk hs, under?_cons_of_not_same hs]

/-- Whether entries bind each text key at most once. -/
def BindsOnce (es : Entries) : Prop :=
  es.Pairwise fun e f => ∀ s, e.1 = .text s → f.1 ≠ .text s

theorem BindsOnce.tail {e : Value × Value} (h : BindsOnce (e :: es)) : BindsOnce es :=
  (List.pairwise_cons.mp h).2

/-- What a text key is bound to after overriding. -/
theorem under?_mergeEntries (h : BindsOnce fs) : under? (mergeEntries es fs) (.text s) =
    ((under? fs (.text s)).map (overriding (under? es (.text s)))).or (under? es (.text s)) := by
  refine under?_mergeEntries_of_once isKey_text (h.imp fun {e f} hef hs => ?_)
  exact Bool.eq_false_iff.mpr fun hs' => hef s (same_text.mp hs) (same_text.mp hs')

/-! ### Mappings all the way down -/

/-- A value all of whose mappings bind each text key once. -/
inductive Orderly : Value → Prop
  | leaf {v : Value} (hl : ∀ vs, v ≠ .list vs) (hm : ∀ b es, v ≠ .map b es) : Orderly v
  | list {vs : List Value} (h : ∀ v ∈ vs, Orderly v) : Orderly (.list vs)
  | map {b : Bool} {es : Entries} (hb : BindsOnce es) (h : ∀ e ∈ es, Orderly e.2) :
      Orderly (.map b es)

theorem Orderly.nil {b : Bool} : Orderly (.map b []) :=
  .map .nil fun _ h => absurd h List.not_mem_nil

theorem BindsOnce.bindTo (h : BindsOnce es) (k v : Value) : BindsOnce (bindTo es k v) := by
  rw [bindTo_eq]
  split
  · refine List.pairwise_map.mpr (h.imp fun {e f} hef => ?_)
    split <;> split <;> exact hef
  · next hk =>
    refine List.pairwise_append.mpr ⟨h, List.pairwise_singleton _ _, ?_⟩
    refine fun e he f hf s hs hfs => hk ?_
    rw [List.mem_singleton] at hf
    subst hf
    dsimp only at hfs
    exact List.any_eq_true.mpr ⟨e, he, by rw [hfs, same_text, hs]⟩

theorem mem_bindTo {k : Value} {e : Value × Value} (h : e ∈ bindTo es k v) :
    e.2 = v ∨ e ∈ es := by
  rw [bindTo_eq] at h
  split at h
  · obtain ⟨f, hf, rfl⟩ := List.mem_map.mp h
    split
    · exact .inl rfl
    · exact .inr hf
  · rcases List.mem_append.mp h with h | h
    · exact .inr h
    · exact .inl (by rw [List.mem_singleton.mp h])

theorem Orderly.entries {b : Bool} (h : Orderly (.map b es)) :
    BindsOnce es ∧ ∀ e ∈ es, e.2.Orderly := by
  cases h with
  | leaf _ hm => exact absurd rfl (hm _ _)
  | map hb h => exact ⟨hb, h⟩

theorem Orderly.items {vs : List Value} (h : Orderly (.list vs)) : ∀ v ∈ vs, v.Orderly := by
  cases h with
  | leaf hl _ => exact absurd rfl (hl _)
  | list h => exact h

/-- Entries that come later bind keys anew, so none is bound twice. -/
theorem Orderly.foldl_bindTo {b : Bool} (hf : ∀ e ∈ fs, e.2.Orderly) (he : Orderly (.map b es)) :
    Orderly (.map b (fs.foldl (fun es e => Value.bindTo es e.1 e.2) es)) := by
  induction fs generalizing es with
  | nil => exact he
  | cons f fs ih =>
    refine ih (fun e h => hf e (List.mem_cons_of_mem _ h)) (.map (he.entries.1.bindTo _ _) ?_)
    intro e h
    rcases mem_bindTo h with h | h
    · exact h ▸ hf f List.mem_cons_self
    · exact he.entries.2 e h

theorem Orderly.under? {b : Bool} {k : Value} (h : Orderly (.map b es))
    (hv : under? es k = some v) : v.Orderly := by
  obtain ⟨e, he, -, rfl⟩ := under?_mem hv
  exact h.entries.2 e he

mutual

theorem Orderly.overriding : ∀ {base : Option Value} {v : Value},
    (∀ w, base = some w → w.Orderly) → v.Orderly → (overriding base v).Orderly
  | base, v, hb, hv => by
    unfold Value.overriding
    split
    · exact Orderly.mergeEntries (hb _ rfl) hv
    · exact hv

/-- Overriding keeps the keys of mappings apart. -/
theorem Orderly.mergeEntries : ∀ {b b' b'' : Bool} {es fs : Entries}, Orderly (.map b es) →
    Orderly (.map b' fs) → Orderly (.map b'' (mergeEntries es fs))
  | _, _, _, es, [], he, _ => by
    rw [Value.mergeEntries]
    exact .map he.entries.1 he.entries.2
  | b, b', _, es, (k, v) :: fs, he, hf => by
    rw [Value.mergeEntries]
    have hv : (Value.overriding (Value.under? es k) v).Orderly :=
      Orderly.overriding (fun w hw => he.under? hw) (hf.entries.2 _ List.mem_cons_self)
    have hs : Orderly (.map b (bindTo es k (Value.overriding (Value.under? es k) v))) := by
      refine .map (he.entries.1.bindTo k _) fun e h => ?_
      rcases mem_bindTo h with h | h
      · exact h ▸ hv
      · exact he.entries.2 e h
    have ht : Orderly (.map b' fs) :=
      .map hf.entries.1.tail fun e h => hf.entries.2 e (List.mem_cons_of_mem _ h)
    exact Orderly.mergeEntries hs ht

end

/-! ### Places -/

/-- The entries of what stands in the place of a section; a section that is not there has none. -/
def entries? : Option Value → Option Entries
  | Option.none => some []
  | some (map _ fs) => some fs
  | some _ => Option.none

/-- The entries of a section. -/
def sectionOf? (es : Entries) (name : String) : Option Entries :=
  entries? (under? es (.text name))

/-- The value at a place: under a key of a section, or under a key by itself. -/
def at? (es : Entries) (group? : Option String) (key : String) : Option Value :=
  match group? with
  | Option.none => under? es (.text key)
  | some group => (sectionOf? es group).bind fun fs => under? fs (.text key)

variable {group? : Option String} {g key : String}

theorem at?_nil : at? [] group? key = Option.none := by
  cases group? <;> rfl

theorem overriding_none : overriding Option.none v = v := by
  unfold overriding
  rfl

theorem overriding_of_not_isMap {base : Option Value} (h : v.isMap = false) :
    overriding base v = v := by
  unfold overriding
  split
  · cases h
  · rfl

theorem overriding_map {b b' : Bool} :
    overriding (some (map b es)) (map b' fs) = map false (mergeEntries es fs) := by
  rw [overriding]

theorem overriding_of_not_map {base : Option Value} (h : ∀ b es, base ≠ some (map b es)) :
    overriding base v = v := by
  unfold overriding
  split
  · exact absurd rfl (h _ _)
  · rfl

theorem entries?_eq_some {v? : Option Value} (h : entries? v? = some es) :
    v? = Option.none ∧ es = [] ∨ ∃ b, v? = some (map b es) := by
  unfold entries? at h
  split at h <;> cases h
  · exact .inl ⟨rfl, rfl⟩
  · exact .inr ⟨_, rfl⟩

theorem isSome_sectionOf? (h : ∀ v, under? es (.text g) = some v → v.isMap = true) :
    (sectionOf? es g).isSome := by
  unfold sectionOf? entries?
  split
  · rfl
  · rfl
  · next v hn hv =>
    cases v with
    | map b fs => exact absurd rfl (hn b fs)
    | _ => cases h _ hv

theorem sectionOf?_mergeEntries {b : Bool} (hf : Orderly (.map b fs)) {es' fs' : Entries}
    (he : sectionOf? es g = some es') (hg : sectionOf? fs g = some fs') :
    ∃ gs, sectionOf? (mergeEntries es fs) g = some gs ∧ ∀ key, under? gs (.text key) =
      ((under? fs' (.text key)).map (overriding (under? es' (.text key)))).or
        (under? es' (.text key)) := by
  unfold sectionOf? at he hg ⊢
  rw [under?_mergeEntries hf.entries.1]
  obtain ⟨hfs, rfl⟩ | ⟨b', hfs⟩ := entries?_eq_some hg
  · rw [hfs]
    exact ⟨es', he, fun _ => rfl⟩
  · rw [hfs, Option.map_some, Option.some_or]
    obtain ⟨hes, rfl⟩ | ⟨b, hes⟩ := entries?_eq_some he
    · rw [hes, overriding_none]
      refine ⟨fs', rfl, fun key => ?_⟩
      rw [under?_nil, Option.or_none, funext fun v => overriding_none (v := v), Option.map_id']
    · rw [hes, overriding]
      exact ⟨_, rfl, fun key => under?_mergeEntries (hf.under? hfs).entries.1⟩

theorem isSome_sectionOf?_mergeEntries {b : Bool} (hf : Orderly (.map b fs))
    (he : (sectionOf? es g).isSome) (hg : (sectionOf? fs g).isSome) :
    (sectionOf? (mergeEntries es fs) g).isSome := by
  obtain ⟨es', he⟩ := Option.isSome_iff_exists.mp he
  obtain ⟨fs', hg⟩ := Option.isSome_iff_exists.mp hg
  obtain ⟨gs, hm, -⟩ := sectionOf?_mergeEntries hf he hg
  exact Option.isSome_iff_exists.mpr ⟨gs, hm⟩

/-- What a place holds after overriding, if the sections of both are mappings. -/
theorem at?_mergeEntries {b : Bool} (hf : Orderly (.map b fs))
    (hs : ∀ g ∈ group?, (sectionOf? es g).isSome ∧ (sectionOf? fs g).isSome) :
    at? (mergeEntries es fs) group? key =
      ((at? fs group? key).map (overriding (at? es group? key))).or (at? es group? key) := by
  cases group? with
  | none => exact under?_mergeEntries hf.entries.1
  | some g =>
    obtain ⟨he, hg⟩ := hs g rfl
    obtain ⟨es', he⟩ := Option.isSome_iff_exists.mp he
    obtain ⟨fs', hg⟩ := Option.isSome_iff_exists.mp hg
    obtain ⟨gs, hm, hgs⟩ := sectionOf?_mergeEntries hf he hg
    simp only [at?, he, hg, hm, Option.bind_some, hgs]

/-- What overrides stays, unless it is a mapping. -/
theorem at?_mergeEntries_of_at? {b : Bool} (hf : Orderly (.map b fs))
    (h : at? fs group? key = some v) (hv : v.isMap = false) :
    at? (mergeEntries es fs) group? key = some v := by
  cases group? with
  | none =>
    rw [at?] at h ⊢
    rw [under?_mergeEntries hf.entries.1, h, Option.map_some, overriding_of_not_isMap hv]
    rfl
  | some g =>
    obtain ⟨fs', hg, hk⟩ := Option.bind_eq_some_iff.mp h
    cases hes : sectionOf? es g with
    | some es' =>
      rw [at?_mergeEntries hf fun g' hg' => by cases hg'; simp [hes, hg], h, Option.map_some,
        overriding_of_not_isMap hv]
      rfl
    | none =>
      -- what stood in place of the section is no mapping and goes
      suffices sectionOf? (mergeEntries es fs) g = some fs' from
        Option.bind_eq_some_iff.mpr ⟨fs', this, hk⟩
      unfold sectionOf? at hg hes ⊢
      rw [under?_mergeEntries hf.entries.1]
      obtain ⟨-, rfl⟩ | ⟨b', hfs⟩ := entries?_eq_some hg
      · cases hk
      · rw [hfs, Option.map_some, Option.some_or]
        unfold overriding
        split
        · next hw _ =>
          rw [hw] at hes
          cases hes
        · rfl

end Value

end TapScript
