import TapScript.Proofs.Config.Merging
import TapScript.Proofs.Outcome
import TapScript.Yaml.File

/-! # The values that documents write

Every mapping that is read from a document binds each text key once, at every depth: its entries
are bound one after the other, and a key that comes again is bound anew in its old place. What
remains to be shown is that no mapping comes from a scalar. That is kept by every step that builds
a tree, as it must hold of the trees behind anchors too.
-/

namespace TapScript

namespace Yaml

/-! ### Trees -/

namespace Scalar

/-- A scalar that stands for an orderly value, if for any. -/
def IsPlain : Scalar → Prop
  | value v => v.Orderly
  | _ => True

theorem ofDay_isPlain (d : Day) : (ofDay d).IsPlain := by
  unfold ofDay
  repeat' split
  all_goals first | exact trivial | exact .leaf nofun nofun

theorem ofMoment_isPlain (t : Moment) : (ofMoment t).IsPlain := by
  have hday := ofDay_isPlain t.day
  unfold ofMoment
  split
  · exact trivial
  · split
    · repeat' split
      all_goals first
        | exact trivial
        | exact .leaf (by simp [Moment.toValue]) (by simp [Moment.toValue])
    · exact hday

theorem ofInteger_isPlain (cs : List Char) (n : Int) : (ofInteger cs n).IsPlain := by
  unfold ofInteger
  split
  · exact trivial
  · exact trivial
  · exact .leaf nofun nofun

theorem ofPlain_isPlain (s : String) : (ofPlain s).IsPlain := by
  unfold ofPlain
  dsimp only
  repeat' split
  all_goals first
    | exact trivial
    | exact .leaf nofun nofun
    | exact ofDay_isPlain _
    | exact ofMoment_isPlain _
    | exact ofInteger_isPlain _ _

end Scalar

/-- A tree all of whose scalars stand for orderly values. -/
inductive Node.IsPlain : Node → Prop
  | scalar {s : Scalar} (h : s.IsPlain) : IsPlain (.scalar s)
  | seq {ns : List Node} (h : ∀ n ∈ ns, IsPlain n) : IsPlain (.seq ns)
  | map {es : List (Node × Node)} (hk : ∀ e ∈ es, IsPlain e.1) (hv : ∀ e ∈ es, IsPlain e.2) :
      IsPlain (.map es)

theorem Node.IsPlain.nil : Node.IsPlain (.map []) :=
  .map nofun nofun

theorem Node.IsPlain.cons {k v : Node} {es : List (Node × Node)} (h : Node.IsPlain (.map es))
    (hk : k.IsPlain) (hv : v.IsPlain) : Node.IsPlain (.map ((k, v) :: es)) := by
  cases h with
  | map hks hvs =>
    exact .map (List.forall_mem_cons.mpr ⟨hk, hks⟩) (List.forall_mem_cons.mpr ⟨hv, hvs⟩)

/-- A builder whose anchors mark plain trees. -/
def Builder.IsPlain (b : Builder) : Prop :=
  ∀ name n, b.anchors.lookup name = some n → n.IsPlain

theorem Builder.IsPlain.mark {b : Builder} {n : Node} (hb : b.IsPlain) (hn : n.IsPlain)
    (name : String) : Builder.IsPlain { b with anchors := (name, n) :: b.anchors } := by
  intro name' n' h
  rw [List.lookup_cons] at h
  split at h
  · cases h
    exact hn
  · exact hb name' n' h

namespace Build

variable {α β : Type} {P : α → Prop} {Q : β → Prop} {m : Build α} {k : α → Build β}

/-- A computation that keeps anchors plain and yields only what has a property. -/
def Yields (P : α → Prop) (m : Build α) : Prop :=
  ∀ b a b', b.IsPlain → m.run b = some (a, b') → P a ∧ b'.IsPlain

namespace Yields

theorem pure {a : α} (h : P a) : Yields P (Pure.pure a : Build α) := by
  intro b a b' hb hr
  cases hr
  exact ⟨h, hb⟩

theorem bind (hm : Yields P m) (hk : ∀ a, P a → Yields Q (k a)) : Yields Q (m >>= k) := by
  intro b c b' hb hr
  rw [StateT.run_bind] at hr
  obtain ⟨⟨a, b₁⟩, hm', hk'⟩ := Option.bind_eq_some_iff.mp hr
  obtain ⟨ha, hb₁⟩ := hm _ _ _ hb hm'
  exact hk a ha _ _ _ hb₁ hk'

theorem fail_bind {γ : Type} {k : γ → Build α} : Yields P (Build.fail >>= k) := by
  rintro _ _ _ _ ⟨⟩

theorem fail : Yields P (Build.fail : Build α) := by
  rintro _ _ _ _ ⟨⟩

theorem get : Yields Builder.IsPlain (MonadState.get : Build Builder) := by
  rintro b _ _ hb ⟨⟩
  exact ⟨hb, hb⟩

theorem modify {f : Builder → Builder} (h : ∀ b, b.IsPlain → (f b).IsPlain) :
    Yields (fun _ => True) (modify f : Build Unit) := by
  rintro b _ _ hb ⟨⟩
  exact ⟨trivial, h b hb⟩

theorem peek : Yields (fun _ => True) Build.peek :=
  get.bind fun _ _ => pure trivial

theorem skip : Yields (fun _ => True) Build.skip :=
  modify fun _ => id

theorem atAny (ts : List Token) : Yields (fun _ => True) (Build.atAny ts) :=
  peek.bind fun t _ => by cases t <;> exact pure trivial

theorem accept (t : Token) : Yields (fun _ => True) (Build.accept t) :=
  peek.bind fun t' _ => by
    split
    · exact skip.bind fun _ _ => pure trivial
    · exact pure trivial

theorem properties : Yields (fun _ => True) Build.properties := by
  refine peek.bind fun t _ => ?_
  split
  · refine skip.bind fun _ _ => peek.bind fun t _ => ?_
    split
    · exact skip.bind fun _ _ => pure trivial
    · exact pure trivial
  · refine skip.bind fun _ _ => peek.bind fun t _ => ?_
    split
    · exact skip.bind fun _ _ => pure trivial
    · exact pure trivial
  · exact pure trivial

end Yields

theorem empty_isPlain : empty.IsPlain :=
  .scalar (.leaf nofun nofun)

theorem tagged_yields (tag text : String) (plain : Bool) :
    Yields Node.IsPlain (tagged tag text plain) := by
  have hp := Scalar.ofPlain_isPlain text
  unfold tagged
  split
  · exact .pure (.scalar hp)
  · exact .pure (.scalar (.leaf nofun nofun))
  · exact .pure empty_isPlain
  · exact .pure (.scalar (.leaf nofun nofun))
  · exact .pure (.scalar (.leaf nofun nofun))
  · exact .pure (.scalar (.leaf nofun nofun))
  · exact .pure (.scalar (.leaf nofun nofun))
  · cases plain
    · exact .pure (.scalar (.leaf nofun nofun))
    · exact .pure (.scalar hp)
  · exact .fail

/-- What the computations with some fuel yield. -/
structure Sound (fuel : Nat) : Prop where
  node : ∀ block loose, Yields Node.IsPlain (node fuel block loose)
  content : ∀ block loose anchor tag, Yields Node.IsPlain (content fuel block loose anchor tag)
  nodeUnless : ∀ ends block loose, Yields Node.IsPlain (nodeUnless fuel ends block loose)
  blockItems : Yields (∀ n ∈ ·, Node.IsPlain n) (blockItems fuel)
  looseItems : Yields (∀ n ∈ ·, Node.IsPlain n) (looseItems fuel)
  blockEntries : Yields (fun es => Node.IsPlain (.map es)) (blockEntries fuel)
  flowItems : ∀ first, Yields (∀ n ∈ ·, Node.IsPlain n) (flowItems fuel first)
  flowEntries : ∀ first, Yields (fun es => Node.IsPlain (.map es)) (flowEntries fuel first)
  flowValue : ∀ ends, Yields Node.IsPlain (flowValue fuel ends)

theorem sound_zero : Sound 0 where
  node _ _ := .fail
  content _ _ _ _ := .fail
  nodeUnless _ _ _ := .fail
  blockItems := .fail
  looseItems := .fail
  blockEntries := .fail
  flowItems _ := .fail
  flowEntries _ := .fail
  flowValue _ := .fail

variable {fuel : Nat}

theorem Sound.node_succ (h : Sound fuel) (block loose : Bool) :
    Yields Node.IsPlain (Build.node (fuel + 1) block loose) := by
  rw [Build.node]
  refine .bind .peek fun t _ => ?_
  dsimp only
  split
  · refine .bind .skip fun _ _ => .bind .get fun b hb => ?_
    split
    · next n hn => exact .pure (hb _ n hn)
    · exact .fail_bind
  · refine .bind .properties fun p _ => .bind (h.content _ _ _ _) fun n hn => ?_
    split
    · refine .bind .get fun b _ => ?_
      split
      · exact .fail_bind
      · exact .bind (.modify fun b hb => hb.mark hn _) fun _ _ => .pure hn
    · exact .pure hn

theorem Sound.content_succ (h : Sound fuel) (block loose : Bool) (anchor : Option String)
    (tag : String) : Yields Node.IsPlain (Build.content (fuel + 1) block loose anchor tag) := by
  have collection : ∀ {allowed : String} {m : Build Node}, Yields Node.IsPlain m →
      Yields Node.IsPlain (do
        if tag != "" && tag != allowed && tag != "!" then Build.fail
        m) := by
    intro allowed m hm
    split
    · exact .fail_bind
    · exact hm
  rw [Build.content]
  refine .bind .peek fun t _ => ?_
  dsimp only
  split
  · split
    · exact collection (.bind h.looseItems fun _ hns => .pure (.seq hns))
    · split
      · exact tagged_yields _ _ _
      · exact .fail
  · exact .bind .skip fun _ _ => tagged_yields _ _ _
  · exact .bind .skip fun _ _ => collection (.bind (h.flowItems _) fun _ hns => .pure (.seq hns))
  · exact .bind .skip fun _ _ => collection (.bind (h.flowEntries _) fun _ hes => .pure hes)
  · split
    · exact .fail_bind
    · exact .bind .skip fun _ _ => collection (.bind h.blockItems fun _ hns => .pure (.seq hns))
  · split
    · exact .fail_bind
    · exact .bind .skip fun _ _ => collection (.bind h.blockEntries fun _ hes => .pure hes)
  · split
    · exact tagged_yields _ _ _
    · exact .fail

theorem Sound.nodeUnless_succ (h : Sound fuel) (ends : List Token) (block loose : Bool) :
    Yields Node.IsPlain (Build.nodeUnless (fuel + 1) ends block loose) := by
  rw [Build.nodeUnless]
  refine .bind (.atAny _) fun b _ => ?_
  split
  · exact .pure empty_isPlain
  · exact h.node _ _

theorem Sound.blockItems_succ (h : Sound fuel) :
    Yields (∀ n ∈ ·, Node.IsPlain n) (Build.blockItems (fuel + 1)) := by
  rw [Build.blockItems]
  refine .bind (.accept _) fun b _ => ?_
  split
  · exact .bind (h.nodeUnless _ _ _) fun _ hn => .bind h.blockItems fun _ hns =>
      .pure (List.forall_mem_cons.mpr ⟨hn, hns⟩)
  · refine .bind (.accept _) fun b _ => ?_
    split
    · exact .pure nofun
    · exact .fail

theorem Sound.looseItems_succ (h : Sound fuel) :
    Yields (∀ n ∈ ·, Node.IsPlain n) (Build.looseItems (fuel + 1)) := by
  rw [Build.looseItems]
  refine .bind (.accept _) fun b _ => ?_
  split
  · exact .bind (h.nodeUnless _ _ _) fun _ hn => .bind h.looseItems fun _ hns =>
      .pure (List.forall_mem_cons.mpr ⟨hn, hns⟩)
  · exact .pure nofun

theorem Sound.blockEntries_succ (h : Sound fuel) :
    Yields (fun es => Node.IsPlain (.map es)) (Build.blockEntries (fuel + 1)) := by
  rw [Build.blockEntries]
  refine .bind (.accept _) fun b _ => ?_
  split
  · refine .bind (h.nodeUnless _ _ _) fun _ hk => .bind (.accept _) fun b _ => ?_
    split
    · exact .bind (h.nodeUnless _ _ _) fun _ hv => .bind h.blockEntries fun _ hes =>
        .pure (hes.cons hk hv)
    · exact .bind h.blockEntries fun _ hes => .pure (hes.cons hk empty_isPlain)
  · refine .bind (.accept _) fun b _ => ?_
    split
    · exact .pure .nil
    · exact .fail

theorem Sound.flowItems_succ (h : Sound fuel) (first : Bool) :
    Yields (∀ n ∈ ·, Node.IsPlain n) (Build.flowItems (fuel + 1) first) := by
  have item : Yields (∀ n ∈ ·, Node.IsPlain n) (do
      if ← Build.accept .flowSequenceEnd then return []
      if ← Build.accept .key then
        let k ← Build.nodeUnless fuel [.value, .flowEntry, .flowSequenceEnd] false false
        let v ← Build.flowValue fuel [.flowEntry, .flowSequenceEnd]
        return .map [(k, v)] :: (← Build.flowItems fuel false)
      else
        let n ← Build.node fuel false false
        return n :: (← Build.flowItems fuel false)) := by
    refine .bind (.accept _) fun b _ => ?_
    split
    · exact .pure nofun
    · refine .bind (.accept _) fun b _ => ?_
      split
      · exact .bind (h.nodeUnless _ _ _) fun _ hk => .bind (h.flowValue _) fun _ hv =>
          .bind (h.flowItems _) fun _ hns =>
            .pure (List.forall_mem_cons.mpr ⟨Node.IsPlain.nil.cons hk hv, hns⟩)
      · exact .bind (h.node _ _) fun _ hn => .bind (h.flowItems _) fun _ hns =>
          .pure (List.forall_mem_cons.mpr ⟨hn, hns⟩)
  rw [Build.flowItems]
  refine .bind (.accept _) fun b _ => ?_
  split
  · exact .pure nofun
  · dsimp only
    split
    · refine .bind (.accept _) fun b _ => ?_
      split
      · exact .fail_bind
      · exact item
    · exact item

theorem Sound.flowEntries_succ (h : Sound fuel) (first : Bool) :
    Yields (fun es => Node.IsPlain (.map es)) (Build.flowEntries (fuel + 1) first) := by
  have entry : Yields (fun es => Node.IsPlain (.map es)) (do
      if ← Build.accept .flowMappingEnd then return []
      if ← Build.accept .key then
        let k ← Build.nodeUnless fuel [.value, .flowEntry, .flowMappingEnd] false false
        let v ← Build.flowValue fuel [.flowEntry, .flowMappingEnd]
        return (k, v) :: (← Build.flowEntries fuel false)
      else
        let k ← Build.node fuel false false
        return (k, empty) :: (← Build.flowEntries fuel false)) := by
    refine .bind (.accept _) fun b _ => ?_
    split
    · exact .pure .nil
    · refine .bind (.accept _) fun b _ => ?_
      split
      · exact .bind (h.nodeUnless _ _ _) fun _ hk => .bind (h.flowValue _) fun _ hv =>
          .bind (h.flowEntries _) fun _ hes => .pure (hes.cons hk hv)
      · exact .bind (h.node _ _) fun _ hk => .bind (h.flowEntries _) fun _ hes =>
          .pure (hes.cons hk empty_isPlain)
  rw [Build.flowEntries]
  refine .bind (.accept _) fun b _ => ?_
  split
  · exact .pure .nil
  · dsimp only
    split
    · refine .bind (.accept _) fun b _ => ?_
      split
      · exact .fail_bind
      · exact entry
    · exact entry

theorem Sound.flowValue_succ (h : Sound fuel) (ends : List Token) :
    Yields Node.IsPlain (Build.flowValue (fuel + 1) ends) := by
  rw [Build.flowValue]
  refine .bind (.accept _) fun b _ => ?_
  split
  · exact h.nodeUnless _ _ _
  · exact .pure empty_isPlain

theorem sound (fuel : Nat) : Sound fuel := by
  induction fuel with
  | zero => exact sound_zero
  | succ fuel ih =>
    exact ⟨ih.node_succ, ih.content_succ, ih.nodeUnless_succ, ih.blockItems_succ,
      ih.looseItems_succ, ih.blockEntries_succ, ih.flowItems_succ, ih.flowEntries_succ,
      ih.flowValue_succ⟩

theorem skipAll_yields (t : Token) (fuel : Nat) : Yields (fun _ => True) (skipAll t fuel) := by
  induction fuel with
  | zero => exact .pure trivial
  | succ fuel ih =>
    rw [skipAll]
    refine .bind (.accept _) fun b _ => ?_
    split
    · exact ih
    · exact .pure trivial

theorem document_yields (fuel : Nat) :
    Yields (fun n? => ∀ n ∈ n?, Node.IsPlain n) (document fuel) := by
  have close : ∀ {n : Node}, n.IsPlain → Yields (fun n? => ∀ n ∈ n?, Node.IsPlain n) (do
      skipAll .documentEnd fuel
      if (← Build.peek).isSome then Build.fail
      return some n) := by
    intro n hn
    refine .bind (skipAll_yields _ _) fun _ _ => .bind .peek fun t _ => ?_
    split
    · exact .fail_bind
    · refine .pure ?_
      rintro _ ⟨⟩
      exact hn
  have body : ∀ explicit : Bool, Yields (fun n? => ∀ n ∈ n?, Node.IsPlain n) (do
      let n ←
        if ← Build.atAny [.directive, .documentStart, .documentEnd] then
          if explicit then pure empty else Build.fail
        else Build.node fuel true false
      skipAll .documentEnd fuel
      if (← Build.peek).isSome then Build.fail
      return some n) := by
    intro explicit
    refine .bind (.atAny _) fun b _ => ?_
    split
    · split
      · exact .bind (.pure empty_isPlain) fun _ hn => close hn
      · exact .fail_bind
    · exact .bind ((sound fuel).node _ _) fun _ hn => close hn
  unfold document
  refine .bind .peek fun t _ => ?_
  split
  · exact .pure nofun
  · refine .bind .peek fun t _ => .bind (skipAll_yields _ _) fun _ _ =>
      .bind (.accept _) fun explicit _ => ?_
    dsimp only
    split
    · exact .fail_bind
    · exact body explicit

end Build

theorem Node.isPlain_of_read? {cs : List Char} {n : Node} (h : Node.read? cs = some (some n)) :
    n.IsPlain := by
  obtain ⟨ts, -, h⟩ := Option.bind_eq_some_iff.mp h
  obtain ⟨⟨n', b⟩, hr, h⟩ := Option.bind_eq_some_iff.mp h
  cases h
  have hb : Builder.IsPlain ⟨ts, []⟩ := fun _ _ hn => by cases hn
  exact (Build.document_yields _ _ _ _ hb hr).1 n rfl

/-! ### Values of trees -/

namespace Node

/-- What every step keeps, a fold keeps. -/
theorem foldlM_keeps {α β : Type} {P : β → Prop} {f : β → α → Option β} {as : List α} {b b' : β}
    (hf : ∀ a ∈ as, ∀ b b', f b a = some b' → P b → P b') (h : as.foldlM f b = some b')
    (hb : P b) : P b' := by
  induction as generalizing b with
  | nil =>
    cases h
    exact hb
  | cons a as ih =>
    rw [List.foldlM_cons] at h
    obtain ⟨b₁, hs, h⟩ := Option.bind_eq_some_iff.mp h
    exact ih (fun a ha => hf a (List.mem_cons_of_mem _ ha)) h (hf a List.mem_cons_self _ _ hs hb)

theorem mergedEntries_orderly {v : Value} {fs : Entries} (hv : v.Orderly)
    (h : mergedEntries v = some fs) : ∀ e ∈ fs, e.2.Orderly := by
  unfold mergedEntries at h
  split at h
  · cases h
    exact hv.entries.2
  · refine foldlM_keeps (P := fun es : Entries => ∀ e ∈ es, e.2.Orderly) ?_ h
      fun _ he => absurd he List.not_mem_nil
    intro w hw es es' hs he
    have hw := hv.items w (List.mem_reverse.mp hw)
    split at hs <;> cases hs
    exact List.forall_mem_append.mpr ⟨he, hw.entries.2⟩
  · cases h

mutual

theorem toValue_orderly : ∀ {n : Node} {v : Value}, n.IsPlain → n.toValue = .ok v → v.Orderly
  | .scalar s, _, .scalar hs, h => by
    cases s with
    | value v =>
      rw [toValue] at h
      cases h
      exact hs
    | _ =>
      simp only [toValue] at h
      cases h
  | .seq ns, _, .seq hns, h => by
    rw [toValue] at h
    obtain ⟨vs, hvs, h⟩ := Outcome.bind_eq_ok.mp h
    cases h
    exact .list (toValues_orderly hns hvs)
  | .map es, _, .map hk hv, h => by
    rw [toValue] at h
    obtain ⟨⟨merged, own⟩, hes, h⟩ := Outcome.bind_eq_ok.mp h
    cases h
    have ⟨hm, ho⟩ := toEntries_orderly hv hes
    exact .foldl_bindTo (List.forall_mem_append.mpr ⟨hm, ho⟩) .nil

theorem toValues_orderly : ∀ {ns : List Node} {vs : List Value}, (∀ n ∈ ns, n.IsPlain) →
    toValues ns = .ok vs → ∀ v ∈ vs, v.Orderly
  | [], _, _, h => by
    rw [toValues] at h
    cases h
    exact nofun
  | n :: ns, _, hns, h => by
    rw [toValues] at h
    obtain ⟨v, hv, h⟩ := Outcome.bind_eq_ok.mp h
    obtain ⟨vs, hvs, h⟩ := Outcome.bind_eq_ok.mp h
    cases h
    have ⟨hn, hns⟩ := List.forall_mem_cons.mp hns
    exact List.forall_mem_cons.mpr ⟨toValue_orderly hn hv, toValues_orderly hns hvs⟩

theorem toEntries_orderly : ∀ {es : List (Node × Node)} {merged own : Entries},
    (∀ e ∈ es, e.2.IsPlain) → toEntries es = .ok (merged, own) →
      (∀ e ∈ merged, e.2.Orderly) ∧ ∀ e ∈ own, e.2.Orderly
  | [], _, _, _, h => by
    rw [toEntries] at h
    cases h
    exact ⟨nofun, nofun⟩
  | (k, n) :: es, m, o, hes, h => by
    have ⟨hn, ht⟩ := List.forall_mem_cons.mp hes
    unfold toEntries at h
    split at h
    · next hnil => cases hnil
    · next hcons =>
      cases hcons
      obtain ⟨v, hv, h⟩ := Outcome.bind_eq_ok.mp h
      obtain ⟨⟨merged, own⟩, hmo, h⟩ := Outcome.bind_eq_ok.mp h
      have ⟨hm, ho⟩ := toEntries_orderly ht hmo
      dsimp only at h
      split at h
      · next fs hfs =>
        cases h
        have hf := mergedEntries_orderly (toValue_orderly hn hv) hfs
        exact ⟨List.forall_mem_append.mpr ⟨hf, hm⟩, ho⟩
      · cases h
    · next hcons =>
      cases hcons
      obtain ⟨k', h⟩ : ∃ k', (do
          let v ← toValue n
          let (merged, own) ← toEntries es
          if isKey k' then return (merged, (k', v) :: own) else .error .malformed)
            = .ok (m, o) := by
        dsimp only at h
        split at h
        · exact ⟨_, h⟩
        · obtain ⟨k', -, h⟩ := Outcome.bind_eq_ok.mp h
          exact ⟨k', h⟩
      obtain ⟨v, hv, h⟩ := Outcome.bind_eq_ok.mp h
      obtain ⟨⟨merged, own⟩, hmo, h⟩ := Outcome.bind_eq_ok.mp h
      have ⟨hm, ho⟩ := toEntries_orderly ht hmo
      dsimp only at h
      split at h
      · cases h
        exact ⟨hm, List.forall_mem_cons.mpr ⟨toValue_orderly hn hv, ho⟩⟩
      · cases h

end

end Node

end Yaml

theorem Value.ofDocument_orderly {cs : List Char} {v : Value}
    (h : Value.ofDocument cs = .ok v) : v.Orderly := by
  unfold Value.ofDocument at h
  split at h
  · cases h
  · cases h
    exact .leaf nofun nofun
  · next n hn =>
    split at h <;> cases h
    exact Yaml.Node.toValue_orderly (Yaml.Node.isPlain_of_read? hn) (by assumption)

/-- The value in a data file binds each text key once, at every depth. -/
theorem FileTree.readData_orderly {t : FileTree} {p : Path} {v : Value}
    (h : t.readData p = .ok v) : v.Orderly := by
  have hempty : Value.emptyMap.Orderly := .nil
  obtain ⟨b, -, h⟩ := Outcome.bind_eq_ok.mp h
  cases b with
  | false =>
    cases h
    exact hempty
  | true =>
    obtain ⟨bs, -, h⟩ := Outcome.bind_eq_ok.mp h
    obtain ⟨cs, -, h⟩ := Outcome.bind_eq_ok.mp h
    obtain ⟨w, hw, h⟩ := Outcome.bind_eq_ok.mp h
    cases h
    split
    · exact Value.ofDocument_orderly hw
    · exact hempty

end TapScript
