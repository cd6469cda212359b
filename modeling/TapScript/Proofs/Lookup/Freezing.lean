import TapScript.Proofs.Lookup.Composition

/-! # Read-only copies

The read-only copy of data stands for the data: a path leads to the copy of what it leads to in the
data, or fails as it does there. Whatever a path reaches in the copy cannot be changed, so that the
copy of the copy is the copy itself.
-/

namespace TapScript

namespace Value

variable {d v w : Value} {vs : List Value} {es : List (Value × Value)} {s : String}
  {ss walked : List String} {kind : Dictionary} {path : String}

/-- Whether a value is neither a collection of others nor a module. -/
def isScalar : Value → Bool
  | list _ | tuple _ | map .. | module .. => false
  | _ => true

/-- Data as documents hold it: scalars, and lists and mappings of data. -/
inductive IsData : Value → Prop
  | scalar {v : Value} (h : v.isScalar = true) : IsData v
  | list {vs : List Value} (h : ∀ v ∈ vs, IsData v) : IsData (.list vs)
  | map {b : Bool} {es : List (Value × Value)} (h : ∀ e ∈ es, IsData e.2) : IsData (.map b es)

/-- Values that cannot be changed at any depth: scalars, and tuples and sealed mappings of such
values. -/
inductive IsSealed : Value → Prop
  | scalar {v : Value} (h : v.isScalar = true) : IsSealed v
  | tuple {vs : List Value} (h : ∀ v ∈ vs, IsSealed v) : IsSealed (.tuple vs)
  | map {es : List (Value × Value)} (h : ∀ e ∈ es, IsSealed e.2) : IsSealed (.map true es)

/-! ### Copies -/

theorem freezeAll_eq (vs : List Value) : freezeAll vs = vs.map freeze := by
  induction vs with
  | nil => rfl
  | cons v vs ih => rw [freezeAll, ih, List.map_cons]

theorem freezeEntries_eq (es : List (Value × Value)) :
    freezeEntries es = es.map fun e => (e.1, e.2.freeze) := by
  induction es with
  | nil => rfl
  | cons e es ih => rw [freezeEntries, ih, List.map_cons]

@[simp] theorem freeze_list : (list vs).freeze = tuple (vs.map freeze) := by
  rw [freeze, freezeAll_eq]

@[simp] theorem freeze_map {b : Bool} :
    (map b es).freeze = map true (es.map fun e => (e.1, e.2.freeze)) := by
  rw [freeze, freezeEntries_eq]

theorem freeze_of_isScalar (h : v.isScalar = true) : v.freeze = v := by
  cases v with
  | list vs => cases h
  | map b es => cases h
  | _ => rfl

@[simp] theorem isNone_freeze (v : Value) : v.freeze.isNone = v.isNone := by
  cases v <;> rfl

theorem IsData.isSealed_freeze (hd : d.IsData) : d.freeze.IsSealed := by
  induction hd with
  | scalar h =>
    rw [freeze_of_isScalar h]
    exact .scalar h
  | list h ih =>
    rw [freeze_list]
    exact .tuple (List.forall_mem_map.mpr ih)
  | map h ih =>
    rw [freeze_map]
    exact .map (List.forall_mem_map.mpr ih)

/-- A value that cannot be changed is its own copy. -/
theorem IsSealed.freeze_eq (h : v.IsSealed) : v.freeze = v := by
  induction h with
  | scalar h => exact freeze_of_isScalar h
  | tuple h ih => rfl
  | @map es h ih =>
    have hes : (es.map fun e => (e.1, e.2.freeze)) = es.map id :=
      List.map_congr_left fun e he => by rw [ih e he, id]
    rw [freeze_map, hes, List.map_id]

/-! ### Parts -/

/-- The values that a value is made of. -/
def parts : Value → List Value
  | list vs | tuple vs => vs
  | map _ es => es.map (·.2)
  | module _ _ members => members.map (·.2)
  | _ => []

theorem mem_of_item? {i : Int} (h : item? vs i = some w) : w ∈ vs := by
  unfold item? at h
  split at h
  · exact List.mem_of_getElem? h
  · split at h
    · exact List.mem_of_getElem? h
    · cases h

theorem mem_of_itemAt (h : itemAt vs s = .ok (some w)) : w ∈ vs := by
  unfold itemAt at h
  split at h
  · split at h
    · exact mem_of_item? (Except.ok.inj h)
    · cases h
  · cases h

theorem mem_of_bound? (h : bound? es s = some w) : w ∈ es.map (·.2) := by
  obtain ⟨e, he, rfl⟩ := Option.map_eq_some_iff.mp h
  exact List.mem_map_of_mem (List.mem_of_find?_eq_some he)

theorem mem_parts_of_child (h : v.child s = .ok (some w)) : w ∈ v.parts := by
  cases v with
  | list vs => exact mem_of_itemAt h
  | tuple vs => exact mem_of_itemAt h
  | map b es => exact mem_of_bound? (Except.ok.inj h)
  | module name shown members =>
    have h := Except.ok.inj h
    split at h
    · cases h
    · obtain ⟨l₁, l₂, rfl, -⟩ := List.lookup_eq_some_iff.mp h
      simp [parts]
  | _ => cases h

theorem parts_of_isScalar (h : v.isScalar = true) : v.parts = [] := by
  cases v with
  | list vs => cases h
  | tuple vs => cases h
  | map b es => cases h
  | module name shown members => cases h
  | _ => rfl

theorem child_of_isScalar (h : v.isScalar = true) : v.child s = .ok .none := by
  cases v with
  | list vs => cases h
  | tuple vs => cases h
  | map b es => cases h
  | module name shown members => cases h
  | _ => rfl

theorem IsData.part (hd : d.IsData) (hw : w ∈ d.parts) : w.IsData := by
  cases hd with
  | scalar h => simp [parts_of_isScalar h] at hw
  | list h => exact h w hw
  | map h => exact List.forall_mem_map.mpr h w hw

theorem IsSealed.part (hv : v.IsSealed) (hw : w ∈ v.parts) : w.IsSealed := by
  cases hv with
  | scalar h => simp [parts_of_isScalar h] at hw
  | tuple h => exact h w hw
  | map h => exact List.forall_mem_map.mpr h w hw

/-- Whatever is reached in a value that cannot be changed cannot be changed. -/
theorem IsSealed.leads (h : v.Leads ss w) (hv : v.IsSealed) : w.IsSealed := by
  induction h with
  | here => exact hv
  | step part _ _ ih => exact ih (hv.part (mem_parts_of_child part))

/-! ### Walks through a copy -/

theorem item?_map (f : Value → Value) (vs : List Value) (i : Int) :
    item? (vs.map f) i = (item? vs i).map f := by
  unfold item?
  rw [List.length_map]
  split
  · rw [List.getElem?_map]
  · split
    · rw [List.getElem?_map]
    · rfl

theorem itemAt_map (f : Value → Value) (vs : List Value) (s : String) :
    itemAt (vs.map f) s = (itemAt vs s).map (Option.map f) := by
  unfold itemAt
  split
  · split
    · rw [item?_map]
      rfl
    · rfl
  · rfl

theorem bound?_map (f : Value → Value) (es : List (Value × Value)) (s : String) :
    bound? (es.map fun e => (e.1, f e.2)) s = (bound? es s).map f := by
  unfold bound?
  rw [List.find?_map, Option.map_map, Option.map_map]
  rfl

/-- A segment leads to the copy of what it leads to. -/
theorem IsData.child_freeze (hd : d.IsData) (s : String) :
    d.freeze.child s = (d.child s).map (Option.map freeze) := by
  cases hd with
  | scalar h =>
    rw [freeze_of_isScalar h, child_of_isScalar h]
    rfl
  | @list vs h =>
    rw [freeze_list]
    exact itemAt_map freeze vs s
  | @map b es h =>
    rw [freeze_map, child, bound?_map, child]
    rfl

/-- A walk through the copy comes to the copy of where the walk through the data comes to. -/
theorem IsData.walk_freeze (hd : d.IsData) : walk kind path walked ss d.freeze =
    (walk kind path walked ss d).map freeze := by
  induction ss generalizing walked d with
  | nil => rfl
  | cons s ss ih =>
    have hchild := hd.child_freeze s
    obtain ⟨w, hw, hn⟩ | hlost | ⟨f, hf⟩ := d.child_cases s
    · rw [hw] at hchild
      rw [walk_step hw hn, walk_step hchild ((isNone_freeze w).trans hn),
        ih (hd.part (mem_parts_of_child hw))]
    · have hlost' : d.freeze.IsLost s := by
        obtain hn | ⟨w, hw, hn⟩ := hlost
        · rw [hn] at hchild
          exact .inl hchild
        · rw [hw] at hchild
          exact .inr ⟨w.freeze, hchild, (isNone_freeze w).trans hn⟩
      rw [walk_lost hlost, walk_lost hlost']
      rfl
    · rw [hf] at hchild
      rw [walk_misled hf, walk_misled hchild]
      rfl

theorem IsData.lookup_freeze (hd : d.IsData) (kind : Dictionary) (path : String) :
    d.freeze.lookup kind path = (d.lookup kind path).map freeze :=
  hd.walk_freeze

/-- Whether a value is a read-only stand-in for data: every path leads in it to the copy of what it
leads to in the data, or fails with the same fault, it is its own copy, and neither it nor
what a path reaches in it can be changed. -/
structure StandsFor (c d : Value) : Prop where
  value : ∀ kind path w, c.lookup kind path = .ok w ↔
    ∃ v, d.lookup kind path = .ok v ∧ w = v.freeze
  fault : ∀ kind path f, c.lookup kind path = .error f ↔ d.lookup kind path = .error f
  again : c.freeze = c
  isSealed : c.IsSealed
  reached : ∀ kind path w, c.lookup kind path = .ok w → w.IsSealed

theorem IsData.freeze_standsFor (hd : d.IsData) : StandsFor d.freeze d where
  value kind path w := by
    rw [hd.lookup_freeze kind path]
    cases d.lookup kind path with
    | ok v => simp [Except.map, eq_comm]
    | error f => simp [Except.map]
  fault kind path f := by
    rw [hd.lookup_freeze kind path]
    cases d.lookup kind path <;> simp [Except.map]
  again := hd.isSealed_freeze.freeze_eq
  isSealed := hd.isSealed_freeze
  reached kind path w h := .leads (lookup_eq_ok_iff.mp h) hd.isSealed_freeze

/-- A dictionary with a list of mappings. -/
def basket : Value :=
  ofPairs [("items", list [ofPairs [("name", text "first")], ofPairs [("name", text "second")]])]

theorem freeze_standsFor_basket : basket.IsData ∧ StandsFor basket.freeze basket ∧
    basket.freeze.lookup .value "items.-1" = .ok (map true [(text "name", text "second")]) := by
  have hitem : ∀ s, IsData (ofPairs [("name", text s)]) := fun s =>
    .map (List.forall_mem_singleton.mpr (.scalar rfl))
  have hdata : basket.IsData :=
    .map (List.forall_mem_singleton.mpr (.list (by simp [hitem])))
  have hstands := IsData.freeze_standsFor hdata
  exact ⟨hdata, hstands, (hstands.value .value "items.-1" _).mpr
    ⟨ofPairs [("name", text "second")], rfl, rfl⟩⟩

end Value

end TapScript
