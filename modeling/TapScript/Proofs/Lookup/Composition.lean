import TapScript.Proofs.Lookup.Walk

/-! # Parts of a path

Wherever a path is cut at a dot, it leads where its second part leads from where its first part
leads. A path that leads nowhere is blamed on its shortest part, counted from the front, that leads
nowhere.
-/

namespace TapScript

namespace Value

variable {root u v : Value} {s : String} {ss ss' before after walked : List String}
  {kind : Dictionary} {path : String} {n : Nat}

theorem leads_append_iff : v.Leads (ss ++ ss') u ↔ ∃ w, v.Leads ss w ∧ w.Leads ss' u := by
  constructor
  · intro h
    induction ss generalizing v with
    | nil => exact ⟨v, .here, h⟩
    | cons s ss ih =>
      cases h with
      | step part filled rest =>
        obtain ⟨w, hw, hu⟩ := ih rest
        exact ⟨w, .step part filled hw, hu⟩
  · rintro ⟨w, hw, hu⟩
    induction hw with
    | here => exact hu
    | step part filled _ ih => exact .step part filled (ih hu)

/-- A walk ends with the value that its segments lead to, and only then. -/
theorem walk_eq_ok_iff : walk kind path walked ss v = .ok u ↔ v.Leads ss u := by
  constructor
  · intro h
    obtain ⟨w, hw, h'⟩ | ⟨before, s, after, w, -, -, ⟨-, h'⟩ | ⟨f, -, h'⟩⟩ :=
      walk_cases kind path walked ss v
    · obtain rfl : w = u := Except.ok.inj (h'.symm.trans h)
      exact hw
    · cases h'.symm.trans h
    · cases h'.symm.trans h
  · intro h
    rw [← List.append_nil ss, walk_append h, walk]

theorem lookup_eq_ok_iff :
    root.lookup kind path = .ok v ↔ root.Leads (Text.pieces '.' path) v :=
  walk_eq_ok_iff

theorem lookup_append_iff (root : Value) (kind : Dictionary) (p q : String) (v : Value) :
    root.lookup kind (p ++ "." ++ q) = .ok v ↔
      ∃ u, root.lookup kind p = .ok u ∧ u.lookup kind q = .ok v := by
  have hpieces : Text.pieces '.' (p ++ "." ++ q) = Text.pieces '.' p ++ Text.pieces '.' q :=
    Text.pieces_append p q
  simp only [lookup_eq_ok_iff, hpieces, leads_append_iff]

/-- A path with a segment that leads to nothing is undefined up to the first such segment. -/
theorem lookup_lost (hpath : Text.pieces '.' path = before ++ s :: after)
    (hu : root.Leads before u) (hs : u.IsLost s) : root.lookup kind path =
      .error (.ofProblem (.undefined kind path (".".intercalate (before ++ [s])))) := by
  rw [lookup, hpath, walk_append hu, walk_lost hs, List.nil_append]

/-- A path that is undefined has a first segment that leads to nothing. -/
theorem exists_lost {problem : Problem} {place : Place}
    (h : root.lookup kind path = .error (.problem problem place)) :
    ∃ before s after u, Text.pieces '.' path = before ++ s :: after ∧ root.Leads before u ∧
      u.IsLost s := by
  obtain ⟨v, -, hv⟩ | ⟨before, s, after, u, hpath, hu, ⟨hs, -⟩ | ⟨f, hf, hw⟩⟩ :=
    walk_cases kind path [] (Text.pieces '.' path) root
  · cases hv.symm.trans h
  · exact ⟨before, s, after, u, hpath, hu, hs⟩
  · -- A false index is a mishap, and no problem.
    obtain ⟨-, -, e, -, rfl⟩ := child_eq_error_iff.mp hf
    cases hw.symm.trans h

/-- The first segments of a path, as a path. -/
def upTo (path : String) (n : Nat) : String :=
  ".".intercalate ((Text.pieces '.' path).take n)

theorem pieces_upTo (hn : 0 < n) :
    Text.pieces '.' (upTo path n) = (Text.pieces '.' path).take n := by
  refine Text.pieces_intercalate (fun s hs => ?_) ?_
  · exact Text.not_mem_of_mem_pieces (List.mem_of_mem_take hs)
  · simp [Text.pieces, Text.splitOn_ne_nil, Nat.pos_iff_ne_zero.mp hn]

theorem take_length_succ (h : ss = before ++ s :: after) :
    ss.take (before.length + 1) = before ++ [s] := by
  rw [h, List.take_append, List.take_of_length_le (Nat.le_succ _)]
  simp

/-- Whether a problem with a path is blamed on its first segments, `n` of them: it names the whole
path and these, they lead to nothing, and any fewer of them lead to a value that is not nothing. -/
structure IsBlamed (root : Value) (kind : Dictionary) (path : String) (problem : Problem)
    (n : Nat) : Prop where
  undefined : problem = .undefined kind path (upTo path n)
  names : problem.path? = some path
  message : problem.message = s!"Undefined {kind.noun} '{path}' (no '{upTo path n}')"
  within : 0 < n ∧ n ≤ (Text.pieces '.' path).length
  lost : root.lookup kind (upTo path n) =
    .error (.ofProblem (.undefined kind (upTo path n) (upTo path n)))
  filled : ∀ m, 0 < m → m < n → ∃ v, root.lookup kind (upTo path m) = .ok v ∧ v.isNone = false

/-- Fewer segments than the first that leads to nothing lead to a value that is not nothing. -/
theorem lookup_upTo {m : Nat} (hpath : Text.pieces '.' path = before ++ s :: after)
    (hu : root.Leads before u) (hm : 0 < m) (hle : m ≤ before.length) :
    ∃ v, root.lookup kind (upTo path m) = .ok v ∧ v.isNone = false := by
  have htake : Text.pieces '.' (upTo path m) = before.take m := by
    rw [pieces_upTo hm, hpath, List.take_append_of_le_length hle]
  rw [← List.take_append_drop m before] at hu
  obtain ⟨v, hv, -⟩ := leads_append_iff.mp hu
  refine ⟨v, by rwa [lookup_eq_ok_iff, htake], hv.filled ?_⟩
  rw [← htake]
  simp [Text.pieces, Text.splitOn_ne_nil]

theorem isBlamed_of_lost (hpath : Text.pieces '.' path = before ++ s :: after)
    (hu : root.Leads before u) (hs : u.IsLost s) :
    IsBlamed root kind path (.undefined kind path (upTo path (before.length + 1)))
      (before.length + 1) where
  undefined := rfl
  names := rfl
  message := rfl
  within := by simp [hpath]
  lost := by
    have hpieces : Text.pieces '.' (upTo path (before.length + 1)) = before ++ [s] := by
      rw [pieces_upTo (Nat.succ_pos _), take_length_succ hpath]
    rw [lookup_lost hpieces hu hs, upTo, take_length_succ hpath]
  filled m hm hlt := lookup_upTo hpath hu hm (Nat.le_of_lt_succ hlt)

/-- Segments that lead to nothing lead to nothing with more of them after them. -/
theorem IsBlamed.lookup_eq {problem : Problem} (h : IsBlamed root kind path problem n) :
    root.lookup kind path = .error (.ofProblem problem) := by
  obtain ⟨before, s, after, u, hpieces, hu, hs⟩ := exists_lost h.lost
  have hupTo : ".".intercalate (before ++ [s]) = upTo path n := by
    have := (lookup_lost hpieces hu hs).symm.trans h.lost
    simpa [Fault.ofProblem] using this
  have hpath : Text.pieces '.' path = before ++ s :: (after ++ (Text.pieces '.' path).drop n) := by
    rw [← List.cons_append, ← List.append_assoc, ← hpieces, pieces_upTo h.within.1,
      List.take_append_drop]
  rw [lookup_lost hpath hu hs, hupTo, h.undefined]

/-- A path leads where its parts lead one after the other, wherever it is cut at a dot. It is
undefined exactly if some of its segments lead to nothing, and the fewest that do are blamed. -/
theorem lookup_compositional (root : Value) (kind : Dictionary) :
    (∀ p q v, root.lookup kind (p ++ "." ++ q) = .ok v ↔
      ∃ u, root.lookup kind p = .ok u ∧ u.lookup kind q = .ok v) ∧
    ∀ path problem place, root.lookup kind path = .error (.problem problem place) ↔
      place = {} ∧ ∃ n, IsBlamed root kind path problem n := by
  refine ⟨lookup_append_iff root kind, fun path problem place => ?_⟩
  constructor
  · intro h
    obtain ⟨before, s, after, u, hpath, hu, hs⟩ := exists_lost h
    have hblamed : IsBlamed root kind path _ _ := isBlamed_of_lost hpath hu hs
    have he := hblamed.lookup_eq.symm.trans h
    obtain ⟨rfl, rfl⟩ : _ = problem ∧ {} = place := by simpa [Fault.ofProblem] using he
    exact ⟨rfl, _, hblamed⟩
  · rintro ⟨rfl, n, h⟩
    exact h.lookup_eq

/-- In the middle of a path, the segments from there on are not blamed. -/
example : (ofPairs [("a", ofPairs [("b", text "5")])]).lookup .value "a.x.c" =
    .error (.ofProblem (.undefined .value "a.x.c" "a.x")) := rfl

end Value

end TapScript
