import TapScript.Proofs.Check.Observation

/-! # Opposite checks

Two assert commands that name opposite checks of one element observe its label in the same way.
Once the label is there, exactly one of them returns it, and the other reports it.
-/

namespace TapScript

/-- Whether a mismatch reports a label and what a command asks for. -/
structure Mismatch.Reports (m : Mismatch) (label : Value) (rest : List Token) : Prop where
  actual : m.actual = label
  expected : ∀ t ∈ rest.head?, m.expected = .text t.text

namespace Check

/-- The names of opposite checks. -/
def oppositeNames : List (String × String) :=
  [("equal", "notEqual"), ("strictEqual", "notStrictEqual"), ("ok", "notOk"),
    ("isOk", "isNotOk"), ("isNull", "isNotNull"), ("notExists", "exists"),
    ("isEmpty", "isNotEmpty"), ("include", "notInclude"), ("match", "notMatch")]

/-- Whether a check can use what a command asks for: it takes as many arguments, and what it takes
as a pattern is one. -/
structure Suits (h : Regex.Host) (k : Check) (rest : List Token) : Prop where
  takes : k.Takes rest
  readable : k.isPatterned = true → ∀ t ∈ rest.head?, ∃ p, Regex.Pattern.read h t.text = .ok p

/-- How two opposite checks end, by what was seen. What is too large to be written is no label, and
of it nothing is said. -/
inductive Contrast (rest : List Token) :
    Except Fault Value → Except Fault Value → Except Fault Value → Prop
  | unseen (f) : Contrast rest (.error f) (.error f) (.error f)
  | holds {label m} (reports : m.Reports label rest) :
      Contrast rest (.ok label) (.ok label) (.error (.mismatch m {}))
  | fails {label m} (reports : m.Reports label rest) :
      Contrast rest (.ok label) (.error (.mismatch m {})) (.ok label)
  | unwritable {label res res'} (large : label.IsUnwritable) : Contrast rest (.ok label) res res'

variable {h : Regex.Host} {k k' : Check} {label : Value} {rest : List Token}

theorem opposite?_of_mem {n n' : String} (h : (n, n') ∈ oppositeNames) :
    ∃ k k', ofName? n = some k ∧ ofName? n' = some k' ∧ k.opposite? = some k' := by
  simp only [oppositeNames, List.mem_cons, Prod.mk.injEq, List.not_mem_nil, or_false] at h
  rcases h with h | h | h | h | h | h | h | h | h
  all_goals
    obtain ⟨rfl, rfl⟩ := h
    exact ⟨_, _, rfl, rfl, rfl⟩

theorem mismatch_reports {m : Mismatch} (ht : k.Takes rest)
    (hm : k.mismatch label (asked rest) = .ok m) : m.Reports label rest := by
  obtain ⟨hactual, hexpected⟩ := eq_of_mismatch hm
  refine ⟨hactual, fun t hmem => hexpected.trans ?_⟩
  obtain ⟨more, rfl⟩ : ∃ more, rest = t :: more := ⟨_, List.eq_cons_of_mem_head? hmem⟩
  have hb := ht.mpr (List.cons_ne_nil t more)
  cases k with
  | equal | notEqual | strictEqual | notStrictEqual | includes | excludes | fits | fitsNot => rfl
  | _ => cases hb

theorem Takes.opposite (ht : k.Takes rest) (hk : k.opposite? = some k') : k'.Takes rest := by
  rw [Takes, isBinary_opposite hk]
  exact ht

theorem Suits.exists_read (hs : k.Suits h rest) : ∃ s, (asked rest).plain = .ok s ∧
    (k.isPatterned = true → ∃ p, Regex.Pattern.read h s = .ok p) := by
  cases rest with
  | nil =>
    exact ⟨_, rfl, fun hp => absurd rfl (hs.takes.mp (isBinary_of_isPatterned hp))⟩
  | cons t rest => exact ⟨_, rfl, fun hp => hs.readable hp t rfl⟩

/-- Run on one label, one of two opposite checks returns it and the other reports it. -/
theorem run_opposite (hk : k.opposite? = some k') (hs : k.Suits h rest) :
    Contrast rest (.ok label)
      ((k.run h (Driver.checkArgs label rest)).map fun _ => label)
      ((k'.run h (Driver.checkArgs label rest)).map fun _ => label) := by
  by_cases hl : label.IsUnwritable
  · exact .unwritable hl
  have htakes' := hs.takes.opposite hk
  rw [run_of_takes hs.takes, run_of_takes htakes']
  obtain ⟨s, hplain, hread⟩ := hs.exists_read
  obtain ⟨m, hm, hp, hp'⟩ | ⟨m, hm, hp, hp'⟩ := judge_opposite hk hl hplain hread
  · rw [hp, hp']
    exact .holds (mismatch_reports htakes' hm)
  · rw [hp, hp']
    exact .fails (mismatch_reports hs.takes hm)

end Check

namespace Driver

variable {σ ε : Type} {h : Regex.Host} {r : Resolver} {c c' : Command} {name name' target : Token}
  {rest : List Token}

/-- Two assert commands that name opposite checks make the same calls, which find the element and
read its label, and leave the same world. Either both end with the fault of a call or of the path,
or one returns the label and the other reports it. -/
theorem runAssert_opposite (d : Driver σ ε) (labelName : String) (w : World σ)
    (hc : c.args = name :: target :: rest) (hc' : c'.args = name' :: target :: rest)
    (hn : (name.text, name'.text) ∈ Check.oppositeNames)
    (hs : ∀ k ∈ Check.ofName? name.text, k.Suits h rest) :
    ∃ calls seen w' res res', d.Observes r labelName target.text w calls seen w' ∧
      Act.Traced (d.runAssert h r labelName c) (d.journaled.runAssert h r labelName c) w calls
        res w' ∧
      Act.Traced (d.runAssert h r labelName c') (d.journaled.runAssert h r labelName c') w calls
        res' w' ∧
      Check.Contrast rest seen res res' := by
  obtain ⟨k, k', hk, hk', ho⟩ := Check.opposite?_of_mem hn
  obtain ⟨calls, seen, w', ht, hobserves⟩ := d.observe_observes r labelName target.text w
  refine ⟨calls, seen, w', _, _, hobserves, runAssert_traced hc hk ht,
    runAssert_traced hc' hk' ht, ?_⟩
  cases seen with
  | error f => exact .unseen f
  | ok label => exact Check.run_opposite ho (hs k hk)

end Driver

namespace Simulation

/-- The two checks of a pattern contrast on an element that has no label. -/
theorem runAssert_opposite_unlabelled : ∃ calls seen w' res res',
    (labelling .none).Observes oneElement "label" "a" bareWorld calls seen w' ∧
      Act.Traced
        ((labelling .none).runAssert patterns oneElement "label" (asserting ["match", "a", "^v"]))
        ((labelling .none).journaled.runAssert patterns oneElement "label"
          (asserting ["match", "a", "^v"])) bareWorld calls res w' ∧
      Act.Traced
        ((labelling .none).runAssert patterns oneElement "label"
          (asserting ["notMatch", "a", "^v"]))
        ((labelling .none).journaled.runAssert patterns oneElement "label"
          (asserting ["notMatch", "a", "^v"])) bareWorld calls res' w' ∧
      Check.Contrast [⟨"^v", false⟩] seen res res' := by
  have hs : ∀ k ∈ Check.ofName? "match", k.Suits patterns [⟨"^v", false⟩] := by
    rintro k ⟨⟩
    refine ⟨iff_of_true rfl (List.cons_ne_nil _ _), ?_⟩
    rintro - t ⟨⟩
    exact ⟨_, rfl⟩
  have hn : ("match", "notMatch") ∈ Check.oppositeNames := by decide
  have hc : (asserting ["match", "a", "^v"]).args =
      [⟨"match", false⟩, ⟨"a", false⟩, ⟨"^v", false⟩] := rfl
  have hc' : (asserting ["notMatch", "a", "^v"]).args =
      [⟨"notMatch", false⟩, ⟨"a", false⟩, ⟨"^v", false⟩] := rfl
  exact (labelling .none).runAssert_opposite "label" bareWorld hc hc' hn hs

end Simulation

end TapScript
