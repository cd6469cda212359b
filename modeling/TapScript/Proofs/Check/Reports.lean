import TapScript.Proofs.Check.Observation
import TapScript.Proofs.Lookup.Walk

/-! # What assert commands report

An assert command returns the label, or it fails with a mismatch or with a problem of the script.
Four things escape it instead: a path that misleads, arguments that the check does not take, a
pattern that cannot be read for a label that is there to match, and a label that is too large to be
written where the check or its report writes it.
-/

namespace TapScript

/-- Whether a driver reported a fault. -/
def Fault.IsOfDriver : Fault → Prop
  | problem p _ => p.category = .driver ∨ p.category = .notFound
  | _ => False

/-- Whether a problem is that of a path that leads to no locator, or one that a driver reported. -/
def Problem.IsOfElement (p : Problem) : Prop :=
  p.category = .resolution ∨ p.category = .driver ∨ p.category = .notFound

namespace Driver

open Procedure

variable {σ ε : Type}

/-- Whether a driver reports each fault of a call that finds an element or reads an attribute. -/
structure IsReporting (d : Driver σ ε) : Prop where
  find {s locator f w w'} (h : (d.find s locator).run w = (.error f, w')) : f.IsOfDriver
  readAttribute {element name f w w'}
    (h : (d.readAttribute element name).run w = (.error f, w')) : f.IsOfDriver

/-- Whether an assert command with a check's name ends as it should, by what was seen of the label:
with the label, with a mismatch that holds it, or with a problem, which is the one that was met in
its stead or that there is no such check. -/
inductive IsReported (name : String) : Except Fault Value → Except Fault Value → Prop
  | returned {label} : IsReported name (.ok label) (.ok label)
  | failed {label m} (actual : m.actual = label) :
      IsReported name (.ok label) (.error (.mismatch m {}))
  | refused {p place} (problem : p.IsOfElement) :
      IsReported name (.error (.problem p place)) (.error (.problem p place))
  | unknown {seen place} (unknown : Check.ofName? name = none) :
      IsReported name seen (.error (.problem (.unknownCheck name) place))

/-- What escapes an assert command with a check's name, an element path and further arguments, by
what was seen of the label. -/
inductive Escapes (h : Regex.Host) (r : Resolver) (name target : String) (rest : List Token) :
    Except Fault Value → Mishap → Prop
  | misled {e} (misleads : r.locators.Misleads target) :
      Escapes h r name target rest (.error (.mishap (.badInteger e))) (.badInteger e)
  | unfit {k label e} (known : Check.ofName? name = some k)
      (refused : k.signature.mismatch? (checkArgs label rest).length = some e) :
      Escapes h r name target rest (.ok label) (.arity e)
  | unreadable {k label t e} (known : Check.ofName? name = some k) (takes : k.Takes rest)
      (patterned : k.isPatterned = true) (labelled : label.isNone = false)
      (written : ¬label.IsUnwritable) (asked : t ∈ rest.head?)
      (refused : Regex.Pattern.read h t.text = .error e) :
      Escapes h r name target rest (.ok label) (.pattern e)
  | unwritable {k label} (known : Check.ofName? name = some k) (takes : k.Takes rest)
      (writes : k.acceptsLarge = false) (large : label.IsUnwritable) :
      Escapes h r name target rest (.ok label) (.badInteger .tooLarge)

/-- Whether an assert command ends as it should, or else with what escapes it. -/
structure Reports (h : Regex.Host) (r : Resolver) (name target : String) (rest : List Token)
    (seen res : Except Fault Value) : Prop where
  reported : (¬ ∃ m, Escapes h r name target rest seen m) → IsReported name seen res
  escaped : ∀ m, Escapes h r name target rest seen m → res = .error (.mishap m)

variable {h : Regex.Host} {d : Driver σ ε} {r : Resolver} {labelName path target name : String}
  {w w' : World σ} {f : Fault} {k : Check} {label : Value} {rest : List Token}

theorem locator_error (hf : r.locator path = .error f) :
    (∃ e, r.locators.Misleads path ∧ f = .mishap (.badInteger e)) ∨
      ∃ p : Problem, p.IsOfElement ∧ f = .ofProblem p := by
  have hl := r.locator_resolves path
  rw [hf] at hl
  by_cases hm : r.locators.Misleads path
  · obtain ⟨e, ⟨⟩⟩ := hl.mishap hm
    exact .inl ⟨e, hm, rfl⟩
  · cases hl.resolved hm with
    | problem category _ => exact .inr ⟨_, .inl category, rfl⟩

theorem isOfElement_of_driver (hf : f.IsOfDriver) :
    ∃ p place, Problem.IsOfElement p ∧ f = .problem p place := by
  cases f with
  | problem p place => exact ⟨p, place, .inr hf, rfl⟩
  | _ => cases hf

/-- An observation fails because the path misleads, or it is reported. -/
theorem observe_error (hd : d.IsReporting)
    (hf : ((d.observe r labelName path).run w).1 = .error f) :
    (∃ e, r.locators.Misleads path ∧ f = .mishap (.badInteger e)) ∨
      ∃ p place, Problem.IsOfElement p ∧ f = .problem p place := by
  obtain ⟨calls, seen, w', ht, ho⟩ := d.observe_observes r labelName path w
  rw [ht.plain] at hf
  cases hf
  cases ho with
  | unresolved hl => exact (locator_error hl).imp_right fun ⟨p, hp, hf⟩ => ⟨p, {}, hp, hf⟩
  | absent _ hf => exact .inr (isOfElement_of_driver (hd.find hf))
  | read _ _ hr => exact .inr (isOfElement_of_driver (hd.readAttribute hr))

/-- A fault of the observation is reported, unless the path misleads. -/
theorem reports_error (hd : d.IsReporting)
    (hf : ((d.observe r labelName target).run w).1 = .error f) :
    Reports h r name target rest (.error f) (.error f) := by
  obtain ⟨e, hm, rfl⟩ | ⟨p, place, hp, rfl⟩ := observe_error hd hf
  · refine ⟨fun hn => absurd ⟨_, .misled hm⟩ hn, ?_⟩
    rintro m ⟨⟩
    rfl
  · exact ⟨fun _ => .refused hp, by rintro m ⟨⟩⟩

/-- The label that a check judges is reported if it has a text, unless there is no pattern to match
it with. -/
theorem reported_judge (hl : ¬label.IsUnwritable)
    (hp : ∀ m, k.passes h label (Check.asked rest) ≠ .error m) :
    IsReported name (.ok label) ((k.judge h label (Check.asked rest)).map fun _ => label) := by
  cases hb : k.passes h label (Check.asked rest) with
  | error m => exact absurd hb (hp m)
  | ok b =>
    obtain ⟨m, hm, hj⟩ := Check.judge_of_passes hb hl Check.not_isUnwritable_asked
    rw [hj]
    cases b with
    | true => exact .returned
    | false => exact .failed (Check.eq_of_mismatch hm).1

/-- What a check makes of a label is reported, unless it does not take its arguments, cannot read
its pattern or cannot write the label. -/
theorem reports_run (hk : Check.ofName? name = some k) : Reports h r name target rest (.ok label)
    ((k.run h (checkArgs label rest)).map fun _ => label) where
  reported hn := by
    have ht : k.Takes rest := by
      refine Classical.byContradiction fun ht => ?_
      rw [Check.takes_iff label] at ht
      obtain ⟨e, he⟩ := Option.ne_none_iff_exists'.mp ht
      exact hn ⟨_, .unfit hk he⟩
    rw [Check.run_of_takes ht]
    by_cases hl : label.IsUnwritable
    · rw [Check.judge_of_isUnwritable hl ht]
      cases ha : k.acceptsLarge with
      | true => exact .returned
      | false => exact absurd ⟨_, .unwritable hk ht ha hl⟩ hn
    · refine reported_judge hl fun m hm => hn ?_
      cases rest with
      | nil =>
        obtain ⟨hp, -⟩ := (Check.passes_eq_error_iff hl rfl).mp hm
        exact absurd rfl (ht.mp (Check.isBinary_of_isPatterned hp))
      | cons t rest =>
        obtain ⟨hp, hlabel, e, he, -⟩ := (Check.passes_eq_error_iff hl rfl).mp hm
        exact ⟨_, .unreadable hk ht hp hlabel hl rfl he⟩
  escaped m he := by
    cases he with
    | unfit hk' he =>
      obtain rfl := Option.some.inj (hk.symm.trans hk')
      rw [Check.run, he]
      rfl
    | unreadable hk' ht hp hlabel hl ha he =>
      obtain rfl := Option.some.inj (hk.symm.trans hk')
      obtain ⟨more, rfl⟩ : ∃ more, rest = _ :: more := ⟨_, List.eq_cons_of_mem_head? ha⟩
      rw [Check.run_of_takes ht, Check.judge,
        (Check.passes_eq_error_iff hl rfl).mpr ⟨hp, hlabel, _, he, rfl⟩]
      rfl
    | unwritable hk' ht ha hl =>
      obtain rfl := Option.some.inj (hk.symm.trans hk')
      rw [Check.run_of_takes ht, Check.judge_of_isUnwritable hl ht, ha]
      rfl

/-- A name of no check is reported. -/
theorem reports_unknown {c : Command} {seen : Except Fault Value} (hk : Check.ofName? name = none)
    (hm : ¬ r.locators.Misleads target) :
    Reports h r name target rest seen (.error (c.fault (.unknownCheck name))) where
  reported _ := .unknown hk
  escaped m he := by
    cases he with
    | misled h => exact absurd h hm
    | unfit hk' => cases hk.symm.trans hk'
    | unreadable hk' => cases hk.symm.trans hk'
    | unwritable hk' => cases hk.symm.trans hk'

/-- An assert command with a check's name and an element path reports how it ends, except exactly
where its path misleads, its check does not take its arguments, its pattern cannot be read, or the
label has to be written and is too large for that. -/
theorem runAssert_reports {c : Command} {name target : Token} (labelName : String) (w : World σ)
    (hd : d.IsReporting) (hc : c.args = name :: target :: rest) :
    Reports h r name.text target.text rest ((d.observe r labelName target.text).run w).1
      ((d.runAssert h r labelName c).run w).1 := by
  cases hk : Check.ofName? name.text with
  | none =>
    rw [runAssert_unknown hc hk]
    cases hl : r.locator target.text with
    | error f =>
      have ho : (d.observe r labelName target.text).run w = (.error f, w) := by
        rw [observe, hl]
        rfl
      rw [ho]
      exact reports_error hd (congrArg Prod.fst ho)
    | ok locator =>
      refine reports_unknown hk fun hm => ?_
      obtain ⟨e, he⟩ := (r.locator_resolves target.text).mishap hm
      cases hl.symm.trans he
  | some k =>
    obtain ⟨calls, seen, w', ht, -⟩ := d.observe_observes r labelName target.text w
    rw [ht.plain, (runAssert_traced hc hk ht).plain]
    cases seen with
    | error f => exact reports_error hd (congrArg Prod.fst ht.plain)
    | ok label => exact reports_run hk

end Driver

namespace Simulation

theorem isReporting_labelling (label : Value) : (labelling label).IsReporting where
  find := by rintro s locator f w w' ⟨⟩
  readAttribute := by rintro element name f w w' ⟨⟩

/-- What is seen of an element that has the label `v`. -/
def seenOnV : Except Fault Value :=
  (((labelling (.text "v")).observe oneElement "label" "a").run bareWorld).1

/-- How an assert command ends on that element. -/
def assertedOnV (args : List String) : Except Fault Value :=
  (((labelling (.text "v")).runAssert patterns oneElement "label" (asserting args)).run bareWorld).1

/-- The check of equality reports a label that is not the one asked for. -/
theorem runAssert_reports_unequal : (labelling (.text "v")).IsReporting ∧
    (asserting ["equal", "a", "b"]).args = [⟨"equal", false⟩, ⟨"a", false⟩, ⟨"b", false⟩] ∧
    Driver.Reports patterns oneElement "equal" "a" [⟨"b", false⟩] seenOnV
      (assertedOnV ["equal", "a", "b"]) :=
  have hd := isReporting_labelling (.text "v")
  have hc : (asserting ["equal", "a", "b"]).args =
      [⟨"equal", false⟩, ⟨"a", false⟩, ⟨"b", false⟩] := rfl
  ⟨hd, hc, Driver.runAssert_reports "label" bareWorld hd hc⟩

/-- The check of equality with nothing to compare with, and a pattern that cannot be read, are not
reported. -/
theorem runAssert_unreported : (labelling (.text "v")).IsReporting ∧
    (¬ Driver.IsReported "equal" seenOnV (assertedOnV ["equal", "a"])) ∧
    ¬ Driver.IsReported "match" seenOnV (assertedOnV ["match", "a", "("]) := by
  have harity : assertedOnV ["equal", "a"] =
      .error (.mishap (.arity (.missing "equal" ["expected"]))) := rfl
  obtain ⟨e, hpattern⟩ : ∃ e, assertedOnV ["match", "a", "("] = .error (.mishap (.pattern e)) :=
    ⟨_, rfl⟩
  refine ⟨isReporting_labelling _, ?_, ?_⟩
  · rw [harity]
    rintro ⟨⟩
  · rw [hpattern]
    rintro ⟨⟩

end Simulation

end TapScript
