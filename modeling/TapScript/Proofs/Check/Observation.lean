import TapScript.Proofs.Check.Judging
import TapScript.Proofs.Run.Journal
import TapScript.Simulation.Basic

/-! # Observing a label

An assert command looks its element up, finds it with one call and reads its label with another.
That is all it does: what its check makes of the label changes nothing.
-/

namespace TapScript

namespace Driver

open Procedure

variable {σ ε : Type} (d : Driver σ ε) (r : Resolver) (labelName path : String) (w : World σ)

/-- The label of the element under a path. -/
def observe : Act σ Value := do
  let locator ← r.locator path
  let element ← d.find (.ofLocator locator) locator
  d.readAttribute element labelName

/-- How a label is observed: the calls for it, what is seen, and the world that it leaves. A path
that leads to no locator takes no call, and an element that is not found takes one. -/
inductive Observes : List (Call ε) → Except Fault Value → World σ → Prop
  | unresolved {f} (resolved : r.locator path = .error f) : Observes [] (.error f) w
  | absent {locator f w'} (resolved : r.locator path = .ok locator)
      (found : (d.find (.ofLocator locator) locator).run w = (.error f, w')) :
      Observes [.find (.ofLocator locator) locator] (.error f) w'
  | read {locator element seen w₁ w'} (resolved : r.locator path = .ok locator)
      (found : (d.find (.ofLocator locator) locator).run w = (.ok element, w₁))
      (read : (d.readAttribute element labelName).run w₁ = (seen, w')) :
      Observes [.find (.ofLocator locator) locator, .readAttribute element labelName] seen w'

theorem observe_observes : ∃ calls seen w',
    Act.Traced (d.observe r labelName path) (d.journaled.observe r labelName path) w calls seen w' ∧
      d.Observes r labelName path w calls seen w' := by
  unfold observe
  cases hl : r.locator path with
  | error f => exact ⟨_, _, _, .lift_bind_error rfl, .unresolved hl⟩
  | ok locator =>
    rcases hf : (d.find (.ofLocator locator) locator).run w with ⟨f | element, w₁⟩
    · exact ⟨_, _, _, .lift_bind rfl (Act.Traced.respond hf).bind_error, .absent hl hf⟩
    · rcases hr : (d.readAttribute element labelName).run w₁ with ⟨seen, w'⟩
      exact ⟨_, _, _, .lift_bind rfl ((Act.Traced.respond hf).bind (.respond hr)), .read hl hf hr⟩

variable {d r labelName path w} {h : Regex.Host} {c : Command} {name target : Token}
  {rest : List Token} {k : Check}
  {calls : List (Call ε)} {seen : Except Fault Value} {w' : World σ}

theorem runAssert_known (hc : c.args = name :: target :: rest)
    (hk : Check.ofName? name.text = some k) :
    d.runAssert h r labelName c = d.observe r labelName target.text >>= fun label => do
      k.run h (checkArgs label rest)
      return label := by
  rw [runAssert, hc]
  simp only [hk, observe, bind_assoc]

theorem runAssert_unknown (hc : c.args = name :: target :: rest)
    (hk : Check.ofName? name.text = none) :
    d.runAssert h r labelName c = liftM (r.locator target.text) >>= fun _ =>
      throw (c.fault (.unknownCheck name.text)) := by
  rw [runAssert, hc]
  simp only [hk]

/-- An assert command with a check is an observation and what the check makes of it. -/
theorem runAssert_traced (hc : c.args = name :: target :: rest)
    (hk : Check.ofName? name.text = some k)
    (ht : Act.Traced (d.observe r labelName target.text)
      (d.journaled.observe r labelName target.text) w calls seen w') :
    Act.Traced (d.runAssert h r labelName c) (d.journaled.runAssert h r labelName c) w calls
      (seen >>= fun label => (k.run h (checkArgs label rest)).map fun _ => label) w' := by
  rw [runAssert_known hc hk, runAssert_known hc hk]
  cases seen with
  | error f => exact ht.bind_error
  | ok label =>
    rw [← List.append_nil calls]
    refine ht.bind ?_
    change Act.Traced _ _ w' [] ((k.run h (checkArgs label rest)).map fun _ => label) w'
    cases hr : k.run h (checkArgs label rest) with
    | error f => exact .lift_bind_error rfl
    | ok u => exact .lift_bind rfl (.pure label)

end Driver

namespace Simulation

/-- A driver that finds every element and reads the same label on all of them. -/
def labelling (label : Value) : Driver Unit Unit where
  respond
    | .find .. | .click _ | .tap .. | .swipe .. | .type .. | .keys .. | .setValue .. | .sleep _
    | .quit => pure ()
    | .readAttribute .. => pure label

/-- Dictionaries in which one element has a locator. -/
def oneElement : Resolver :=
  ⟨.map true [], .map true [(.text "a", .text "x")]⟩

/-- An assert command with some arguments. -/
def asserting (args : List String) : Command :=
  ⟨"assert " ++ " ".intercalate args, "assert", [], "assert", args.map (⟨·, false⟩), 1, none⟩

/-- A world without files. -/
def bareWorld : World Unit :=
  ⟨⟨[], [], []⟩, ()⟩

end Simulation

end TapScript
