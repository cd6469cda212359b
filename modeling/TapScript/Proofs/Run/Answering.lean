import TapScript.Proofs.Run.Calling
import TapScript.Proofs.Run.Foresight
import TapScript.Proofs.Run.Transcript

/-! # What a library command answers

A library command that cannot be called does nothing, and one that can be called pauses, and then
calls its routine with what its tokens stand for. To see this, everything that a run does to the
driver and to the libraries is entered in a transcript.
-/

namespace TapScript

open Outcome Procedure

variable {σ ε : Type}

namespace Routine

/-- What a routine does when it is called: nothing if it refuses the number of its arguments, and
else it starts once, with the missing ones being nothing, and makes calls on the driver. -/
inductive Does (r : Routine) (origin : List String) (vs : List Value) : List (Deed ε) → Prop
  | refused {e : ArityError} (mismatch : r.signature.mismatch? vs.length = some e) :
    Does r origin vs []
  | started {more} (fits : r.signature.mismatch? vs.length = none)
    (calls : ∀ d ∈ more, ∃ call : Call ε, d = .call call) :
    Does r origin vs (.enter origin r.signature.name
      (vs ++ List.replicate (r.signature.params.length - vs.length) .none) :: more)

variable {r : Routine} {origin : List String} {vs : List Value}

theorem call_refused {x : ArityError} (hm : r.signature.mismatch? vs.length = some x)
    (h : Host σ) (current : Option (Driver σ ε)) :
    r.call h current origin vs = throw (.mishap (.arity x)) := by
  unfold call
  rw [hm]
  rfl

theorem call_started (hm : r.signature.mismatch? vs.length = none) (h : Host σ)
    (current : Option (Driver σ ε)) : r.call h current origin vs = (do
      h.enter origin r.signature.name
        (vs ++ List.replicate (r.signature.params.length - vs.length) .none)
      perform current r.steps
      liftM r.outcome) := by
  unfold call
  rw [hm]

theorem call_does (r : Routine) (h : Host σ) (current : Option (Driver σ ε))
    (origin : List String) (vs : List Value) (w : World σ) (log : List (Deed ε)) : ∃ deeds,
    r.Does origin vs deeds ∧
      (r.call h.transcribed (current.map Driver.transcribed) origin vs).run
        (w.transcribed log) = (((r.call h current origin vs).run w).1,
          ((r.call h current origin vs).run w).2.transcribed (log ++ deeds)) := by
  -- Once the routine has started, all that it does is to pause.
  have hafter : Mirrors World.transcribed (fun d : Deed ε => ∃ call, d = .call call)
      (perform current r.steps >>= fun _ => liftM r.outcome)
      (perform (current.map Driver.transcribed) r.steps >>= fun _ => liftM r.outcome) := by
    refine (mirrors_perform (fun d ms => ?_) current r.steps).bind fun _ => .lift r.outcome
    exact fun w log => ⟨[.call (.sleep ms)], by simp, rfl⟩
  cases hm : r.signature.mismatch? vs.length with
  | some x =>
    rw [call_refused hm, call_refused hm]
    exact ⟨[], .refused hm, by rw [List.append_nil]; rfl⟩
  | none =>
    rw [call_started hm, call_started hm]
    let filled := vs ++ List.replicate (r.signature.params.length - vs.length) .none
    have hstart : (h.transcribed.enter origin r.signature.name filled).run
        (w.transcribed log) = (((h.enter origin r.signature.name filled).run w).1,
          ((h.enter origin r.signature.name filled).run w).2.transcribed
            (log ++ [.enter origin r.signature.name filled])) := rfl
    rcases hr : (h.enter origin r.signature.name filled).run w with ⟨x | u, w₁⟩
    · rw [hr] at hstart
      refine ⟨[.enter origin r.signature.name filled], .started hm nofun, ?_⟩
      rw [run_bind_error hstart, run_bind_error hr]
    · rw [hr] at hstart
      obtain ⟨more, hmore, hrest⟩ := hafter w₁ (log ++ [.enter origin r.signature.name filled])
      refine ⟨.enter origin r.signature.name filled :: more, .started hm hmore, ?_⟩
      rw [run_bind_ok hstart, run_bind_ok hr, hrest, List.append_assoc, List.singleton_append]

end Routine

namespace Library

/-- Whether a library lists a command with a routine. -/
def Lists (l : Library) (command : String) (r : Routine) : Prop :=
  ∃ listed, l.module.commands = .ok listed ∧ listed.lookup command = some (some r)

/-- Whether a library tells its commands and lists a command without a routine, if at all. -/
def Lacks (l : Library) (command : String) : Prop :=
  ∃ listed, l.module.commands = .ok listed ∧ (listed.lookup command).join = none

variable {l : Library} {command : String}

theorem Lists.routine {r : Routine} (h : l.Lists command r) : l.routine command = .ok r := by
  obtain ⟨listed, hc, hl⟩ := h
  rw [routine_of_commands hc, hl, Option.join_some]

theorem Lacks.routine (h : l.Lacks command) :
    l.routine command = .error (.ofProblem (.noSuchCommand l.name l.file.text command)) := by
  obtain ⟨listed, hc, hl⟩ := h
  rw [routine_of_commands hc, hl]

theorem routine_untold {x : Mishap} (h : l.module.explicit = some (.error x)) :
    l.routine command = .error (.mishap x) := by
  rw [Library.routine, Module.routine?, Module.commands_eq_error_iff.mpr ⟨x, h, rfl⟩]
  rfl

theorem lists_cases (l : Library) (command : String) : (∃ r, l.Lists command r) ∨
    l.Lacks command ∨ ∃ x, l.module.explicit = some (.error x) := by
  cases hc : l.module.commands with
  | error f =>
    obtain ⟨x, hx, -⟩ := Module.commands_eq_error_iff.mp hc
    exact .inr (.inr ⟨x, hx⟩)
  | ok listed =>
    cases hl : (listed.lookup command).join with
    | none => exact .inr (.inl ⟨listed, hc, hl⟩)
    | some r => exact .inl ⟨r, listed, hc, Option.join_eq_some_iff.mp hl⟩

end Library

namespace Setup

open Engine

variable (e : Setup σ ε) (c : Command) (s : RunState σ ε) (l : Library)

/-- How a command of a loaded library is answered: with what outcome, in which world, and after
which deeds. -/
inductive Answers : Except Fault Value → World σ → List (Deed ε) → Prop
  | unlisted (absent : l.Lacks c.verb) :
    Answers (.error (.ofProblem (.noSuchCommand l.name l.file.text c.verb))) s.world []
  | untold {x} (untold : l.module.explicit = some (.error x)) :
    Answers (.error (.mishap x)) s.world []
  | unresolved {r before t after f} (listed : l.Lists c.verb r)
    (args : c.args = before ++ t :: after)
    (resolved : ∀ u ∈ before, ∃ v, e.resolver.argument u = .ok v)
    (fails : e.resolver.argument t = .error f) : Answers (.error f) s.world []
  | interrupted {r vs f w} (listed : l.Lists c.verb r)
    (resolved : List.Forall₂ (fun t v => e.resolver.argument t = .ok v) c.args vs)
    (pause : (e.driver.sleep e.delay).run s.world = (.error f, w)) :
    Answers (.error f) w [.call (.sleep e.delay)]
  | called {r vs w u w' deeds} (listed : l.Lists c.verb r)
    (resolved : List.Forall₂ (fun t v => e.resolver.argument t = .ok v) c.args vs)
    (pause : (e.driver.sleep e.delay).run s.world = (.ok (), w))
    (call : (r.call e.host s.current l.origin vs).run w = (u, w'))
    (does : r.Does l.origin vs deeds) :
    Answers u w' (.call (.sleep e.delay) :: deeds)

variable {e c s l} {g : Registry} {r : Routine} {vs : List Value} {w : World σ} {f : Fault}

theorem callLibrary_error {s' : RunState σ ε} (h : (e.invocation c).run s = (.error f, s')) :
    (e.callLibrary c).run s = (.error f, s') := by
  rw [callLibrary_eq, run_bind_error h]

theorem callLibrary_ready (hl : s.registry.load s.world.files c.library = (.ok l, g))
    (hr : l.routine c.verb = .ok r) (ha : e.resolver.arguments c.args = .ok (.none :: vs))
    (hp : (e.driver.sleep e.delay).run s.world = (.ok (), w)) :
    (e.callLibrary c).run s =
      (act (r.call e.host s.current l.origin vs)).run { s with world := w, registry := g } := by
  rw [callLibrary_eq, run_bind_ok (invocation_ready hl hr ha hp), Library.invoke_unbound hr]

/-- How a command of a loaded library goes from a state, without a transcript and with one. -/
structure Answered (e : Setup σ ε) (c : Command) (s : RunState σ ε) (l : Library)
    (log : List (Deed ε)) (u : Except Fault Value) (s' : RunState σ ε) (deeds : List (Deed ε)) :
    Prop where
  answers : e.Answers c s l u s'.world deeds
  plain : (e.callLibrary c).run s = (u, s')
  transcribed : (e.transcribed.callLibrary c).run (s.transcribed log) =
    (u, s'.transcribed (log ++ deeds))

section Stages

variable (hl : s.registry.load s.world.files c.library = (.ok l, g)) (log : List (Deed ε))

include hl

/-- With a transcript the same library is loaded. The setup with a transcript is a setup too, so
that what holds of any setup then holds of it. -/
theorem load_transcribed : (s.transcribed log).registry.load
    (s.transcribed log).world.files c.library = (.ok l, g) := hl

theorem answered_unlisted (absent : l.Lacks c.verb) :
    e.Answered c s l log (.error (.ofProblem (.noSuchCommand l.name l.file.text c.verb)))
      { s with registry := g } [] := by
  refine ⟨.unlisted absent, callLibrary_error (invocation_unlisted hl absent.routine), ?_⟩
  rw [List.append_nil]
  exact callLibrary_error (invocation_unlisted (load_transcribed hl log) absent.routine)

theorem answered_untold {x : Mishap} (untold : l.module.explicit = some (.error x)) :
    e.Answered c s l log (.error (.mishap x)) { s with registry := g } [] := by
  have hr : l.routine c.verb = .error (.mishap x) := Library.routine_untold untold
  refine ⟨.untold untold, callLibrary_error (invocation_unlisted hl hr), ?_⟩
  rw [List.append_nil]
  exact callLibrary_error (invocation_unlisted (load_transcribed hl log) hr)

theorem answered_unresolved (listed : l.Lists c.verb r)
    (fails : c.args.mapM e.resolver.argument = .error f) :
    e.Answered c s l log (.error f) { s with registry := g } [] := by
  have hr := listed.routine
  have harguments : e.resolver.arguments c.args = .error f := by
    rw [Resolver.arguments, fails]
    rfl
  obtain ⟨before, t, after, hargs, hbefore, ht⟩ := first_of_mapM fails
  refine ⟨.unresolved listed hargs hbefore ht,
    callLibrary_error (invocation_unresolved hl hr harguments), ?_⟩
  rw [List.append_nil]
  exact callLibrary_error (invocation_unresolved (load_transcribed hl log) hr harguments)

theorem answered_paused (listed : l.Lists c.verb r)
    (resolved : c.args.mapM e.resolver.argument = .ok vs) :
    ∃ u w deeds, e.Answered c s l log u { s with world := w, registry := g } deeds := by
  have hr := listed.routine
  have harguments : e.resolver.arguments c.args = .ok (.none :: vs) := by
    rw [Resolver.arguments, resolved]
    rfl
  have hresolved := mapM_eq_ok.mp resolved
  have hpause : (e.transcribed.driver.sleep e.delay).run (s.transcribed log).world =
      (((e.driver.sleep e.delay).run s.world).1,
        ((e.driver.sleep e.delay).run s.world).2.transcribed
          (log ++ [.call (.sleep e.delay)])) := rfl
  rcases hp : (e.driver.sleep e.delay).run s.world with ⟨f | _, w⟩
  · rw [hp] at hpause
    exact ⟨_, w, _, .interrupted listed hresolved hp,
      callLibrary_error (invocation_interrupted hl hr harguments hp),
      callLibrary_error (invocation_interrupted (load_transcribed hl log) hr harguments hpause)⟩
  · rw [hp] at hpause
    obtain ⟨deeds, hdoes, hcall⟩ := r.call_does e.host s.current l.origin vs w
      (log ++ [.call (.sleep e.delay)])
    let s₁ : RunState σ ε := { s with world := w, registry := g }
    have hact := (transcript σ ε).run_act_mirrored (s := s₁) hcall
    rw [List.append_assoc] at hact
    have hplain := callLibrary_ready hl hr harguments hp
    have htranscribed := callLibrary_ready (e := e.transcribed) (load_transcribed hl log)
      hr harguments hpause
    have hboth := htranscribed.trans hact
    exact ⟨_, _, _, .called listed hresolved hp rfl hdoes, hplain, hboth⟩

end Stages

/-- A command of a loaded library that is not listed, or has an argument that cannot be resolved,
does nothing. Any other pauses once, and unless that fails it calls its routine once, with what
its tokens stand for. -/
theorem callLibrary_answered (hb : c.builtin? = none)
    (hl : s.registry.load s.world.files c.library = (.ok l, g)) (log : List (Deed ε)) :
    ∃ u w deeds, e.Answered c s l log u { s with world := w, registry := g } deeds ∧
      ∀ nested, (e.dispatch nested c).run s =
        (u.map fun _ => (), { s with world := w, registry := g }) := by
  suffices h : ∃ u w deeds, e.Answered c s l log u { s with world := w, registry := g } deeds by
    obtain ⟨u, w, deeds, ha⟩ := h
    refine ⟨u, w, deeds, ha, fun nested => ?_⟩
    simp only [dispatch, hb]
    rw [run_bind, ha.plain]
    cases u <;> rfl
  obtain ⟨r, hlisted⟩ | habsent | ⟨x, huntold⟩ := l.lists_cases c.verb
  · cases ha : c.args.mapM e.resolver.argument with
    | error f => exact ⟨_, _, _, answered_unresolved hl log hlisted ha⟩
    | ok vs => exact answered_paused hl log hlisted ha
  · exact ⟨_, _, _, answered_unlisted hl log habsent⟩
  · exact ⟨_, _, _, answered_untold hl log huntold⟩

end Setup

namespace Simulation

/-- A library with one routine, which takes one thing. -/
def shop : Library :=
  ⟨"shop", ⟨.here, ["libs", "shop.py"]⟩, ⟨none,
    [("buy", ⟨.none, some ⟨⟨"buy", ["thing"], 0, false⟩, [], .ok (.text "bought")⟩⟩)], none⟩,
    ["shop"]⟩

/-- A state of a run in which that library is loaded. -/
def stocked : RunState Unit Unit :=
  { idle with registry := ⟨none, .path, [("shop", shop)]⟩ }

/-- A command of that library, with a text for the thing. -/
def buying : Command :=
  ⟨"shop.buy 'tea'", "shop.buy", ["shop"], "buy", [⟨"tea", true⟩], 1, none⟩

/-- Such a command pauses and starts the routine with its text. -/
theorem callLibrary_answered_buying :
    serving.Answered buying stocked shop [] (.ok (.text "bought")) stocked
      [.call (.sleep serving.delay), .enter ["shop"] "buy" [.text "tea"]] := by
  have hl : stocked.registry.load stocked.world.files buying.library =
    (.ok shop, stocked.registry) := rfl
  obtain ⟨u, w, deeds, h, -⟩ := Setup.callLibrary_answered (e := serving) rfl hl []
  obtain rfl : u = .ok (.text "bought") := (congrArg Prod.fst h.plain).symm
  obtain rfl : w = stocked.world := (congrArg (fun x => x.2.world) h.plain).symm
  have hdeeds := congrArg (fun x => x.2.world.devices.deeds) h.transcribed
  obtain rfl : deeds = [.call (.sleep serving.delay), .enter ["shop"] "buy" [.text "tea"]] :=
    hdeeds.symm
  exact h

end Simulation

end TapScript
