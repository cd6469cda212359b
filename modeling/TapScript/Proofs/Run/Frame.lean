import TapScript.Proofs.Procedure
import TapScript.Proofs.Library.Cache

/-! # What commands leave as it is

A command that runs no other script leaves the session and the current driver as they are, only
adds to the registry, and gives notice of nothing but lines of output.
-/

namespace TapScript

variable {σ ε α β : Type}

/-- The second state differs from the first in the world, in more libraries, and in lines of
output alone. -/
structure Calm (s s' : RunState σ ε) : Prop where
  session : s'.session = s.session
  current : s'.current = s.current
  registry : s.registry.Extends s'.registry
  notices : ∃ lines : List String, s'.notices = s.notices ++ lines.map .said

theorem Calm.refl (s : RunState σ ε) : Calm s s :=
  ⟨rfl, rfl, .refl _, [], by simp⟩

theorem Calm.trans {s s' s'' : RunState σ ε} (h : Calm s s') (h' : Calm s' s'') : Calm s s'' := by
  obtain ⟨lines, hl⟩ := h.notices
  obtain ⟨lines', hl'⟩ := h'.notices
  exact ⟨h'.session.trans h.session, h'.current.trans h.current, h.registry.trans h'.registry,
    lines ++ lines', by rw [hl', hl, List.map_append, List.append_assoc]⟩

instance : IsPreorder (RunState σ ε) Calm where
  refl := Calm.refl
  trans _ _ _ := Calm.trans

namespace Engine

open Procedure

/-- Whether a part of a run is calm from every state. -/
def IsCalm (m : Engine σ ε α) : Prop :=
  ∀ s, Calm s (m.run s).2

theorem IsCalm.of_run {m : Engine σ ε α} {x : Except Fault α} {s s' : RunState σ ε} (hm : IsCalm m)
    (h : m.run s = (x, s')) : Calm s s' := by
  have hs := hm s
  rw [h] at hs
  exact hs

theorem isCalm_pure (a : α) : IsCalm (pure a : Engine σ ε α) := Calm.refl

theorem isCalm_throw (f : Fault) : IsCalm (throw f : Engine σ ε α) := Calm.refl

theorem isCalm_lift (r : Except Fault α) : IsCalm (liftM r : Engine σ ε α) := Calm.refl

theorem isCalm_get : IsCalm (get : Engine σ ε (RunState σ ε)) := Calm.refl

theorem isCalm_act (a : Act σ α) : IsCalm (act a : Engine σ ε α) := fun _ =>
  ⟨rfl, rfl, .refl _, [], by simp⟩

theorem isCalm_said (line : String) : IsCalm (note (.said line) : Engine σ ε Unit) := fun _ =>
  ⟨rfl, rfl, .refl _, [line], rfl⟩

theorem isCalm_loadLibrary (segments : List String) :
    IsCalm (loadLibrary segments : Engine σ ε Library) := fun s =>
  ⟨rfl, rfl, s.registry.load_extends _ _, [], by simp⟩

theorem isCalm_prepare (cs : List Command) : IsCalm (prepare cs : Engine σ ε Unit) := fun s =>
  ⟨rfl, rfl, Registry.prepare_extends _ _ s.registry, [], by simp⟩

theorem IsCalm.bind {m : Engine σ ε α} {f : α → Engine σ ε β} (hm : IsCalm m)
    (hf : ∀ a, IsCalm (f a)) : IsCalm (m >>= f) :=
  Within.bind hm hf

theorem isCalm_forM {as : List α} {f : α → Engine σ ε Unit} (h : ∀ a, IsCalm (f a)) :
    IsCalm (as.forM f) :=
  Within.forM h

end Engine

namespace Setup

open Engine

variable (e : Setup σ ε)

theorem isCalm_runSleep (c : Command) : IsCalm (e.runSleep c) := by
  unfold runSleep
  split
  · exact isCalm_throw _
  · refine (isCalm_lift _).bind fun value => ?_
    refine (isCalm_lift _).bind fun text => ?_
    split
    · exact isCalm_act _
    · exact isCalm_throw _

theorem isCalm_runLog (c : Command) : IsCalm (runLog c : Engine σ ε Unit) :=
  isCalm_forM fun t => isCalm_said t.text

theorem isCalm_callLibrary (c : Command) : IsCalm (e.callLibrary c) := by
  unfold callLibrary
  split
  · exact isCalm_throw _
  · refine (isCalm_loadLibrary _).bind fun l => ?_
    refine (isCalm_lift _).bind fun _ => ?_
    refine (isCalm_lift _).bind fun args => ?_
    refine (isCalm_lift _).bind fun _ => ?_
    refine (isCalm_act _).bind fun _ => ?_
    exact isCalm_get.bind fun s => isCalm_act _

/-- A command that runs no other script is calm. -/
theorem isCalm_dispatch {c : Command} (h : c.builtin? ≠ some .runScript) (nested : Nested σ ε) :
    IsCalm (e.dispatch nested c) := by
  unfold dispatch
  split
  · exact e.isCalm_runSleep c
  · exact isCalm_runLog c
  · exact absurd ‹_› h
  · exact (isCalm_act _).bind fun _ => isCalm_pure _
  · exact (isCalm_act _).bind fun _ => isCalm_pure _
  · exact (isCalm_act _).bind fun _ => isCalm_pure _
  · exact (e.isCalm_callLibrary c).bind fun _ => isCalm_pure _

end Setup

end TapScript
