import Mathlib.Order.Defs.Unbundled
import TapScript.Run.Runner

/-! # Procedures

Acts and parts of a run are procedures on a state that may end with a fault. From a state such
a procedure gives its outcome and the state that it leaves: here for a sequence, and for each
primitive part of a run.
-/

namespace TapScript

/-- A procedure on a state that may end with a fault. What it did before the fault stays. -/
abbrev Procedure (S α : Type) := ExceptT Fault (StateM S) α

namespace Procedure

variable {S α β : Type} {m : Procedure S α} {f : α → Procedure S β} {s s' : S}

theorem run_bind : (m >>= f).run s = match m.run s with
    | (.ok a, s') => (f a).run s'
    | (.error x, s') => (.error x, s') := by
  change (ExceptT.bindCont f (m.run s).1 (m.run s).2 : Except Fault β × S) = _
  rcases m.run s with ⟨_ | _, _⟩ <;> rfl

theorem run_bind_ok {a : α} (h : m.run s = (.ok a, s')) : (m >>= f).run s = (f a).run s' := by
  rw [run_bind, h]

theorem run_bind_error {x : Fault} (h : m.run s = (.error x, s')) :
    (m >>= f).run s = (.error x, s') := by
  rw [run_bind, h]

theorem run_bind_eq_ok {b : β} : (m >>= f).run s = (.ok b, s') ↔
    ∃ a s₁, m.run s = (.ok a, s₁) ∧ (f a).run s₁ = (.ok b, s') := by
  rw [run_bind]
  rcases m.run s with ⟨x | a, s₁⟩
  · exact ⟨by rintro ⟨⟩, by rintro ⟨a, s₁, ⟨⟩, -⟩⟩
  · refine ⟨fun h => ⟨a, s₁, rfl, h⟩, ?_⟩
    rintro ⟨a, s₁, ⟨⟩, h⟩
    exact h

theorem run_bind_eq_error {x : Fault} : (m >>= f).run s = (.error x, s') ↔
    m.run s = (.error x, s') ∨ ∃ a s₁, m.run s = (.ok a, s₁) ∧ (f a).run s₁ = (.error x, s') := by
  rw [run_bind]
  rcases m.run s with ⟨y | a, s₁⟩
  · refine ⟨fun h => ?_, ?_⟩
    · cases h
      exact Or.inl rfl
    · rintro (h | ⟨a, s₁, ⟨⟩, -⟩)
      cases h
      rfl
  · refine ⟨fun h => Or.inr ⟨a, s₁, rfl, h⟩, ?_⟩
    rintro (h | ⟨a, s₁, ⟨⟩, h⟩)
    · cases h
    · exact h

theorem run_tryCatch {g : Fault → Procedure S α} :
    (MonadExcept.tryCatch m g).run s = match m.run s with
    | (.ok a, s') => (.ok a, s')
    | (.error x, s') => (g x).run s' := by
  simp only [tryCatch, tryCatchThe, MonadExceptOf.tryCatch, ExceptT.tryCatch]
  change ((m.run : StateM S _) >>= _ : StateM S _) s = _
  rcases h : m.run s with ⟨x | a, s'⟩
  · simp only [bind, StateT.bind, h]
    rfl
  · simp only [bind, StateT.bind, h]
    rfl

@[simp] theorem run_pure (a : α) : (pure a : Procedure S α).run s = (.ok a, s) := rfl

@[simp] theorem run_throw (x : Fault) : (throw x : Procedure S α).run s = (.error x, s) := rfl

@[simp] theorem run_get : (get : Procedure S S).run s = (.ok s, s) := rfl

@[simp] theorem run_set (s₁ : S) : (set s₁ : Procedure S PUnit).run s = (.ok ⟨⟩, s₁) := rfl

@[simp] theorem run_modify (g : S → S) :
    (modify g : Procedure S Unit).run s = (.ok (), g s) := rfl

@[simp] theorem run_lift (r : Except Fault α) : (liftM r : Procedure S α).run s = (r, s) := rfl

/-- A procedure that leads from each state to one that is related to it. -/
def Within (Q : S → S → Prop) (m : Procedure S α) : Prop :=
  ∀ s, Q s (m.run s).2

namespace Within

variable {Q : S → S → Prop} [IsPreorder S Q]

theorem pure (a : α) : Within Q (Pure.pure a : Procedure S α) := refl_of Q

theorem throw (x : Fault) : Within Q (MonadExcept.throw x : Procedure S α) := refl_of Q

theorem get : Within Q (MonadState.get : Procedure S S) := refl_of Q

theorem bind (hm : Within Q m) (hf : ∀ a, Within Q (f a)) : Within Q (m >>= f) := by
  intro s
  have h := hm s
  rw [run_bind]
  rcases hr : m.run s with ⟨x | a, s'⟩
  · rw [hr] at h; exact h
  · rw [hr] at h; exact trans_of Q h (hf a s')

theorem tryCatch {g : Fault → Procedure S α} (hm : Within Q m) (hg : ∀ x, Within Q (g x)) :
    Within Q (MonadExcept.tryCatch m g) := by
  intro s
  have h := hm s
  rw [run_tryCatch]
  rcases hr : m.run s with ⟨x | a, s'⟩
  · rw [hr] at h; exact trans_of Q h (hg x s')
  · rw [hr] at h; exact h

theorem forM {as : List β} {f : β → Procedure S Unit} (h : ∀ b, Within Q (f b)) :
    Within Q (as.forM f) := by
  induction as with
  | nil => exact pure ()
  | cons b as ih => exact (h b).bind fun _ => ih

end Within

/-- A procedure on states with a journal does what another does on states without one, and
enters nothing but calls of a kind. -/
def Mirrors {S S' κ α : Type} (view : S → List κ → S') (P : κ → Prop)
    (m : Procedure S α) (m' : Procedure S' α) : Prop :=
  ∀ s calls, ∃ more, (∀ c ∈ more, P c) ∧
    m'.run (view s calls) = ((m.run s).1, view (m.run s).2 (calls ++ more))

namespace Mirrors

variable {S S' κ α β : Type} {view : S → List κ → S'} {P : κ → Prop}
  {m : Procedure S α} {m' : Procedure S' α}

theorem of_run (h : ∀ s calls, m'.run (view s calls) = ((m.run s).1, view (m.run s).2 calls)) :
    Mirrors view P m m' := fun s calls =>
  ⟨[], by simp, by rw [h, List.append_nil]⟩

theorem pure (a : α) : Mirrors view P (Pure.pure a) (Pure.pure a) :=
  of_run fun _ _ => rfl

theorem throw (f : Fault) :
    Mirrors view P (MonadExcept.throw f : Procedure S α) (MonadExcept.throw f) :=
  of_run fun _ _ => rfl

theorem lift (r : Except Fault α) : Mirrors view P (liftM r) (liftM r) :=
  of_run fun _ _ => rfl

theorem bind {f : α → Procedure S β} {f' : α → Procedure S' β} (hm : Mirrors view P m m')
    (hf : ∀ a, Mirrors view P (f a) (f' a)) : Mirrors view P (m >>= f) (m' >>= f') := by
  intro s calls
  obtain ⟨more, hp, h⟩ := hm s calls
  rcases hr : m.run s with ⟨x | a, s₁⟩
  · rw [hr] at h
    exact ⟨more, hp, by rw [run_bind_error h, run_bind_error hr]⟩
  · rw [hr] at h
    obtain ⟨more', hp', h'⟩ := hf a s₁ (calls ++ more)
    refine ⟨more ++ more', List.forall_mem_append.mpr ⟨hp, hp'⟩, ?_⟩
    rw [run_bind_ok h, run_bind_ok hr, h', List.append_assoc]

theorem get_bind {f : S → Procedure S β} {f' : S' → Procedure S' β}
    (hf : ∀ s calls, Mirrors view P (f s) (f' (view s calls))) :
    Mirrors view P (get >>= f) (get >>= f') := fun s calls =>
  hf s calls s calls

theorem throw_bind {f : β → Procedure S α} {f' : β → Procedure S' α} (x : Fault) :
    Mirrors view P (MonadExcept.throw x >>= f) (MonadExcept.throw x >>= f') :=
  of_run fun _ _ => rfl

theorem tryCatch {f : Fault → Procedure S α} {f' : Fault → Procedure S' α}
    (hm : Mirrors view P m m') (hf : ∀ x, Mirrors view P (f x) (f' x)) :
    Mirrors view P (MonadExcept.tryCatch m f) (MonadExcept.tryCatch m' f') := by
  intro s calls
  obtain ⟨more, hp, h⟩ := hm s calls
  rw [run_tryCatch, run_tryCatch, h]
  rcases m.run s with ⟨x | a, s₁⟩
  · obtain ⟨more', hp', h'⟩ := hf x s₁ (calls ++ more)
    refine ⟨more ++ more', List.forall_mem_append.mpr ⟨hp, hp'⟩, ?_⟩
    rw [← List.append_assoc]
    exact h'
  · exact ⟨more, hp, rfl⟩

theorem forM {as : List β} {f : β → Procedure S Unit} {f' : β → Procedure S' Unit}
    (hf : ∀ b, Mirrors view P (f b) (f' b)) : Mirrors view P (as.forM f) (as.forM f') := by
  induction as with
  | nil => exact pure ()
  | cons b as ih => exact (hf b).bind fun _ => ih

end Mirrors

/-- How a procedure goes from a state, without a journal and with one: what it enters, how it ends,
and the state that it leaves. -/
structure Goes {S S' κ α : Type} (view : S → List κ → S') (m : Procedure S α)
    (m' : Procedure S' α) (s : S) (more : List κ) (r : Except Fault α) (s' : S) : Prop where
  plain : m.run s = (r, s')
  viewed : ∀ calls, m'.run (view s calls) = (r, view s' (calls ++ more))

namespace Goes

variable {S S' κ α β : Type} {view : S → List κ → S'} {m : Procedure S α} {m' : Procedure S' α}
  {f : α → Procedure S β} {f' : α → Procedure S' β} {s s₁ s' : S} {calls more : List κ} {x : α}
  {y : Fault}

theorem pure (x : α) : Goes view (Pure.pure x) (Pure.pure x) s [] (.ok x) s :=
  ⟨rfl, fun calls => by rw [List.append_nil]; rfl⟩

theorem throw (y : Fault) : Goes view (MonadExcept.throw y : Procedure S α) (MonadExcept.throw y) s
    [] (.error y) s :=
  ⟨rfl, fun calls => by rw [List.append_nil]; rfl⟩

theorem lift (v : Except Fault α) : Goes view (liftM v) (liftM v) s [] v s :=
  ⟨rfl, fun calls => by rw [List.append_nil]; rfl⟩

theorem bind {r : Except Fault β} (h : Goes view m m' s calls (.ok x) s₁)
    (h' : Goes view (f x) (f' x) s₁ more r s') :
    Goes view (m >>= f) (m' >>= f') s (calls ++ more) r s' where
  plain := by rw [run_bind_ok h.plain, h'.plain]
  viewed log := by rw [run_bind_ok (h.viewed log), h'.viewed, List.append_assoc]

theorem bind_error (h : Goes view m m' s calls (.error y) s') :
    Goes view (m >>= f) (m' >>= f') s calls (.error y) s' where
  plain := run_bind_error h.plain
  viewed log := run_bind_error (h.viewed log)

theorem lift_bind {v : Except Fault α} {r : Except Fault β} (hv : v = .ok x)
    (h : Goes view (f x) (f' x) s calls r s') :
    Goes view (liftM v >>= f) (liftM v >>= f') s calls r s' := by
  subst hv
  exact ⟨h.plain, h.viewed⟩

theorem lift_bind_error {v : Except Fault α} (hv : v = .error y) :
    Goes view (liftM v >>= f) (liftM v >>= f') s [] (.error y) s := by
  subst hv
  exact bind_error (throw y)

theorem tryCatch {g : Fault → Procedure S α} {g' : Fault → Procedure S' α}
    (h : Goes view m m' s calls (.ok x) s') :
    Goes view (MonadExcept.tryCatch m g) (MonadExcept.tryCatch m' g') s calls (.ok x) s' where
  plain := by rw [run_tryCatch, h.plain]
  viewed log := by rw [run_tryCatch, h.viewed]

theorem tryCatch_error {g : Fault → Procedure S α} {g' : Fault → Procedure S' α}
    {r : Except Fault α} (h : Goes view m m' s calls (.error y) s₁)
    (h' : Goes view (g y) (g' y) s₁ more r s') :
    Goes view (MonadExcept.tryCatch m g) (MonadExcept.tryCatch m' g') s (calls ++ more) r s' where
  plain := by
    rw [run_tryCatch, h.plain]
    exact h'.plain
  viewed log := by
    rw [run_tryCatch, h.viewed, ← List.append_assoc]
    exact h'.viewed _

end Goes

end Procedure

namespace Engine

open Procedure

variable {σ ε α : Type} {s : RunState σ ε}

@[simp] theorem run_act (a : Act σ α) : (act a : Engine σ ε α).run s =
    ((a.run s.world).1, { s with world := (a.run s.world).2 }) := rfl

@[simp] theorem run_note (n : Notice) : (note n : Engine σ ε Unit).run s =
    (.ok (), { s with notices := s.notices ++ [n] }) := rfl

@[simp] theorem run_update (f : Session → Session) : (update f : Engine σ ε Unit).run s =
    (.ok (), { s with session := f s.session }) := rfl

@[simp] theorem run_now (h : Host σ) : (now h : Engine σ ε Timestamp).run s =
    (.ok (h.now s.world.devices), s) := rfl

@[simp] theorem run_attempt (m : Engine σ ε α) :
    (attempt m).run s = (.ok (m.run s).1, (m.run s).2) := rfl

@[simp] theorem run_loadLibrary (segments : List String) :
    (loadLibrary segments : Engine σ ε Library).run s =
      ((s.registry.load s.world.files segments).1,
        { s with registry := (s.registry.load s.world.files segments).2 }) := rfl

@[simp] theorem run_prepare (cs : List Command) : (prepare cs : Engine σ ε Unit).run s =
    ((s.registry.prepare s.world.files cs).1.map fun _ => (),
      { s with registry := (s.registry.prepare s.world.files cs).2 }) := by
  change ((s.registry.prepare s.world.files cs).1.map _, _) = _
  rfl

theorem prepare_run_error {cs : List Command} {f : Fault} {g : Registry}
    (h : s.registry.prepare s.world.files cs = (.error f, g)) :
    (prepare cs : Engine σ ε Unit).run s = (.error f, { s with registry := g }) := by
  rw [run_prepare, h]
  rfl

theorem prepare_run_ok {cs : List Command} {ls : List Library} {g : Registry}
    (h : s.registry.prepare s.world.files cs = (.ok ls, g)) :
    (prepare cs : Engine σ ε Unit).run s = (.ok (), { s with registry := g }) := by
  rw [run_prepare, h]
  rfl

/-- All that loading the libraries of some commands can do in a run. -/
theorem prepare_run_cases (cs : List Command) (s : RunState σ ε) :
    (∃ f g, s.registry.prepare s.world.files cs = (.error f, g) ∧
      (prepare cs : Engine σ ε Unit).run s = (.error f, { s with registry := g })) ∨
    ∃ ls g, s.registry.prepare s.world.files cs = (.ok ls, g) ∧
      (prepare cs : Engine σ ε Unit).run s = (.ok (), { s with registry := g }) := by
  rcases h : s.registry.prepare s.world.files cs with ⟨f | ls, g⟩
  · exact Or.inl ⟨f, g, rfl, prepare_run_error h⟩
  · exact Or.inr ⟨ls, g, rfl, prepare_run_ok h⟩

end Engine

end TapScript
