import TapScript.Proofs.Config.Merging

/-! # Readings that gather issues

A reading adds to the issues that there are, and what it makes does not depend on them. So it can
be said of each when it adds none: a reading after another adds none if neither does.
-/

namespace TapScript

/-- What a setting is read as from what its place holds, if that is anything. -/
def Field.Reads {α : Type} (f : Field α) (default : α) (v? : Option Value) (a : α) : Prop :=
  match v? with
  | none => a = default
  | some v => f v = .ok a

@[simp]
theorem Field.reads_none {α : Type} {f : Field α} {default a : α} :
    f.Reads default none a ↔ a = default := Iff.rfl

@[simp]
theorem Field.reads_some {α : Type} {f : Field α} {default a : α} {v : Value} :
    f.Reads default (some v) a ↔ f v = .ok a := Iff.rfl

namespace Reader

variable {α β : Type} {r : Reader α} {k : α → Reader β} {S : α → Prop} {T : α → β → Prop}

/-- A reading that adds to the issues, and adds none if and only if it makes what has a
property. -/
structure Decides (r : Reader α) (S : α → Prop) : Prop where
  adds : ∃ a more, ∀ issues, r.run issues = (a, issues ++ more)
  quiet : ∀ a, r.run [] = (a, []) ↔ S a

theorem Decides.bind (hr : Decides r S) (hk : ∀ a, Decides (k a) (T a)) :
    Decides (r >>= k) fun b => ∃ a, S a ∧ T a b := by
  obtain ⟨a, more, ha⟩ := hr.adds
  obtain ⟨b, more', hb⟩ := (hk a).adds
  have hrun : ∀ issues, (r >>= k).run issues = (b, issues ++ (more ++ more')) := by
    intro issues
    rw [StateT.run_bind, ha]
    change (k a).run (issues ++ more) = _
    rw [hb, List.append_assoc]
  refine ⟨⟨b, more ++ more', hrun⟩, fun b' => ?_⟩
  rw [hrun, List.nil_append]
  constructor
  · intro h
    obtain ⟨rfl, hn⟩ := Prod.mk.inj h
    obtain ⟨rfl, rfl⟩ := List.append_eq_nil_iff.mp hn
    exact ⟨a, (hr.quiet a).mp (ha []), ((hk a).quiet b).mp (hb [])⟩
  · rintro ⟨a', hS, hT⟩
    obtain ⟨rfl, rfl⟩ := Prod.mk.inj ((ha []).symm.trans ((hr.quiet a').mpr hS))
    exact (hb []).symm.trans (((hk a).quiet b').mpr hT)

/-- A reading that makes one thing and adds the same issues every time. -/
theorem Decides.of_run (a : α) (more : List Issue)
    (h : ∀ issues, r.run issues = (a, issues ++ more)) (hS : ∀ a', S a' ↔ more = [] ∧ a = a') :
    Decides r S := by
  refine ⟨⟨a, more, h⟩, fun a' => ?_⟩
  rw [h, hS, List.nil_append]
  exact ⟨fun h => (Prod.mk.inj h).symm, fun ⟨hm, ha⟩ => by rw [hm, ha]⟩

theorem Decides.pure {a : α} : Decides (Pure.pure a : Reader α) (· = a) :=
  .of_run a [] (fun issues => by rw [List.append_nil]; rfl) fun a' => by simp [eq_comm]

theorem Decides.setting (es : Entries) (key : String) (default : α) (f : Field α) :
    Decides (Reader.setting es key default f)
      (f.Reads default (Value.under? es (.text key))) := by
  unfold Reader.setting
  cases Value.under? es (.text key) with
  | none => exact .pure
  | some v =>
    dsimp only
    cases hv : f v with
    | ok a =>
      refine .of_run a [] (fun issues => by rw [List.append_nil]; rfl) fun a' => ?_
      simp [hv]
    | error rule =>
      exact .of_run default [⟨[key], rule⟩] (fun _ => rfl) fun a' => by simp [hv]

theorem Decides.group {es : Entries} {key : String} {default : α} {r : Entries → Reader α}
    {S : Entries → α → Prop} (hr : ∀ fs, Decides (r fs) (S fs)) (hd : S [] default) :
    Decides (Reader.group es key default r)
      fun a => ∃ fs, Value.sectionOf? es key = some fs ∧ S fs a := by
  unfold Reader.group Value.sectionOf? Value.entries?
  cases Value.under? es (.text key) with
  | none =>
    refine .of_run default [] (fun issues => by rw [List.append_nil]; rfl) fun a' => ?_
    have hrun := ((hr []).quiet default).mpr hd
    suffices S [] a' ↔ default = a' by simpa
    rw [← (hr []).quiet, hrun]
    exact ⟨fun h => (Prod.mk.inj h).1, fun h => by rw [h]⟩
  | some v =>
    cases v with
    | map b fs =>
      obtain ⟨a, more, ha⟩ := (hr fs).adds
      refine .of_run a (more.map (Issue.under key)) (fun issues => ?_) fun a' => ?_
      · dsimp only
        rw [ha]
        rfl
      · suffices S fs a' ↔ more = [] ∧ a = a' by simpa
        rw [← (hr fs).quiet, ha]
        exact ⟨fun h => (Prod.mk.inj h).symm, fun ⟨hm, ha⟩ => by rw [hm, ha]; rfl⟩
    | _ => exact .of_run default [⟨[key], .modelType⟩] (fun _ => rfl) fun a' => by simp

theorem Decides.congr {S' : α → Prop} (h : Decides r S) (hS : ∀ a, S a ↔ S' a) :
    Decides r S' :=
  ⟨h.adds, fun a => (h.quiet a).trans (hS a)⟩

theorem Decides.result_eq_ok {a : α} (h : Decides r S) : r.result = .ok a ↔ S a := by
  obtain ⟨b, more, hb⟩ := h.adds
  unfold Reader.result
  rw [← h.quiet, hb]
  cases more with
  | nil => exact ⟨fun hr => by cases hr; rfl, fun hr => by cases hr; rfl⟩
  | cons e more => exact ⟨nofun, fun hr => nomatch (Prod.mk.inj hr).2⟩

end Reader

end TapScript
