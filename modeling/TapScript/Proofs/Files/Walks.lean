import TapScript.Config.Source
import TapScript.Proofs.Outcome

/-! # Walks along paths

A path names a location by its names alone, whether or not it can be walked. A walk along it goes
through directories only, up to its end, and ends at that location.
-/

namespace TapScript

open Outcome

namespace Location

variable {l start : Location} {anchor : Anchor} {names names' : List String}

theorem resolve_append : resolve start ⟨anchor, names ++ names'⟩ =
    resolve (resolve start ⟨anchor, names⟩) ⟨anchor, names'⟩ :=
  List.foldl_append

theorem resolve_of_not_mem (h : ".." ∉ names) :
    resolve start ⟨anchor, names⟩ = start ++ names := by
  induction names generalizing start with
  | nil => exact (List.append_nil start).symm
  | cons name names ih =>
    obtain ⟨hname, hnames⟩ := not_or.mp fun hm => h (List.mem_cons.mpr hm)
    have hstep : resolve start ⟨anchor, name :: names⟩ =
        resolve (if name = ".." then start.dropLast else start ++ [name]) ⟨anchor, names⟩ := rfl
    rw [hstep, if_neg (Ne.symm hname), ih hnames, List.append_assoc, List.singleton_append]

end Location

namespace FileTree

variable {t : FileTree} {p : Path} {l : Location}

/-- The location that a path names, whether or not it can be walked. -/
def place (t : FileTree) (p : Path) : Location :=
  Location.resolve (t.start p) p

theorem step_eq {name : String} {l₁ l₂ : Location} (h : t.step l₁ name = .ok l₂) :
    t.entryAt? l₁ = some .dir ∧ l₂ = if name = ".." then l₁.dropLast else l₁ ++ [name] := by
  unfold step at h
  split at h
  · cases h
  · cases h
  · next hd =>
    refine ⟨hd, ?_⟩
    split at h
    · next hn => cases h; rw [if_pos hn]
    · next hn =>
      split at h <;> cases h
      rw [if_neg hn]

theorem step_down {name : String} (hd : t.entryAt? l = some .dir) (hn : name ≠ "..") :
    t.step l name = .ok (l ++ [name]) ∨ t.step l name = .error .nameTooLong := by
  simp only [step, hd, if_neg hn]
  split
  · exact .inr rfl
  · exact .inl rfl

theorem resolve_of_walk {names : List String} {start : Location} (anchor : Anchor)
    (h : names.foldlM t.step start = .ok l) : l = Location.resolve start ⟨anchor, names⟩ := by
  induction names generalizing start with
  | nil => exact (Except.ok.inj h).symm
  | cons name names ih =>
    rw [List.foldlM_cons] at h
    obtain ⟨l₁, h₁, h⟩ := bind_eq_ok.mp h
    rw [ih h, (step_eq h₁).2]
    rfl

theorem walk_of_reach (h : t.reach p = .ok l) : p.parts.foldlM t.step (t.start p) = .ok l := by
  unfold reach at h
  split at h
  · cases h
  · exact h

/-- A path leads to the location that it names, if it can be walked. -/
theorem place_of_reach (h : t.reach p = .ok l) : t.place p = l :=
  (resolve_of_walk p.anchor (walk_of_reach h)).symm

/-- A path that can be walked passes through directories only, up to its end. -/
theorem passed_of_reach {before after : List String} (h : t.reach p = .ok l)
    (hp : p.parts = before ++ after) (ha : after ≠ []) :
    t.entryAt? (Location.resolve (t.start p) ⟨p.anchor, before⟩) = some .dir := by
  have hwalk := walk_of_reach h
  obtain ⟨name, after, rfl⟩ := List.exists_cons_of_ne_nil ha
  rw [hp, List.foldlM_append] at hwalk
  obtain ⟨l₁, h₁, hwalk⟩ := bind_eq_ok.mp hwalk
  rw [List.foldlM_cons] at hwalk
  obtain ⟨l₂, h₂, -⟩ := bind_eq_ok.mp hwalk
  rw [← resolve_of_walk p.anchor h₁]
  exact (step_eq h₂).1

end FileTree

end TapScript
