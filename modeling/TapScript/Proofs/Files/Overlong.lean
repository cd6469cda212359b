import TapScript.FileTree
import TapScript.Proofs.Outcome

/-! # Paths that are too long

Looking for a path ends with an answer, whether something is there or not, except when the path is
too long as a whole, or when its names lead to a directory and go on with a name that no directory
can hold.
-/

namespace TapScript

open Outcome

namespace FileTree

variable {t : FileTree} {p : Path} {l : Location} {name : String} {test : Entry → Bool}
  {e : FileError}

/-- Whether a path is too long to be looked for. A null character in a path keeps it from being
looked for at all. -/
structure IsOverlong (t : FileTree) (p : Path) : Prop where
  written : '\x00' ∉ p.text.toList
  long : longestPath < p.text.utf8ByteSize ∨
    ∃ before name after l, p.parts = before ++ name :: after ∧
      before.foldlM t.step (t.start p) = .ok l ∧ t.entryAt? l = some .dir ∧
      longestName < name.utf8ByteSize

theorem step_eq_nameTooLong : t.step l name = .error .nameTooLong ↔
    t.entryAt? l = some .dir ∧ longestName < name.utf8ByteSize := by
  unfold step
  by_cases hname : name = ".."
  · subst hname
    have hsize : ¬ longestName < "..".utf8ByteSize := by decide
    split <;> simp_all
  · split <;> simp_all

theorem reach_eq_nameTooLong : t.reach p = .error .nameTooLong ↔
    longestPath < p.text.utf8ByteSize ∨
      ∃ before name after l, p.parts = before ++ name :: after ∧
        before.foldlM t.step (t.start p) = .ok l ∧ t.entryAt? l = some .dir ∧
        longestName < name.utf8ByteSize := by
  unfold reach
  split
  · next h => exact iff_of_true rfl (.inl h)
  · next h => simp only [h, false_or, foldlM_eq_error, step_eq_nameTooLong]

theorem status_eq_nameTooLong :
    t.status p = .error .nameTooLong ↔ t.reach p = .error .nameTooLong := by
  unfold status
  rw [bind_eq_error]
  refine or_iff_left ?_
  rintro ⟨l, -, h⟩
  split at h <;> cases h

/-- Looking for a path is refused exactly when the path is too long. -/
theorem probe_eq_error_iff :
    t.probe p test = .error e ↔ t.IsOverlong p ∧ e = ⟨.nameTooLong, p.text⟩ := by
  unfold probe
  by_cases hp : '\x00' ∈ p.text.toList
  · rw [if_pos (List.contains_iff_mem.mpr hp)]
    exact iff_of_false nofun fun h => h.1.written hp
  rw [if_neg fun h => hp (List.contains_iff_mem.mp h)]
  have hoverlong : t.IsOverlong p ↔ t.status p = .error .nameTooLong := by
    rw [status_eq_nameTooLong, reach_eq_nameTooLong]
    exact ⟨fun h => h.long, fun h => ⟨hp, h⟩⟩
  rw [hoverlong]
  cases t.status p with
  | ok entry => simp
  | error cause => cases cause <;> simp [eq_comm]

end FileTree

end TapScript
