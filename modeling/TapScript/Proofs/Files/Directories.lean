import Mathlib.Data.List.Induction
import TapScript.Proofs.Library.Showing

/-! # Making and removing directories

Making a directory adds directories at locations that its path passes through and changes nothing
else; removing one takes away what stands at or below its location and nothing else.
-/

namespace TapScript

open Outcome

/-- Whether a path that starts at a location passes through another one, its end included. -/
def Path.PassesThrough (start : Location) (p : Path) (l : Location) : Prop :=
  ∃ names, names <+: p.parts ∧ l = Location.resolve start ⟨p.anchor, names⟩

namespace FileTree

variable {t t' t₁ : FileTree} {p : Path} {l m : Location}

/-! ### Trees in which every entry stands in a directory -/

/-- Whether every entry of a tree stands in a directory, and the working directory is one. -/
structure IsRooted (t : FileTree) : Prop where
  here : t.entryAt? t.here = some .dir
  above : ∀ e ∈ t.entries, t.entryAt? e.1.dropLast = some .dir

theorem IsRooted.dir_dropLast (ht : t.IsRooted) {e : Entry} (h : t.entryAt? l = some e) :
    t.entryAt? l.dropLast = some .dir := by
  by_cases hl : l = []
  · subst hl; rfl
  · exact ht.above _ (mem_entries_of_entryAt? hl h)

/-- All that stands above an entry are directories. -/
theorem IsRooted.dir_above (ht : t.IsRooted) {names : List String} {e : Entry}
    (hn : names ≠ []) (h : t.entryAt? (l ++ names) = some e) : t.entryAt? l = some .dir := by
  induction names using List.reverseRecOn generalizing e with
  | nil => exact absurd rfl hn
  | append_singleton names name ih =>
    have hd := ht.dir_dropLast h
    rw [← List.append_assoc, List.dropLast_concat] at hd
    by_cases hnames : names = []
    · rwa [hnames, List.append_nil] at hd
    · exact ih hnames hd

theorem IsRooted.nothing_below (ht : t.IsRooted) {names : List String} (hn : names ≠ [])
    (h : t.entryAt? l ≠ some .dir) : t.entryAt? (l ++ names) = none := by
  cases he : t.entryAt? (l ++ names) with
  | none => rfl
  | some e => exact absurd (ht.dir_above hn he) h

theorem below_eq_nil (h : ∀ names, names ≠ [] → t.entryAt? (l ++ names) = none) :
    t.below l = [] := by
  rw [List.eq_nil_iff_forall_not_mem]
  rintro ⟨names, e⟩ hm
  obtain ⟨hn, hm⟩ := mem_below_iff.mp hm
  have hnone := h names hn
  rw [entryAt?, if_neg (by simp [hn]), List.lookup_eq_none_iff] at hnone
  simpa using hnone _ hm

/-! ### Making directories -/

/-- Whether a tree is another one with more directories, at locations that pass a test. -/
structure Grows (P : Location → Prop) (t t' : FileTree) : Prop where
  here : t'.here = t.here
  homes : t'.homes = t.homes
  entry : ∀ l, t'.entryAt? l = t.entryAt? l ∨
    P l ∧ t.entryAt? l = none ∧ t'.entryAt? l = some .dir

namespace Grows

variable {P Q : Location → Prop}

theorem refl (t : FileTree) : Grows P t t :=
  ⟨rfl, rfl, fun _ => .inl rfl⟩

theorem mono (h : Grows P t t') (hpq : ∀ l, P l → Q l) : Grows Q t t' where
  here := h.here
  homes := h.homes
  entry l := (h.entry l).imp id fun ⟨hl, hr⟩ => ⟨hpq l hl, hr⟩

theorem trans (h : Grows P t t₁) (h' : Grows P t₁ t') : Grows P t t' where
  here := h'.here.trans h.here
  homes := h'.homes.trans h.homes
  entry l := by
    rcases h'.entry l with he' | ⟨hl, hn, hd⟩
    · rw [he']
      exact h.entry l
    · rcases h.entry l with he | ⟨-, -, hd'⟩
      · exact .inr ⟨hl, he ▸ hn, hd⟩
      · cases hn.symm.trans hd'

theorem start_eq (h : Grows P t t') (p : Path) : t'.start p = t.start p := by
  unfold start
  rw [h.here]

end Grows

theorem grows_put (hl : l ≠ []) (h : t.entryAt? l = none) : Grows (· = l) t (t.put l .dir) where
  here := rfl
  homes := rfl
  entry m := by
    by_cases hm : m = l
    · subst hm
      exact .inr ⟨rfl, h, entryAt?_put_self hl⟩
    · exact .inl (entryAt?_put_of_ne hm)

theorem grows_of_ensureDir (h : t.ensureDir p = .ok t') :
    Grows (Path.PassesThrough (t.start p) p) t t' := by
  unfold ensureDir at h
  cases hm : t.makeDir p with
  | ok t₁ =>
    rw [hm] at h
    cases h
    obtain ⟨l, hr, hn, rfl⟩ := put_of_makeDir hm
    have hd : t.entryAt? l ≠ some .dir := by simp [hn]
    refine (grows_put (ne_nil_of_entryAt? hd) hn).mono ?_
    rintro m rfl
    exact ⟨p.parts, List.prefix_refl _, (place_of_reach hr).symm⟩
  | error e =>
    rw [hm] at h
    dsimp only at h
    split at h
    · cases h
    · obtain ⟨b, -, h⟩ := bind_eq_ok.mp h
      cases b <;> cases h
      exact .refl t

theorem grows_of_ensureDirsAbove {anchor : Anchor} {names : List String}
    (h : t.ensureDirsAbove anchor names = .ok t') :
    Grows (Path.PassesThrough (t.start ⟨anchor, names.reverse⟩) ⟨anchor, names.reverse⟩) t t' := by
  induction names generalizing t t' with
  | nil => exact grows_of_ensureDir h
  | cons name above ih =>
    rw [ensureDirsAbove] at h
    split at h
    · next h' => cases h; exact grows_of_ensureDir h'
    · split at h
      · obtain ⟨t₁, habove, h⟩ := bind_eq_ok.mp h
        have hgrows := ih habove
        refine (hgrows.mono ?_).trans (hgrows.start_eq _ ▸ grows_of_ensureDir h)
        rintro l ⟨names, hn, rfl⟩
        refine ⟨names, hn.trans ?_, rfl⟩
        rw [List.reverse_cons]
        exact List.prefix_append _ _
      · cases h

/-- Making a directory with those above it adds directories only where its path passes. -/
theorem grows_of_ensureDirs (h : t.ensureDirs p = .ok t') :
    Grows (Path.PassesThrough (t.start p) p) t t' := by
  unfold ensureDirs at h
  split at h
  · cases h
  · have hgrows := grows_of_ensureDirsAbove (mapError_eq_ok.mp h)
    rwa [List.reverse_reverse] at hgrows

theorem isDir_of_ensureDirs (h : t.ensureDirs p = .ok t') : t'.isDir p = .ok true := by
  unfold ensureDirs at h
  split at h
  · cases h
  · next hp =>
    obtain ⟨t₀, h₀⟩ := ensureDir_of_ensureDirsAbove (mapError_eq_ok.mp h)
    rw [List.reverse_reverse] at h₀
    exact isDir_of_ensureDir (fun hc => hp (List.contains_iff_mem.mpr hc)) h₀

/-! ### Removing directories -/

theorem entryAt?_dropWhere (test : Location → Bool) (h : test [] = false) :
    (t.dropWhere test).entryAt? l = if test l then none else t.entryAt? l := by
  unfold entryAt? dropWhere
  by_cases hl : l = []
  · simp [hl, h]
  · simp only [if_neg hl, lookup_filter_not]

theorem prefix_iff_isBelow : l <+: m ↔ m = l ∨ isBelow l m = true := by
  rw [isBelow, Bool.and_eq_true, List.isPrefixOf_iff_prefix, bne_iff_ne]
  by_cases h : m = l
  · simp [h]
  · simp [h, Ne.symm h]

/-- How a directory comes to be removed: its path is walked before and after what lies below. -/
theorem dropWhere_of_removeTree (h : t.removeTree p = (.ok (), t')) : p.name ≠ ".." ∧
    ∃ l, l ≠ [] ∧ t.reach p = .ok l ∧ (t.dropWhere (isBelow l)).reach p = .ok l ∧
      t' = (t.dropWhere (isBelow l)).dropWhere (· == l) := by
  unfold removeTree at h
  dsimp only at h
  split at h
  · cases h
  · next l hl =>
    split at h
    · cases h
    · cases h
    · split at h
      · cases h
      · cases h
      · next name l' hname hl' =>
        split at h
        · cases h
        · next hdots =>
          have hsame : (t.dropWhere (isBelow l)).place p = t.place p := rfl
          obtain rfl : l = l' := by
            rw [← place_of_reach hl, ← place_of_reach hl', hsame]
          obtain ⟨init, hparts⟩ := List.getLast?_eq_some_iff.mp hname
          refine ⟨?_, l, ?_, hl, hl', (Prod.mk.inj h).2.symm⟩
          · rwa [Path.name, hparts, List.getLastD_concat]
          rw [← place_of_reach hl, place]
          obtain ⟨anchor, parts⟩ := p
          obtain rfl : parts = init ++ [name] := hparts
          rw [Location.resolve_append, Location.resolve_of_not_mem (by simpa using Ne.symm hdots)]
          simp

/-- What comes of removing a directory: what stands at or below the location of its path is gone,
and nothing else is. The path passed through no location below that. -/
structure Removed (p : Path) (t t' : FileTree) : Prop where
  name : p.name ≠ ".."
  here : t'.here = t.here
  homes : t'.homes = t.homes
  entry : ∀ l, t'.entryAt? l = if t.place p <+: l then none else t.entryAt? l
  passed : ∀ l, Path.PassesThrough (t.start p) p l → isBelow (t.place p) l = false

theorem removed_of_removeTree (h : t.removeTree p = (.ok (), t')) : Removed p t t' := by
  obtain ⟨hname, l, hl, hr, hr', rfl⟩ := dropWhere_of_removeTree h
  have hplace : t.place p = l := place_of_reach hr
  have hemptied : ∀ m, (t.dropWhere (isBelow l)).entryAt? m =
      if isBelow l m then none else t.entryAt? m := fun m =>
    entryAt?_dropWhere _ (by simp [isBelow])
  refine ⟨hname, rfl, rfl, fun m => ?_, ?_⟩
  · have hnil : ([] == l) = false := beq_false_of_ne hl.symm
    rw [entryAt?_dropWhere (· == l) hnil, hemptied, hplace]
    simp only [prefix_iff_isBelow, beq_iff_eq]
    by_cases hm : m = l <;> simp [hm]
  · rintro m ⟨names, ⟨rest, hrest⟩, rfl⟩
    rw [hplace]
    by_cases hn : rest = []
    · rw [hn, List.append_nil] at hrest
      rw [hrest, ← hplace]
      simp [isBelow, place]
    · -- The second walk goes through directories that are still there.
      have hd := passed_of_reach hr' hrest.symm hn
      rw [hemptied] at hd
      split at hd
      · cases hd
      · next hb => exact Bool.not_eq_true _ ▸ hb

end FileTree

end TapScript
