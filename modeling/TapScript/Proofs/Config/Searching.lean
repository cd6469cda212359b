import Mathlib.Data.List.Induction
import TapScript.Config.Source
import TapScript.Proofs.Files.Overlong

/-! # Where settings files are found

The search for a settings file goes from a directory to the one above, and ends below the root of
the file system. It finds the nearest file: the first of the names that something stands under in
the nearest directory with any of them.
-/

namespace TapScript

open Outcome FileTree

theorem Location.upward_concat (l : Location) (name : String) :
    upward (l ++ [name]) = (l ++ [name]) :: upward l := by
  have hlen : (l ++ [name]).length = l.length + 1 := List.length_append
  rw [upward, hlen, List.range_succ_eq_map, List.map_cons, List.map_map, upward]
  congr 1
  · rw [Nat.sub_zero, ← hlen, List.take_length]
  · refine List.map_congr_left fun n _ => ?_
    rw [Function.comp_apply, Nat.succ_sub_succ, List.take_append_of_le_length (Nat.sub_le _ _)]

namespace Settings

variable {t : FileTree} {l above : Location} {name : String} {r r' : Except Mishap (Option Path)}

/-- The settings file of a name in a directory. -/
def fileIn (l : Location) (name : String) : Path :=
  l.toPath.join (.ofText name)

/-- The settings file of a directory or of the nearest one above it, by the location of the
directory. -/
def findFrom (t : FileTree) (l : Location) : Except Mishap (Option Path) :=
  firstPresent? t (l.upward.flatMap fun above => fileNames.map (fileIn above))

theorem find?_eq_findFrom (t : FileTree) (dir : Path) :
    find? t dir = findFrom t (Location.resolve (t.start dir) dir) := rfl

theorem firstPresent?_append (ps qs : List Path) :
    firstPresent? t (ps ++ qs) = firstPresent? t ps >>= fun found =>
      match found with
      | some p => .ok (some p)
      | none => firstPresent? t qs := by
  induction ps with
  | nil => rfl
  | cons p ps ih =>
    rw [List.cons_append, firstPresent?, firstPresent?, ih, bind_assoc]
    congr 1
    funext present
    cases present <;> rfl

/-- The search goes on above a directory that has no settings file. -/
theorem findFrom_concat : findFrom t (l ++ [name]) =
    firstPresent? t (fileNames.map (fileIn (l ++ [name]))) >>= fun found =>
      match found with
      | some p => .ok (some p)
      | none => findFrom t l := by
  rw [findFrom, Location.upward_concat, List.flatMap_cons, firstPresent?_append]
  rfl

/-- Whether nothing stands under any of some names in a directory. -/
def Lacks (t : FileTree) (l : Location) (names : List String) : Prop :=
  ∀ n ∈ names, t.exists? (fileIn l n) = .ok false

/-- Whether a name in a directory is looked for after others only under which nothing stands: those
before it in the same directory, and all names in the directories that are nearer. The root of the
file system is not looked at. -/
structure IsTried (t : FileTree) (l above : Location) (name : String) : Prop where
  chain : above <+: l
  belowRoot : above ≠ []
  names : ∃ before after, fileNames = before ++ name :: after ∧ Lacks t above before
  nearer : ∀ m, above <+: m → m <+: l → m ≠ above → Lacks t m fileNames

/-- How the search for a settings file from a location upward ends. -/
inductive Searched (t : FileTree) (l : Location) : Except Mishap (Option Path) → Prop
  | found {above : Location} {name : String} (tried : IsTried t l above name)
      (there : t.exists? (fileIn above name) = .ok true) :
      Searched t l (.ok (some (fileIn above name)))
  | nowhere (lacks : ∀ above, above <+: l → above ≠ [] → Lacks t above fileNames) :
      Searched t l (.ok none)
  | refused {above : Location} {name : String} (tried : IsTried t l above name)
      (overlong : t.IsOverlong (fileIn above name)) :
      Searched t l (.error (.file ⟨.nameTooLong, (fileIn above name).text⟩))

/-- The first of some names under which something stands is found, unless looking is refused. -/
theorem firstPresent?_cases (l : Location) (names : List String) :
    (Lacks t l names ∧ firstPresent? t (names.map (fileIn l)) = .ok none) ∨
    ∃ before name after, names = before ++ name :: after ∧ Lacks t l before ∧
      (t.exists? (fileIn l name) = .ok true ∧
          firstPresent? t (names.map (fileIn l)) = .ok (some (fileIn l name)) ∨
        t.IsOverlong (fileIn l name) ∧ firstPresent? t (names.map (fileIn l)) =
          .error (.file ⟨.nameTooLong, (fileIn l name).text⟩)) := by
  induction names with
  | nil => exact .inl ⟨nofun, rfl⟩
  | cons n names ih =>
    rw [List.map_cons, firstPresent?]
    cases hn : t.exists? (fileIn l n) with
    | error e =>
      obtain ⟨hlong, rfl⟩ := probe_eq_error_iff.mp hn
      exact .inr ⟨[], n, names, rfl, nofun, .inr ⟨hlong, rfl⟩⟩
    | ok present =>
      cases present with
      | true => exact .inr ⟨[], n, names, rfl, nofun, .inl ⟨hn, rfl⟩⟩
      | false =>
        rcases ih with ⟨hlacks, hnone⟩ | ⟨before, name, after, rfl, hlacks, hr⟩
        · exact .inl ⟨List.forall_mem_cons.mpr ⟨hn, hlacks⟩, hnone⟩
        · exact .inr ⟨n :: before, name, after, rfl, List.forall_mem_cons.mpr ⟨hn, hlacks⟩, hr⟩

theorem IsTried.concat (h : IsTried t l above name) {n : String}
    (hl : Lacks t (l ++ [n]) fileNames) : IsTried t (l ++ [n]) above name where
  chain := h.chain.trans (List.prefix_append _ _)
  belowRoot := h.belowRoot
  names := h.names
  nearer m ha hm hne := by
    rcases List.prefix_concat_iff.mp hm with rfl | hm
    · exact hl
    · exact h.nearer m ha hm hne

/-- What the search above a directory comes to, the search from it does, if it has no settings
file itself. -/
theorem Searched.concat (h : Searched t l r) {n : String} (hl : Lacks t (l ++ [n]) fileNames) :
    Searched t (l ++ [n]) r := by
  cases h with
  | found tried there => exact .found (tried.concat hl) there
  | refused tried overlong => exact .refused (tried.concat hl) overlong
  | nowhere lacks =>
    refine .nowhere fun above ha hne => ?_
    rcases List.prefix_concat_iff.mp ha with rfl | ha
    · exact hl
    · exact lacks above ha hne

theorem searched (t : FileTree) (l : Location) : Searched t l (findFrom t l) := by
  induction l using List.reverseRecOn with
  | nil => exact .nowhere fun above ha hne => absurd (List.prefix_nil.mp ha) hne
  | append_singleton l n ih =>
    rw [findFrom_concat]
    rcases firstPresent?_cases (t := t) (l ++ [n]) fileNames with
      ⟨hlacks, hnone⟩ | ⟨before, name, after, hnames, hlacks, hr⟩
    · rw [hnone]
      exact ih.concat hlacks
    · have htried : IsTried t (l ++ [n]) (l ++ [n]) name := by
        refine ⟨List.prefix_refl _, by simp, ⟨before, after, hnames, hlacks⟩, fun m ha hm hne => ?_⟩
        exact absurd (hm.eq_of_length_le ha.length_le) hne
      rcases hr with ⟨hthere, hr⟩ | ⟨hlong, hr⟩
      · rw [hr]
        exact .found htried hthere
      · rw [hr]
        exact .refused htried hlong

theorem IsTried.mem (h : IsTried t l above name) : name ∈ fileNames := by
  obtain ⟨before, after, hnames, -⟩ := h.names
  simp [hnames]

/-- Of two names in two directories that are tried, one is tried first. -/
theorem IsTried.unique {above' : Location} {name' : String}
    (h : IsTried t l above name) (h' : IsTried t l above' name')
    (hx : t.exists? (fileIn above name) ≠ .ok false)
    (hx' : t.exists? (fileIn above' name') ≠ .ok false) : above = above' ∧ name = name' := by
  have habove : above = above' := by
    -- Both are on the way up, so one of them is nearer and nothing stands in it.
    by_contra hne
    rcases List.prefix_or_prefix_of_prefix h.chain h'.chain with hp | hp
    · exact hx' (h.nearer above' hp h'.chain (Ne.symm hne) name' h'.mem)
    · exact hx (h'.nearer above hp h.chain hne name h.mem)
  subst habove
  refine ⟨rfl, ?_⟩
  obtain ⟨before, after, hnames, hlacks⟩ := h.names
  obtain ⟨before', after', hnames', hlacks'⟩ := h'.names
  rcases List.append_eq_append_iff.mp (hnames.symm.trans hnames') with
    ⟨more, rfl, hmore⟩ | ⟨more, rfl, hmore⟩
  · cases more with
    | nil => exact (List.cons.inj hmore).1
    | cons n more =>
      obtain rfl : name = n := (List.cons.inj hmore).1
      exact absurd (hlacks' name (by simp)) hx
  · cases more with
    | nil => exact (List.cons.inj hmore).1.symm
    | cons n more =>
      obtain rfl : name' = n := (List.cons.inj hmore).1
      exact absurd (hlacks name' (by simp)) hx'

/-- What a search finds is what looking for one name in one directory answers, unless nothing stands
under any name in any directory. -/
theorem Searched.ends (h : Searched t l r) :
    (r = .ok none ∧ ∀ above, above <+: l → above ≠ [] → Lacks t above fileNames) ∨
    ∃ above name, IsTried t l above name ∧ t.exists? (fileIn above name) ≠ .ok false ∧
      r = ((t.exists? (fileIn above name)).mapError Mishap.file).map
        fun _ => some (fileIn above name) := by
  cases h with
  | nowhere lacks => exact .inl ⟨rfl, lacks⟩
  | @found above name tried there =>
    refine .inr ⟨above, name, tried, ?_, ?_⟩ <;> rw [there]
    · nofun
    · rfl
  | @refused above name tried overlong =>
    have hx : t.exists? (fileIn above name) = .error _ := probe_eq_error_iff.mpr ⟨overlong, rfl⟩
    refine .inr ⟨above, name, tried, ?_, ?_⟩ <;> rw [hx]
    · nofun
    · rfl

theorem Searched.unique (h : Searched t l r) (h' : Searched t l r') : r = r' := by
  rcases h.ends with ⟨hr, hlacks⟩ | ⟨above, name, htried, hx, hr⟩ <;>
    rcases h'.ends with ⟨hr', hlacks'⟩ | ⟨above', name', htried', hx', hr'⟩
  · exact hr.trans hr'.symm
  · exact absurd (hlacks _ htried'.chain htried'.belowRoot _ htried'.mem) hx'
  · exact absurd (hlacks' _ htried.chain htried.belowRoot _ htried.mem) hx
  · obtain ⟨rfl, rfl⟩ := htried.unique htried' hx hx'
    exact hr.trans hr'.symm

/-- A settings file is found for a directory if there is one in it or above it: the first of the
names in the nearest directory that has any, the root of the file system apart. A path that is too
long to be looked for ends the search. -/
theorem find_nearest (t : FileTree) (dir : Path) (r : Except Mishap (Option Path)) :
    find? t dir = r ↔ Searched t (Location.resolve (t.start dir) dir) r := by
  rw [find?_eq_findFrom]
  constructor
  · rintro rfl
    exact searched t _
  · exact fun h => (searched t _).unique h

end Settings

namespace Simulation

open Settings

/-- A file system with a settings file in its root, and a directory. -/
def settingsAtRoot : FileTree :=
  ⟨[(["mts.yaml"], .file (.bytes [])), (["w"], .dir)], ["w"], []⟩

/-- A settings file in the root of the file system is not found, from there or from below. -/
theorem find_none_at_root : settingsAtRoot.exists? "/mts.yaml" = .ok true ∧
    "mts.yaml" ∈ fileNames ∧ find? settingsAtRoot "/" = .ok none ∧
      find? settingsAtRoot "/w" = .ok none := by
  refine ⟨by decide, by decide, rfl, rfl⟩

end Simulation

end TapScript
