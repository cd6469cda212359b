import TapScript.Proofs.Files.Directories
import TapScript.Run.Session

/-! # Output directories

The output directory of a script is made in a base directory and named after the script. What was
in it is removed first. Nothing else of the file system changes, but for directories that are made
on the way to it.
-/

namespace TapScript

open Outcome

namespace Path

variable {n : String}

/-- The two parts of a name give it back. -/
theorem splitName_append (n : String) : (splitName n).1 ++ (splitName n).2 = n := by
  unfold splitName
  dsimp only
  split
  · exact String.append_empty
  · next h =>
    have hsplit : n.toList.reverse.takeWhile (· != '.') ++ n.toList.reverse.dropWhile (· != '.') =
        n.toList.reverse := List.takeWhile_append_dropWhile
    cases hd : n.toList.reverse.dropWhile (· != '.') with
    | nil => simp [hd] at h
    | cons c cs =>
      have hc := List.head_dropWhile_not (p := (· != '.')) (l := n.toList.reverse) (by simp [hd])
      obtain rfl : c = '.' := by simpa [hd] using hc
      rw [hd] at hsplit
      have hrev := congrArg List.reverse hsplit
      apply String.toList_inj.mp
      simpa using hrev

theorem splitName_ne (h : n ≠ "") : (splitName n).1 ≠ "" := by
  unfold splitName
  dsimp only
  split
  · exact h
  · next h =>
    rw [Bool.or_eq_true, not_or] at h
    simpa using h.2

theorem mem_namesOf_iff {s : String} (h : n ∈ namesOf s) : n ≠ "" ∧ n ≠ "." ∧ '/' ∉ n.toList := by
  obtain ⟨hm, hn⟩ := List.mem_filter.mp h
  simp only [Bool.and_eq_true, bne_iff_ne] at hn
  exact ⟨hn.1, hn.2, Text.not_mem_of_mem_pieces hm⟩

/-- A text without slashes is the path of one name, but for the two that write none. -/
theorem ofText_of_name (hn : n ≠ "") (hd : n ≠ ".") (hs : '/' ∉ n.toList) :
    ofText n = ⟨.here, [n]⟩ := by
  have hroot : n.toList.takeWhile (· == '/') = [] := by
    rw [List.takeWhile_eq_nil_iff]
    intro hl
    have hmem : n.toList[0] ∈ n.toList := List.getElem_mem hl
    simp only [beq_iff_eq]
    rintro he
    exact hs (he ▸ hmem)
  simp [ofText, namesOf, Text.pieces, Text.splitOn_of_not_mem hs, hroot, hn, hd, Anchor.ofSlashes]

end Path

namespace FileTree

variable {t t' : FileTree} {p base dir : Path} {l : Location}

/-- Something that stands where a path can be walked to is not overlooked. -/
theorem exists?_ne_false {e : Entry} (hp : '\x00' ∉ p.text.toList)
    (hw : p.parts.foldlM t.step (t.start p) = .ok l ∨
      p.parts.foldlM t.step (t.start p) = .error .nameTooLong)
    (he : t.entryAt? l = some e) : t.exists? p ≠ .ok false := by
  have hreach : t.reach p = .ok l ∨ t.reach p = .error .nameTooLong := by
    unfold reach
    split
    · exact .inr rfl
    · exact hw
  unfold exists? probe status
  rw [if_neg fun hc => hp (List.contains_iff_mem.mp hc)]
  rcases hreach with hr | hr <;> rw [hr] <;> simp [bind, Except.bind, he]

/-- In a rooted tree a way down to an entry can be walked, if all its names can be held. -/
theorem IsRooted.walk_down (ht : t.IsRooted) {names : List String} {e : Entry}
    (hn : ".." ∉ names) (he : t.entryAt? (l ++ names) = some e) :
    names.foldlM t.step l = .ok (l ++ names) ∨ names.foldlM t.step l = .error .nameTooLong := by
  induction names generalizing l with
  | nil => exact .inl (by rw [List.append_nil]; rfl)
  | cons name names ih =>
    obtain ⟨hname, hnames⟩ := not_or.mp fun hm => hn (List.mem_cons.mpr hm)
    have hd : t.entryAt? l = some .dir := ht.dir_above (List.cons_ne_nil _ _) he
    rw [List.append_cons] at he ⊢
    rw [List.foldlM_cons]
    rcases step_down hd (Ne.symm hname) with hs | hs
    · rw [hs]
      exact ih hnames he
    · exact .inr (by rw [hs]; rfl)

/-- A file has a name, which is neither of the two that lead to directories. -/
theorem IsRooted.name_of_isFile (ht : t.IsRooted) (hp : t.isFile p = .ok true) :
    ∃ above, p.parts = above ++ [p.name] ∧ p.name ≠ ".." := by
  obtain ⟨-, l, c, hl, hc⟩ := entry_of_isFile hp
  have hwalk := walk_of_reach hl
  obtain hn | ⟨above, n, hparts⟩ := List.eq_nil_or_concat p.parts
  · rw [hn] at hwalk
    obtain rfl : t.start p = l := Except.ok.inj hwalk
    have hd : t.entryAt? (t.start p) = some .dir := by
      unfold start
      split
      · rfl
      · exact ht.here
    cases hd.symm.trans hc
  · rw [List.concat_eq_append] at hparts
    have hname : p.name = n := by rw [Path.name, hparts, List.getLastD_concat]
    rw [hname]
    refine ⟨above, hparts, ?_⟩
    rintro rfl
    rw [hparts, List.foldlM_append] at hwalk
    obtain ⟨m, -, hwalk⟩ := bind_eq_ok.mp hwalk
    rw [List.foldlM_cons] at hwalk
    obtain ⟨m', hm, hwalk⟩ := bind_eq_ok.mp hwalk
    obtain rfl : m' = l := Except.ok.inj hwalk
    obtain ⟨hd, rfl⟩ := step_eq hm
    rw [if_pos rfl, ht.dir_dropLast hd] at hc
    cases hc

/-- Whether the way of a path does not hang on directories that are yet to be made: it leads down
only, or to a directory that is there. -/
def IsFirm (t : FileTree) (p : Path) : Prop :=
  ".." ∉ p.parts ∨ t.isDir p = .ok true

theorem dir_of_passesThrough (h : t.isDir p = .ok true)
    (hp : p.PassesThrough (t.start p) l) : t.entryAt? l = some .dir := by
  obtain ⟨m, hm, hd⟩ := entry_of_isDir h
  obtain ⟨names, ⟨rest, hrest⟩, rfl⟩ := hp
  by_cases hn : rest = []
  · rw [hn, List.append_nil] at hrest
    rw [hrest]
    rwa [← place_of_reach hm] at hd
  · exact passed_of_reach hm hrest.symm hn

theorem passesThrough_concat {start : Location} {name : String} :
    Path.PassesThrough start ⟨p.anchor, p.parts ++ [name]⟩ l ↔
      p.PassesThrough start l ∨ l = Location.resolve start ⟨p.anchor, p.parts ++ [name]⟩ := by
  simp only [Path.PassesThrough, List.prefix_concat_iff]
  constructor
  · rintro ⟨names, rfl | hn, rfl⟩
    · exact .inr rfl
    · exact .inl ⟨names, hn, rfl⟩
  · rintro (⟨names, hn, rfl⟩ | rfl)
    · exact ⟨names, .inr hn, rfl⟩
    · exact ⟨_, .inl rfl, rfl⟩

/-- What is left of a file system when a directory is made in the place of what was there. -/
structure Remade (dir : Path) (t t' : FileTree) : Prop where
  here : t'.here = t.here
  homes : t'.homes = t.homes
  reach : t'.reach dir = .ok (t.place dir)
  present : t'.isDir dir = .ok true
  outside : ∀ l, ¬ t.place dir <+: l → t'.entryAt? l = t.entryAt? l ∨
    dir.PassesThrough (t.start dir) l ∧ t.entryAt? l = none ∧ t'.entryAt? l = some .dir
  removed : t.exists? dir = .ok true ∧ dir.name ≠ ".." ∧ t'.below (t.place dir) = [] ∨
    t.exists? dir = .ok false ∧ Grows (dir.PassesThrough (t.start dir)) t t'

theorem remade_of_kept (hx : t.exists? dir = .ok false) (h : t.ensureDirs dir = .ok t') :
    Remade dir t t' := by
  have hgrows := grows_of_ensureDirs h
  have hdir := isDir_of_ensureDirs h
  obtain ⟨l, hl, -⟩ := entry_of_isDir hdir
  refine ⟨hgrows.here, hgrows.homes, ?_, hdir, fun l _ => hgrows.entry l, .inr ⟨hx, hgrows⟩⟩
  rw [hl, ← place_of_reach hl, place, place, hgrows.start_eq]

theorem remade_of_removed {t₁ : FileTree} (hx : t.exists? dir = .ok true)
    (hr : Removed dir t t₁) (h : t₁.ensureDirs dir = .ok t') : Remade dir t t' := by
  have hgrows := grows_of_ensureDirs h
  have hdir := isDir_of_ensureDirs h
  obtain ⟨l, hl, -⟩ := entry_of_isDir hdir
  have hstart : t₁.start dir = t.start dir := by
    unfold start
    rw [hr.here]
  refine ⟨hgrows.here.trans hr.here, hgrows.homes.trans hr.homes, ?_, hdir, fun l hn => ?_,
    .inl ⟨hx, hr.name, below_eq_nil fun names hn => ?_⟩⟩
  · rw [hl, ← place_of_reach hl, place, place, hgrows.start_eq, hstart]
  · have he := hgrows.entry l
    rwa [hr.entry l, if_neg hn, hstart] at he
  · have hgone := hr.entry (t.place dir ++ names)
    rw [if_pos (List.prefix_append _ _)] at hgone
    rcases hgrows.entry (t.place dir ++ names) with he | ⟨hp, -, -⟩
    · rw [he, hgone]
    · rw [hstart] at hp
      cases (hr.passed _ hp).symm.trans (isBelow_append _ hn)

section Firm

variable (hb : t.IsFirm base)
  (hdir : dir = base ∨ ∃ name, name ≠ ".." ∧ dir = ⟨base.anchor, base.parts ++ [name]⟩)
include hb hdir

/-- The directories that are missing on a firm way stand above its end. -/
theorem IsFirm.prefix_place (hp : dir.PassesThrough (t.start dir) l) (hn : t.entryAt? l = none) :
    l <+: t.place dir := by
  rcases hb with hb | hb
  · have hdots : ".." ∉ dir.parts := by
      rcases hdir with rfl | ⟨name, hname, rfl⟩
      · exact hb
      · simpa [hb] using Ne.symm hname
    obtain ⟨names, ⟨rest, hrest⟩, rfl⟩ := hp
    have hnames : ".." ∉ names := fun hm => hdots (hrest ▸ List.mem_append_left _ hm)
    rw [place, Location.resolve_of_not_mem hnames, Location.resolve_of_not_mem hdots, ← hrest,
      ← List.append_assoc]
    exact List.prefix_append _ _
  · rcases hdir with rfl | ⟨name, hname, rfl⟩
    · cases hn.symm.trans (dir_of_passesThrough hb hp)
    · rcases passesThrough_concat.mp hp with hp | rfl
      · cases hn.symm.trans (dir_of_passesThrough hb hp)
      · exact List.prefix_refl _

/-- What stands at the end of a firm way is not overlooked. -/
theorem IsFirm.exists?_ne_false (ht : t.IsRooted) (hc : '\x00' ∉ dir.text.toList) {e : Entry}
    (he : t.entryAt? (t.place dir) = some e) : t.exists? dir ≠ .ok false := by
  refine FileTree.exists?_ne_false (l := t.place dir) hc ?_ he
  rcases hb with hb | hb
  · have hdots : ".." ∉ dir.parts := by
      rcases hdir with rfl | ⟨name, hname, rfl⟩
      · exact hb
      · simpa [hb] using Ne.symm hname
    rw [place, Location.resolve_of_not_mem hdots] at he ⊢
    exact ht.walk_down hdots he
  · obtain ⟨m, hm, hd⟩ := entry_of_isDir hb
    rcases hdir with rfl | ⟨name, hname, rfl⟩
    · exact .inl (by rw [place_of_reach hm, walk_of_reach hm])
    · have hwalk : base.parts.foldlM t.step (t.start base) = .ok m := walk_of_reach hm
      have hplace : t.place ⟨base.anchor, base.parts ++ [name]⟩ = m ++ [name] := by
        rw [place, Location.resolve_append, Location.resolve_of_not_mem (by simpa using hname.symm),
          ← place_of_reach hm]
        rfl
      rw [hplace, List.foldlM_append]
      refine (step_down hd hname).imp (fun hs => ?_) fun hs => ?_
      · exact bind_eq_ok.mpr ⟨m, hwalk, by rw [List.foldlM_cons, hs]; rfl⟩
      · exact bind_eq_error.mpr (.inr ⟨m, hwalk, by rw [List.foldlM_cons, hs]; rfl⟩)

/-- A directory that is made at the end of a firm way is empty, and nothing else changes. -/
theorem Remade.settled (ht : t.IsRooted) (h : Remade dir t t') :
    t'.below (t.place dir) = [] ∧ ∀ l, ¬ t.place dir <+: l → ¬ l <+: t.place dir →
      t'.entryAt? l = t.entryAt? l := by
  have hframe : ∀ l, dir.PassesThrough (t.start dir) l → t.entryAt? l = none →
      l <+: t.place dir := fun l => hb.prefix_place hdir
  refine ⟨?_, fun l hl hl' => ?_⟩
  · rcases h.removed with ⟨-, -, hempty⟩ | ⟨hx, hgrows⟩
    · exact hempty
    -- Nothing was seen at the end of the way, so in a rooted tree nothing is below it either.
    refine below_eq_nil fun names hn => ?_
    have hc : '\x00' ∉ dir.text.toList := (entry_of_probe h.present).1
    have hnone : t.entryAt? (t.place dir ++ names) = none := by
      refine ht.nothing_below hn fun hd => ?_
      exact hb.exists?_ne_false hdir ht hc hd hx
    rcases hgrows.entry (t.place dir ++ names) with he | ⟨hp, -, -⟩
    · rw [he, hnone]
    · have hlen := (hframe _ hp hnone).length_le
      rw [List.length_append] at hlen
      exact absurd (List.eq_nil_of_length_eq_zero (by omega)) hn
  · rcases h.outside l hl with he | ⟨hp, hn, -⟩
    · exact he
    · exact absurd (hframe l hp hn) hl'

end Firm

end FileTree

namespace Session

open FileTree

variable {t t' : FileTree} {base script : String} {dir : Path}

theorem remade_of_makeOutputDir {base script : Path}
    (h : makeOutputDir t base script = (.ok dir, t')) :
    dir = base.join (.ofText script.stem) ∧ Remade dir t t' := by
  unfold makeOutputDir at h
  generalize base.join (.ofText script.stem) = d at h ⊢
  cases hx : t.exists? d with
  | error e => simp only [hx] at h; cases h
  | ok present =>
    simp only [hx] at h
    cases present with
    | false =>
      simp only [Bool.false_eq_true, if_false] at h
      split at h
      · next t₂ he =>
        cases h
        exact ⟨rfl, remade_of_kept hx he⟩
      · cases h
    | true =>
      simp only [if_true] at h
      rcases hr : t.removeTree d with ⟨e | u, t₁⟩
      · simp only [hr] at h
        cases h
      · simp only [hr] at h
        split at h
        · next t₂ he =>
          cases h
          exact ⟨rfl, remade_of_removed hx (removed_of_removeTree hr) he⟩
        · cases h

/-- The directory in a base directory that is named after a script. -/
def dirFor (base script : Path) : Path :=
  base.join (.ofText script.stem)

/-- Whether the stem of a script can name a directory, as neither a single nor a double dot can. -/
def IsNaming (script : Path) : Prop :=
  script.stem ≠ "." ∧ script.stem ≠ ".."

theorem dirFor_eq {base : Path} (ht : t.IsRooted) (hs : t.isFile (.ofText script) = .ok true) :
    dirFor base (.ofText script) = if (Path.ofText script).stem = "." then base
      else ⟨base.anchor, base.parts ++ [(Path.ofText script).stem]⟩ := by
  obtain ⟨above, hparts, -⟩ := ht.name_of_isFile hs
  have hmem : (Path.ofText script).name ∈ Path.namesOf script := by
    have hp : Path.namesOf script = above ++ [(Path.ofText script).name] := hparts
    simp [hp]
  obtain ⟨hn, -, hslash⟩ := Path.mem_namesOf_iff hmem
  unfold dirFor
  generalize hst : (Path.ofText script).stem = stem
  have hstem : stem ≠ "" ∧ '/' ∉ stem.toList := by
    rw [← hst]
    refine ⟨Path.splitName_ne hn, fun hm => hslash ?_⟩
    rw [← Path.splitName_append (Path.ofText script).name, String.toList_append]
    exact List.mem_append_left _ hm
  split
  · next hdot =>
    have hdir : Path.ofText "." = ⟨.here, []⟩ := by decide
    rw [hdot, hdir]
    simp [Path.join, Path.isAbsolute]
  · next hdot =>
    rw [Path.ofText_of_name hstem.1 hdot hstem.2]
    simp [Path.join, Path.isAbsolute]

theorem place_dirFor {base : Path} (ht : t.IsRooted) (hs : t.isFile (.ofText script) = .ok true)
    (hn : IsNaming (.ofText script)) :
    t.place (dirFor base (.ofText script)) = t.place base ++ [(Path.ofText script).stem] := by
  rw [dirFor_eq ht hs, if_neg hn.1, place, Location.resolve_append,
    Location.resolve_of_not_mem (by simpa using hn.2.symm)]
  rfl

/-- How the output directory of a script stands to the rest of the file system. It is a new one in
the base directory, named after the script, and nothing is changed outside of it. The base itself
is the output directory of a script whose stem is a dot, and emptied; that of one whose stem are
two dots is the directory above the base, and only made where nothing is removed. What is at the
end of a way that is not firm is overlooked, and stays. -/
structure Confined (t t' : FileTree) (base script dir : Path) : Prop where
  remade : Remade dir t t'
  child : IsNaming script → dir.parent = base ∧ dir.name = script.stem
  dot : script.stem = "." → dir = base
  dots : script.stem = ".." → dir = ⟨base.anchor, base.parts ++ [".."]⟩ ∧
    Grows (dir.PassesThrough (t.start dir)) t t'
  empty : script.stem ≠ ".." → t.IsFirm base → t'.below (t.place dir) = []
  frame : script.stem ≠ ".." → t.IsFirm base → ∀ l, ¬ t.place dir <+: l → ¬ l <+: t.place dir →
    t'.entryAt? l = t.entryAt? l
  others : IsNaming script → t.IsFirm base → ∀ other, t.isFile (.ofText other) = .ok true →
    IsNaming (.ofText other) → (Path.ofText other).stem ≠ script.stem →
      ∀ l, t.place (dirFor base (.ofText other)) <+: l → t'.entryAt? l = t.entryAt? l

/-- Making the output directory of a script removes what was in it and nothing else. -/
theorem makeOutputDir_confined (ht : t.IsRooted) (hs : t.isFile (.ofText script) = .ok true)
    (h : makeOutputDir t (.ofText base) (.ofText script) = (.ok dir, t')) :
    Confined t t' (.ofText base) (.ofText script) dir := by
  obtain ⟨hdir, hremade⟩ := remade_of_makeOutputDir h
  have hfor := hdir.trans (dirFor_eq ht hs)
  generalize hst : (Path.ofText script).stem = stem at hfor
  have hway (hdots : stem ≠ "..") : dir = .ofText base ∨ ∃ name, name ≠ ".." ∧
      dir = ⟨(Path.ofText base).anchor, (Path.ofText base).parts ++ [name]⟩ := by
    split at hfor
    · exact .inl hfor
    · exact .inr ⟨stem, hdots, hfor⟩
  have hsettled (hdots : stem ≠ "..") (hfirm : t.IsFirm (.ofText base)) :=
    hremade.settled hfirm (hway hdots) ht
  refine ⟨hremade, fun hn => ?_, fun hdot => ?_, fun hdots => ?_, fun hdots hfirm => ?_,
    fun hdots hfirm => ?_, fun hn hfirm other ho hn' hne l hl => ?_⟩
  · rw [hfor, if_neg (hst ▸ hn.1), hst]
    simp [Path.parent, Path.name]
  · rw [hfor, if_pos (hst ▸ hdot)]
  · obtain rfl : stem = ".." := hst ▸ hdots
    rw [if_neg (by decide)] at hfor
    refine ⟨hfor, ?_⟩
    rcases hremade.removed with ⟨-, hname, -⟩ | ⟨-, hgrows⟩
    · exact absurd (by simp [hfor, Path.name]) hname
    · exact hgrows
  · exact (hsettled (hst ▸ hdots) hfirm).1
  · exact (hsettled (hst ▸ hdots) hfirm).2
  · have hplace : t.place dir = t.place (.ofText base) ++ [stem] := by
      rw [← hst, ← place_dirFor ht hs hn]
      exact congrArg t.place hdir
    rw [place_dirFor ht ho hn'] at hl
    have hother : ¬ t.place (.ofText base) ++ [(Path.ofText other).stem] <+: t.place dir := by
      rw [hplace, List.prefix_append_right_inj, List.singleton_prefix_cons_iff, ← hst]
      exact hne
    refine (hsettled (hst ▸ hn.2) hfirm).2 l (fun hd => hother ?_) fun hd => hother (hl.trans hd)
    refine List.prefix_of_prefix_length_le hl hd ?_
    rw [hplace]
    simp

end Session

namespace Simulation

open FileTree Session

/-- A working directory with two scripts and the results of earlier runs of both. -/
def results : FileTree :=
  ⟨[(["w"], .dir), (["w", "buy.mts"], .file (.bytes [])), (["w", "pay.mts"], .file (.bytes [])),
    (["w", "out"], .dir), (["w", "out", "buy"], .dir),
    (["w", "out", "buy", "old"], .file (.bytes [])), (["w", "out", "pay"], .dir),
    (["w", "out", "pay", "results.json"], .file (.bytes []))], ["w"], []⟩

/-- The same directory when the first of the scripts is about to run again. -/
def replaced : FileTree :=
  (makeOutputDir results "out" "buy.mts").2

/-- A run of a script replaces its own earlier results and leaves those of the other script. -/
theorem makeOutputDir_confined_buying : results.IsRooted ∧ results.isFile "buy.mts" = .ok true ∧
    makeOutputDir results "out" "buy.mts" = (.ok "out/buy", replaced) ∧
      Confined results replaced "out" "buy.mts" "out/buy" ∧
      results.below ["w", "out", "buy"] ≠ [] ∧ replaced.below ["w", "out", "buy"] = [] ∧
      replaced.entryAt? ["w", "out", "pay", "results.json"] = some (.file (.bytes [])) := by
  have hrooted : results.IsRooted := ⟨rfl, by simp [results, entryAt?, List.lookup_cons]⟩
  have hmade : makeOutputDir results "out" "buy.mts" = (.ok "out/buy", replaced) := rfl
  have hfile : results.isFile "buy.mts" = .ok true := rfl
  have hconfined := makeOutputDir_confined hrooted hfile hmade
  have hfirm : results.IsFirm "out" := .inl (by decide)
  have hnaming : IsNaming "buy.mts" := ⟨by decide, by decide⟩
  refine ⟨hrooted, hfile, hmade, hconfined, by simp [results, below, isBelow],
    hconfined.empty hnaming.2 hfirm, ?_⟩
  rw [hconfined.others hnaming hfirm "pay.mts" rfl ⟨by decide, by decide⟩ (by decide) _
    ⟨["results.json"], by decide⟩]
  rfl

/-- The same directory with two more scripts, whose stems are dots. -/
def dotted : FileTree :=
  { results with entries := results.entries ++
      [(["w", "..mts"], .file (.bytes [])), (["w", "...mts"], .file (.bytes []))] }

/-- A stem of one dot takes the results of all scripts away, one of two dots leads out of the base
directory, and by way of a directory that is not there yet old results are not seen. -/
theorem makeOutputDir_unconfined :
    dotted.isFile "..mts" = .ok true ∧ dotted.isFile "...mts" = .ok true ∧
      dotted.isFile "out/pay/results.json" = .ok true ∧
      (∃ t', makeOutputDir dotted "out" "..mts" = (.ok "out", t') ∧
        t'.exists? "out/pay/results.json" = .ok false) ∧
      (∃ t', makeOutputDir dotted "new" "...mts" = (.ok "new/..", t') ∧
        t'.isFile "new/../buy.mts" = .ok true) ∧
      ∃ t', makeOutputDir dotted "new/../out" "buy.mts" = (.ok "new/../out/buy", t') ∧
        t'.isFile "new/../out/buy/old" = .ok true :=
  ⟨rfl, rfl, rfl, ⟨_, rfl, rfl⟩, ⟨_, rfl, rfl⟩, ⟨_, rfl, rfl⟩⟩

end Simulation

end TapScript
