import TapScript.Proofs.Files.Contents
import TapScript.Proofs.Library.Containment

/-! # What listings show

A listing goes from the program files below the root to the namespaces that name them, and a look-up
from a namespace to the files that it may name. Both are read here as relations between the names
that lead to a file and the segments of a namespace.
-/

namespace TapScript

open Outcome

theorem Text.endsWith_iff {s suffix : String} :
    s.endsWith suffix = true ↔ ∃ stem, s = stem ++ suffix := by
  rw [String.endsWith_eq_endsWith_toSlice, String.Slice.endsWith_string_iff, String.copy_toSlice]
  constructor
  · rintro ⟨cs, hcs⟩
    refine ⟨String.ofList cs, String.toList_inj.mp ?_⟩
    rw [String.toList_append, String.toList_ofList, hcs]
  · rintro ⟨stem, rfl⟩
    exact ⟨stem.toList, String.toList_append.symm⟩

namespace FileTree

variable {t : FileTree} {p : Path}

/-- Whether a tree could be that of a file system: every location is there once, and its names are
neither empty nor hold a slash. -/
structure IsProper (t : FileTree) : Prop where
  once : (t.entries.map (·.1)).Nodup
  names : ∀ e ∈ t.entries, ∀ n ∈ e.1, n ≠ "" ∧ '/' ∉ n.toList

theorem read_of_isFile (h : t.isFile p = .ok true) : ∃ c, t.read p = .ok c := by
  obtain ⟨hp, l, c, hl, he⟩ := entry_of_isFile h
  refine ⟨c, ?_⟩
  unfold read status
  rw [if_neg fun hc => hp (List.contains_iff_mem.mp hc), hl]
  simp only [bind, Except.bind, he]

theorem mem_entries_of_entryAt? {l : Location} {e : Entry} (hn : l ≠ [])
    (h : t.entryAt? l = some e) : (l, e) ∈ t.entries := by
  rw [entryAt?, if_neg hn] at h
  obtain ⟨before, after, he, -⟩ := List.lookup_eq_some_iff.mp h
  simp [he]

theorem isBelow_iff {l l' : Location} :
    isBelow l l' = true ↔ ∃ names, names ≠ [] ∧ l' = l ++ names := by
  simp only [isBelow, Bool.and_eq_true, List.isPrefixOf_iff_prefix, bne_iff_ne]
  constructor
  · rintro ⟨⟨names, rfl⟩, hne⟩
    exact ⟨names, by simpa using hne, rfl⟩
  · rintro ⟨names, hn, rfl⟩
    exact ⟨List.prefix_append l names, by simpa using hn⟩

theorem mem_below_iff {l : Location} {names : List String} {e : Entry} :
    (names, e) ∈ t.below l ↔ names ≠ [] ∧ (l ++ names, e) ∈ t.entries := by
  simp only [below, List.mem_map, List.mem_filter]
  constructor
  · rintro ⟨⟨l', e'⟩, ⟨hm, hb⟩, he⟩
    obtain ⟨names', hn, rfl⟩ := isBelow_iff.mp hb
    rw [List.drop_left] at he
    cases he
    exact ⟨hn, hm⟩
  · rintro ⟨hn, hm⟩
    exact ⟨(l ++ names, e), ⟨hm, isBelow_iff.mpr ⟨names, hn, rfl⟩⟩, by rw [List.drop_left]⟩

theorem unopened?_eq_some {l : Location} {path : Path} (h : t.unopened? p l = some path) :
    ∃ names, names ≠ [] ∧ (l ++ names, Entry.dir) ∈ t.entries ∧
      path = ⟨p.anchor, p.parts ++ names⟩ ∧ longestPath < path.text.utf8ByteSize := by
  obtain ⟨⟨names, e⟩, hm, hpath⟩ := List.exists_of_findSome?_eq_some h
  obtain ⟨hn, hm⟩ := mem_below_iff.mp hm
  cases e with
  | file c => cases hpath
  | dir =>
    obtain ⟨hlong, rfl⟩ := Option.ite_some_none_eq_some.mp hpath
    rw [Bool.and_eq_true, decide_eq_true_eq] at hlong
    exact ⟨names, hn, hm, rfl, hlong.2⟩

/-- The names below a location are there once each. -/
theorem IsProper.nodup_below (ht : t.IsProper) (l : Location) :
    ((t.below l).map (·.1)).Nodup := by
  have hentries : t.entries.Pairwise fun e e' => e.1 ≠ e'.1 := List.pairwise_map.mp ht.once
  rw [below, List.map_map, List.Nodup, List.pairwise_map]
  refine (hentries.filter _).imp_of_mem fun {e e'} he he' hne hdrop => hne ?_
  obtain ⟨names, -, hl⟩ := isBelow_iff.mp (List.mem_filter.mp he).2
  obtain ⟨names', -, hl'⟩ := isBelow_iff.mp (List.mem_filter.mp he').2
  simp only [Function.comp_apply, hl, hl', List.drop_left] at hdrop
  rw [hl, hl', hdrop]

end FileTree

namespace Registry

variable {r : Registry} {t : FileTree} {root p : Path} {l : Location}
  {names segments above : List String} {stem last : String}
  {found : List (List String × Path)}

/-! ### What a listing shows -/

/-- Whether no segment of a namespace is left out of listings. -/
def IsOpen (segments : List String) : Prop :=
  ∀ s ∈ segments, isHidden s = false

instance (segments : List String) : Decidable (IsOpen segments) :=
  inferInstanceAs (Decidable (∀ s ∈ segments, isHidden s = false))

/-- How a program file shows in a listing: the names that lead to it, and its namespace. -/
inductive Shows : List String → List String → Prop
  | module {above : List String} {stem : String} (hn : stem ≠ "") (hi : stem ≠ "__init__")
      (ho : IsOpen (above ++ [stem])) : Shows (above ++ [stem ++ ".py"]) (above ++ [stem])
  | package {segments : List String} (hn : segments ≠ []) (ho : IsOpen segments) :
      Shows (segments ++ ["__init__.py"]) segments

theorem namespaceOf_package : namespaceOf (segments ++ ["__init__.py"]) = segments := by
  simp [namespaceOf]

theorem namespaceOf_module (hi : stem ≠ "__init__") :
    namespaceOf (above ++ [stem ++ ".py"]) = above ++ [(Path.splitName (stem ++ ".py")).1] := by
  have hname : stem ++ ".py" ≠ "__init__.py" := fun h =>
    hi (String.append_left_inj ".py" |>.mp h)
  unfold namespaceOf
  rw [List.getLast?_concat, List.dropLast_concat]
  split
  · next h => exact absurd (Option.some.inj h) hname
  · next h => cases h; rfl
  · next h => cases h

theorem splitName_program (hn : stem ≠ "") : Path.splitName (stem ++ ".py") = (stem, ".py") := by
  simp [Path.splitName, hn]

theorem shows_iff : Shows names segments ↔ (names.getLastD "").endsWith ".py" = true ∧
    namespaceOf names = segments ∧ segments ≠ [] ∧ IsOpen segments := by
  constructor
  · rintro (⟨hn, hi, ho⟩ | ⟨hn, ho⟩)
    · rw [namespaceOf_module hi, splitName_program hn]
      exact ⟨by simp [Text.endsWith_iff], rfl, by simp, ho⟩
    · exact ⟨by rw [Text.endsWith_iff]; exact ⟨"__init__", by simp⟩, namespaceOf_package, hn, ho⟩
  · rintro ⟨hpy, rfl, hn, ho⟩
    obtain rfl | ⟨above, name, rfl⟩ := List.eq_nil_or_concat names
    · exact absurd rfl hn
    rw [List.concat_eq_append] at hpy ho hn ⊢
    rw [List.getLastD_concat] at hpy
    obtain ⟨stem, rfl⟩ := Text.endsWith_iff.mp hpy
    by_cases hi : stem = "__init__"
    · subst hi
      have hname : "__init__" ++ ".py" = "__init__.py" := rfl
      rw [hname, namespaceOf_package] at hn ho ⊢
      exact .package hn ho
    · rw [namespaceOf_module hi] at ho ⊢
      by_cases hs : stem = ""
      · -- The name is the suffix alone, which is hidden.
        subst hs
        exact absurd (ho ".py" (by simp [Path.splitName])) (by decide)
      · rw [splitName_program hs] at ho ⊢
        exact .module hs hi ho

/-- The program files below a location, by their names from there. -/
def programs (t : FileTree) (l : Location) : List (List String) :=
  ((t.below l).map (·.1)).filter fun names => (names.getLastD "").endsWith ".py"

/-- A program file as a listing shows it, if it does. -/
def shown? (root : Path) (names : List String) : Option (List String × Path) :=
  if namespaceOf names = [] ∨ (namespaceOf names).any isHidden then none
  else some (namespaceOf names, ⟨root.anchor, root.parts ++ names⟩)

/-- A listing of a directory, all of whose directories can be opened. -/
def listed (t : FileTree) (root : Path) (l : Location) : List (List String × Path) :=
  ((programs t l).mergeSort inOrder).filterMap (shown? root)

theorem scan_opened (hroot : r.root = some root) (hdir : t.isDir root = .ok true)
    (hl : t.reach root = .ok l) (hopen : t.unopened? root l = none) :
    r.scan t = .ok (listed t root l) := by
  rw [scan, hroot]
  simp only [hdir, hl, hopen]
  rfl

theorem scan_unopened (hroot : r.root = some root) (hdir : t.isDir root = .ok true)
    (hl : t.reach root = .ok l) (hopen : t.unopened? root l = some p) :
    r.scan t = .error (.ofFile ⟨.nameTooLong, p.text⟩) := by
  rw [scan, hroot]
  simp only [hdir, hl, hopen]
  rfl

theorem listed_of_scan (hroot : r.root = some root) (hdir : t.isDir root = .ok true)
    (hl : t.reach root = .ok l) (h : r.scan t = .ok found) : found = listed t root l := by
  cases hopen : t.unopened? root l with
  | some p => cases (scan_unopened hroot hdir hl hopen).symm.trans h
  | none => exact (Except.ok.inj ((scan_opened hroot hdir hl hopen).symm.trans h)).symm

theorem mem_programs_iff : names ∈ programs t l ↔
    (names.getLastD "").endsWith ".py" = true ∧ names ≠ [] ∧ ∃ e, (l ++ names, e) ∈ t.entries := by
  simp only [programs, List.mem_filter, List.mem_map, Prod.exists]
  constructor
  · rintro ⟨⟨names', e, hm, rfl⟩, hpy⟩
    obtain ⟨hn, hm⟩ := FileTree.mem_below_iff.mp hm
    exact ⟨hpy, hn, e, hm⟩
  · rintro ⟨hpy, hn, e, hm⟩
    exact ⟨⟨names, e, FileTree.mem_below_iff.mpr ⟨hn, hm⟩, rfl⟩, hpy⟩

theorem shown?_eq_some_iff {e : List String × Path} : shown? root names = some e ↔
    namespaceOf names = e.1 ∧ e.1 ≠ [] ∧ IsOpen e.1 ∧ e.2 = ⟨root.anchor, root.parts ++ names⟩ := by
  have hopen : (namespaceOf names).any isHidden = true ↔ ¬ IsOpen (namespaceOf names) := by
    simp [IsOpen]
  unfold shown?
  constructor
  · intro h
    split at h
    · cases h
    · next hn =>
      cases h
      exact ⟨rfl, fun he => hn (.inl he), not_not.mp fun ho => hn (.inr (hopen.mpr ho)), rfl⟩
  · obtain ⟨segments, p⟩ := e
    rintro ⟨rfl, hn, ho, rfl⟩
    exact if_neg (not_or.mpr ⟨hn, fun ha => hopen.mp ha ho⟩)

/-- What a listing shows are the program files below the root whose segments are open. -/
theorem mem_scan_iff (hroot : r.root = some root) (hdir : t.isDir root = .ok true)
    (hl : t.reach root = .ok l) (h : r.scan t = .ok found) : (segments, p) ∈ found ↔
      ∃ names, Shows names segments ∧ (∃ e, (l ++ names, e) ∈ t.entries) ∧
        p = ⟨root.anchor, root.parts ++ names⟩ := by
  rw [listed_of_scan hroot hdir hl h]
  simp only [listed, List.mem_filterMap, List.mem_mergeSort, mem_programs_iff, shown?_eq_some_iff,
    shows_iff]
  constructor
  · rintro ⟨names, ⟨hpy, -, he⟩, hs, hn, ho, hp⟩
    exact ⟨names, ⟨hpy, hs, hn, ho⟩, he, hp⟩
  · rintro ⟨names, ⟨hpy, hs, hn, ho⟩, he, hp⟩
    refine ⟨names, ⟨hpy, ?_, he⟩, hs, hn, ho, hp⟩
    rintro rfl
    exact hn hs.symm

/-- A listing of a proper tree shows every file once. -/
theorem scan_pairwise (ht : t.IsProper) (hroot : r.root = some root)
    (hdir : t.isDir root = .ok true) (hl : t.reach root = .ok l) (h : r.scan t = .ok found) :
    found.Pairwise fun a b => a.2 ≠ b.2 := by
  have hnodup : (programs t l).Nodup := (ht.nodup_below l).filter _
  rw [listed_of_scan hroot hdir hl h, listed, List.pairwise_filterMap]
  refine ((List.mergeSort_perm _ _).nodup_iff.mpr hnodup).imp fun {ns ns'} hne a ha b hb => ?_
  obtain ⟨-, -, -, ha⟩ := shown?_eq_some_iff.mp ha
  obtain ⟨-, -, -, hb⟩ := shown?_eq_some_iff.mp hb
  rw [ha, hb]
  simpa using hne

namespace Shows

theorem ne_nil (h : Shows names segments) : names ≠ [] := by
  cases h <;> simp

theorem isOpen (h : Shows names segments) : segments ≠ [] ∧ IsOpen segments :=
  (shows_iff.mp h).2.2

theorem namespaceOf_eq (h : Shows names segments) : namespaceOf names = segments :=
  (shows_iff.mp h).2.1

/-- In a proper tree, the segments of a namespace are neither empty nor hold a slash. -/
theorem isNamed (h : Shows names segments) (ht : t.IsProper) {e : Entry}
    (he : (l ++ names, e) ∈ t.entries) : ∀ s ∈ segments, s ≠ "" ∧ '/' ∉ s.toList := by
  have hnames : ∀ n ∈ names, n ≠ "" ∧ '/' ∉ n.toList := fun n hn =>
    ht.names _ he n (List.mem_append_right l hn)
  cases h with
  | @module above stem hn =>
    have hstem := (hnames (stem ++ ".py") (by simp)).2
    rw [String.toList_append] at hstem
    intro s hs
    rcases List.mem_append.mp hs with hs | hs
    · exact hnames s (List.mem_append_left _ hs)
    · rw [List.mem_singleton.mp hs]
      exact ⟨hn, fun hm => hstem (List.mem_append_left _ hm)⟩
  | package => exact fun s hs => hnames s (List.mem_append_left _ hs)

/-- No listed file stands beside the root, or makes the root itself a package. -/
theorem not_beside (h : Shows names segments) :
    root.withSuffix? ".py" ≠ some ⟨root.anchor, root.parts ++ names⟩ ∧
      (⟨root.anchor, root.parts ++ names⟩ : Path) ≠ root.join "__init__.py" := by
  constructor
  · intro hp
    unfold Path.withSuffix? at hp
    split at hp
    · cases hp
    · next hname =>
      have hparts : root.parts ≠ [] := by
        intro hn
        simp [Path.name, hn] at hname
      have hp : root.parts.dropLast ++ [root.stem ++ ".py"] = root.parts ++ names :=
        congrArg Path.parts (Option.some.inj hp)
      have hlen := congrArg List.length hp
      have := List.length_pos_iff.mpr hparts
      have := List.length_pos_iff.mpr h.ne_nil
      simp only [List.length_append, List.length_dropLast, List.length_singleton] at hlen
      omega
  · intro hp
    rw [join_init] at hp
    have hnames : names = ["__init__.py"] := by simpa using hp
    apply h.isOpen.1
    rw [← h.namespaceOf_eq, hnames]
    rfl

end Shows

/-! ### What a look-up finds -/

/-- The file of a module in a directory. -/
def moduleFile (dir : Path) (name : String) : Path :=
  ⟨dir.anchor, dir.parts ++ [name ++ ".py"]⟩

/-- The file that makes a directory in a directory a package. -/
def packageFile (dir : Path) (name : String) : Path :=
  ⟨dir.anchor, dir.parts ++ [name, "__init__.py"]⟩

/-- The directory that some names lead to from the root. -/
def dirOf (root : Path) (above : List String) : Path :=
  ⟨root.anchor, root.parts ++ above⟩

theorem candidates_eq (hp : IsPlain (above ++ [last]))
    (hs : ∀ s ∈ above ++ [last], s ≠ "" ∧ '/' ∉ s.toList) :
    candidates root (above ++ [last]) =
      .ok [moduleFile (dirOf root above) last, packageFile (dirOf root above) last] := by
  have hbase : base root (above ++ [last]) = ⟨root.anchor, root.parts ++ above ++ [last]⟩ := by
    rw [base_relative (isRelative_of_names hs), names_eq hp hs, List.append_assoc]
  have hlast := hs last (by simp)
  have hdot := hp last (by simp)
  simp only [candidates, hbase, Path.withSuffix?_concat hlast.1 hdot, join_init]
  simp [moduleFile, packageFile, dirOf]

/-- A look-up finds the module of the last segment, and its package if there is no module. -/
theorem modulePath_eq_ok_iff (hroot : r.root = some root) (hp : IsPlain (above ++ [last]))
    (hs : ∀ s ∈ above ++ [last], s ≠ "" ∧ '/' ∉ s.toList) :
    r.modulePath t (above ++ [last]) = .ok p ↔
      (t.isFile (moduleFile (dirOf root above) last) = .ok true ∧
        p = moduleFile (dirOf root above) last) ∨
      (t.isFile (moduleFile (dirOf root above) last) = .ok false ∧
        t.isFile (packageFile (dirOf root above) last) = .ok true ∧
        p = packageFile (dirOf root above) last) := by
  simp only [modulePath, hroot, candidates_eq hp hs, firstFile?, bind, Except.bind]
  rcases t.isFile (moduleFile (dirOf root above) last) with e | b
  · simp
  cases b with
  | true => simp [pure, Except.pure, eq_comm]
  | false =>
    rcases t.isFile (packageFile (dirOf root above) last) with e | b
    · simp
    · cases b <;> simp [pure, Except.pure, eq_comm]

/-- A file under an open namespace is the module of its last segment, or makes the package. -/
theorem Shows.file_eq (h : Shows names (above ++ [last])) (root : Path) :
    (⟨root.anchor, root.parts ++ names⟩ : Path) = moduleFile (dirOf root above) last ∨
      (⟨root.anchor, root.parts ++ names⟩ : Path) = packageFile (dirOf root above) last := by
  generalize hs : above ++ [last] = segments at h
  cases h with
  | module =>
    obtain ⟨rfl, hlast⟩ := List.append_inj' hs rfl
    cases hlast
    exact .inl (by simp [moduleFile, dirOf])
  | package =>
    subst hs
    exact .inr (by simp [packageFile, dirOf])

theorem moduleFile_ne_packageFile {dir dir' : Path} {name : String} (h : isHidden last = false) :
    moduleFile dir last ≠ packageFile dir' name := by
  intro he
  have hparts : dir.parts ++ [last ++ ".py"] = dir'.parts ++ [name, "__init__.py"] :=
    congrArg Path.parts he
  have hname := congrArg List.getLast? hparts
  rw [List.getLast?_concat, List.append_cons, List.getLast?_concat] at hname
  have hlast : last ++ ".py" = "__init__" ++ ".py" := Option.some.inj hname
  rw [String.append_left_inj] at hlast
  rw [hlast] at h
  exact absurd h (by decide)

theorem packageFile_inj {dir dir' : Path} {name name' : String}
    (h : packageFile dir name = packageFile dir' name') : dir = dir' ∧ name = name' := by
  obtain ⟨anchor, parts⟩ := dir
  obtain ⟨anchor', parts'⟩ := dir'
  obtain ⟨rfl, hparts⟩ := Path.mk.inj h
  obtain ⟨rfl, hname⟩ := List.append_inj' hparts rfl
  exact ⟨rfl, (List.cons.inj hname).1⟩
end Registry

end TapScript
