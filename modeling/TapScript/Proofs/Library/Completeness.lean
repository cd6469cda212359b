import TapScript.Proofs.Library.Showing

/-! # Listings are complete

A file that a look-up by open names finds is listed under its namespace. Only the empty namespace,
that of the built-in commands, finds a file that is not: one that makes the root itself a package,
or stands beside it. A listing opens every directory below the root, and there is none if the path
of one of them is too long for that.
-/

namespace TapScript

namespace Registry

variable {r : Registry} {t : FileTree} {root p : Path} {segments : List String}
  {found : List (List String × Path)}

/-- Whether a segment names a library openly: it is not empty, holds neither a dot nor a slash, and
does not start with an underscore. -/
structure IsOpenName (s : String) : Prop where
  nonempty : s ≠ ""
  dotless : '.' ∉ s.toList
  slashless : '/' ∉ s.toList
  unprivate : s.toList.head? ≠ some '_'

theorem IsOpenName.isOpen {s : String} (h : IsOpenName s) : isHidden s = false := by
  have hdot := h.dotless
  have hscore := h.unprivate
  unfold isHidden
  split
  · next hs => simp [hs] at hdot
  · next hs => simp [hs] at hscore
  · rfl

/-- What a look-up by open names finds is shown under them, and lies below the root. -/
theorem shows_of_modulePath (hroot : r.root = some root) (hn : segments ≠ [])
    (hs : ∀ s ∈ segments, IsOpenName s) (h : r.modulePath t segments = .ok p) :
    ∃ names, Shows names segments ∧ ".." ∉ names ∧ p = ⟨root.anchor, root.parts ++ names⟩ := by
  obtain ⟨above, last, rfl⟩ := (List.eq_nil_or_concat' segments).resolve_left hn
  have hopen : IsOpen (above ++ [last]) := fun s hm => (hs s hm).isOpen
  have hdots : ".." ∉ above ++ [last] := fun hm => (hs ".." hm).dotless (by decide)
  have hlast := hs last (by simp)
  have hfound := (modulePath_eq_ok_iff hroot (fun s hm => (hs s hm).dotless)
    fun s hm => ⟨(hs s hm).nonempty, (hs s hm).slashless⟩).mp h
  obtain ⟨-, rfl⟩ | ⟨-, -, rfl⟩ := hfound
  · have hi : last ≠ "__init__" := by
      rintro rfl
      exact hlast.unprivate (by decide)
    refine ⟨above ++ [last ++ ".py"], .module hlast.nonempty hi hopen, ?_, ?_⟩
    · simp only [List.mem_append, not_or] at hdots ⊢
      exact ⟨hdots.1, fun hm => dots_ne_program (List.mem_singleton.mp hm)⟩
    · simp [moduleFile, dirOf]
  · refine ⟨above ++ [last] ++ ["__init__.py"], .package hn hopen, ?_, ?_⟩
    · simp only [List.mem_append, not_or] at hdots ⊢
      exact ⟨hdots, by decide⟩
    · simp [packageFile, dirOf]

/-- The namespaces and files of a listing as they are written. -/
def written (found : List (List String × Path)) : List (String × Path) :=
  found.map fun e => (dotted e.1, e.2)

/-- The empty namespace names the root itself or a file beside it, which no listing shows. -/
theorem not_mem_written (hroot : r.root = some root) (hdir : t.isDir root = .ok true)
    (hscan : r.scan t = .ok found) (h : r.modulePath t [] = .ok p) (namespace_ : String) :
    (namespace_, p) ∉ written found := by
  intro hm
  obtain ⟨l, hl, -⟩ := FileTree.entry_of_isDir hdir
  obtain ⟨⟨segments, p'⟩, he, hp⟩ := List.mem_map.mp hm
  obtain rfl : p' = p := congrArg Prod.snd hp
  obtain ⟨names, hshows, -, rfl⟩ := (mem_scan_iff hroot hdir hl hscan).mp he
  obtain ⟨-, hbeside | hbeside⟩ := modulePath_ok hroot h
  · exact hshows.not_beside.1 hbeside
  · exact hshows.not_beside.2 hbeside

/-- What a look-up by open names finds is listed, unless there are no names. -/
theorem mem_written (hroot : r.root = some root) (hdir : t.isDir root = .ok true)
    (hscan : r.scan t = .ok found) (hn : segments ≠ []) (hs : ∀ s ∈ segments, IsOpenName s)
    (h : r.modulePath t segments = .ok p) : (dotted segments, p) ∈ written found := by
  obtain ⟨l, hl, -⟩ := FileTree.entry_of_isDir hdir
  obtain ⟨names, hshows, hdots, rfl⟩ := shows_of_modulePath hroot hn hs h
  obtain ⟨-, l', c, hl', hentry⟩ := FileTree.entry_of_isFile (modulePath_ok hroot h).1
  -- No name goes up, so that the file is among the entries below where the root is.
  obtain ⟨l₀, hl₀, rfl⟩ := FileTree.reach_append hl' hdots
  obtain rfl : l₀ = l := Except.ok.inj (hl₀.symm.trans hl)
  have hbelow : l₀ ++ names ≠ [] := by simp [hshows.ne_nil]
  have hmem := FileTree.mem_entries_of_entryAt? hbelow hentry
  have hlisted := (mem_scan_iff hroot hdir hl hscan).mpr ⟨names, hshows, ⟨_, hmem⟩, rfl⟩
  exact List.mem_map_of_mem (f := fun e => (dotted e.1, e.2)) hlisted

/-- Whether a directory stands below another, by a path too long for it to be opened. -/
def IsUnopened (t : FileTree) (above dir : Path) : Prop :=
  ∃ l names, t.reach above = .ok l ∧ names ≠ [] ∧ (l ++ names, Entry.dir) ∈ t.entries ∧
    dir = ⟨above.anchor, above.parts ++ names⟩ ∧ FileTree.longestPath < dir.text.utf8ByteSize

theorem isOpenName_shop : IsOpenName "shop" :=
  ⟨by decide, by decide, by decide, by decide⟩

/-- A directory of libraries that is a package itself. -/
def packaged : FileTree :=
  ⟨[(["libs"], .dir), (["libs", "__init__.py"], .file (.program ⟨none, [], none⟩))], [], []⟩

/-- A directory of libraries with a directory in it, beside a library. -/
def cellar : FileTree :=
  ⟨[(["libs"], .dir), (["libs", "shop.py"], .file (.program ⟨none, [], none⟩)),
    (["libs", "long-forgotten"], .dir)], [], []⟩

/-- A long way to a place among the libraries: from the root of the file system, upwards leads
nowhere else. -/
def detour (n : Nat) (names : List String) : Path :=
  ⟨.here, List.replicate n ".." ++ "libs" :: names⟩

variable {n : Nat} {names : List String}

theorem utf8ByteSize_detour (n : Nat) (names : List String) : (detour n names).text.utf8ByteSize =
    3 * n + ("/".intercalate ("libs" :: names)).utf8ByteSize := by
  have hparts : List.replicate n ".." ++ "libs" :: names ≠ [] := by simp
  rw [Path.text, detour, if_neg fun h => hparts h.2, Anchor.text, String.empty_append]
  clear hparts
  induction n with
  | zero => simp
  | succ n ih =>
    rw [List.replicate_succ, List.cons_append, String.intercalate_cons_of_ne_nil (by simp),
      String.utf8ByteSize_append, String.utf8ByteSize_append, ih]
    have hup : "..".utf8ByteSize = 2 := rfl
    have hslash : "/".utf8ByteSize = 1 := rfl
    omega

theorem reach_detour (hlen : (detour n names).text.utf8ByteSize ≤ FileTree.longestPath) :
    cellar.reach (detour n names) = ("libs" :: names).foldlM cellar.step [] := by
  have hup : (List.replicate n "..").foldlM cellar.step [] = .ok [] := by
    clear hlen
    induction n with
    | zero => rfl
    | succ n ih => exact ih
  have hstart : cellar.start (detour n names) = [] := rfl
  rw [FileTree.reach, if_neg (Nat.not_lt.mpr hlen), hstart, detour, List.foldlM_append, hup]
  rfl

theorem probe_detour {l : Location} {e : Entry} (test : Entry → Bool)
    (hn : ∀ s ∈ names, '\x00' ∉ s.toList)
    (hlen : (detour n names).text.utf8ByteSize ≤ FileTree.longestPath)
    (hl : ("libs" :: names).foldlM cellar.step [] = .ok l) (he : cellar.entryAt? l = some e) :
    cellar.probe (detour n names) test = .ok (test e) := by
  have hp : '\x00' ∉ (detour n names).text.toList := by
    rw [Path.mem_text_iff (by decide) (by decide)]
    rintro ⟨s, hs, hc⟩
    obtain hs | hs := List.mem_append.mp hs
    · rw [List.eq_of_mem_replicate hs] at hc
      exact absurd hc (by decide)
    · obtain rfl | hs := List.mem_cons.mp hs
      · exact absurd hc (by decide)
      · exact hn s hs hc
  exact FileTree.probe_of_entry hp ((reach_detour hlen).trans hl) he test

/-- A registry of the libraries at the end of a long way. -/
def remote (n : Nat) : Registry :=
  ⟨some (detour n []), .leaf, []⟩

theorem isDir_remote (hn : 3 * n + 4 ≤ FileTree.longestPath) :
    cellar.isDir (detour n []) = .ok true := by
  have hlen : (detour n []).text.utf8ByteSize ≤ FileTree.longestPath := by
    rwa [utf8ByteSize_detour]
  exact probe_detour (e := .dir) Entry.isDir (by decide) hlen rfl rfl

theorem modulePath_remote (hn : 3 * n + 12 ≤ FileTree.longestPath) :
    (remote n).modulePath cellar ["shop"] = .ok (detour n ["shop.py"]) := by
  have hfile : moduleFile (dirOf (detour n []) []) "shop" = detour n ["shop.py"] := by
    simp only [moduleFile, dirOf, detour, List.append_assoc, List.append_nil]
    rfl
  have hlen : (detour n ["shop.py"]).text.utf8ByteSize ≤ FileTree.longestPath := by
    rwa [utf8ByteSize_detour]
  have hshop : cellar.isFile (detour n ["shop.py"]) = .ok true :=
    probe_detour Entry.isFile (by decide) hlen rfl rfl
  have hplain : IsPlain ([] ++ ["shop"]) := List.forall_mem_singleton.mpr isOpenName_shop.dotless
  rw [← hfile] at hshop ⊢
  exact (modulePath_eq_ok_iff rfl hplain (List.forall_mem_singleton.mpr
    ⟨isOpenName_shop.nonempty, isOpenName_shop.slashless⟩)).mpr (.inl ⟨hshop, rfl⟩)

theorem scan_remote (hn : 3 * n + 4 ≤ FileTree.longestPath)
    (hlong : FileTree.longestPath < 3 * n + 19) (found : List (List String × Path)) :
    (remote n).scan cellar ≠ .ok found := by
  have hlen : (detour n []).text.utf8ByteSize ≤ FileTree.longestPath := by
    rwa [utf8ByteSize_detour]
  have hdir : detour n ["long-forgotten"] =
      ⟨(detour n []).anchor, (detour n []).parts ++ ["long-forgotten"]⟩ := by
    simp [detour]
  have hopen : cellar.unopened? (detour n []) ["libs"] = some (detour n ["long-forgotten"]) := by
    have hlong : FileTree.longestPath < (detour n ["long-forgotten"]).text.utf8ByteSize := by
      rwa [utf8ByteSize_detour]
    have hbelow : cellar.below ["libs"] =
        [(["shop.py"], .file (.program ⟨none, [], none⟩)), (["long-forgotten"], .dir)] := rfl
    rw [hdir] at hlong ⊢
    simp [FileTree.unopened?, hbelow, Entry.isDir, hlong]
  intro hscan
  cases (scan_unopened rfl (isDir_remote hn) (reach_detour hlen) hopen).symm.trans hscan

end Registry

end TapScript
