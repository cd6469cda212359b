import TapScript.Proofs.Library.Loading
import TapScript.Proofs.Library.Showing

/-! # Libraries in a listing

A listed file is found by its namespace in turn, unless the namespace cannot be read back, since a
name holds a dot, or a look-up passes the file over: it is a directory, or it makes a package of
which there is a module too.
-/

namespace TapScript

open Outcome

namespace Registry

variable {r : Registry} {t : FileTree} {root p : Path} {names segments : List String}
  {found : List (List String × Path)}

/-- Whether a listed file is what a look-up by its namespace finds: it is a file and no directory,
no segment holds a dot, and if it makes a package, there is no module of that name. -/
structure IsProvided (t : FileTree) (segments : List String) (file : Path) : Prop where
  isFile : t.isFile file = .ok true
  plain : IsPlain segments
  alone : ∀ dir name, file = packageFile dir name → t.isFile (moduleFile dir name) = .ok false

/-- A segment of a written namespace that is read back holds no slash unless the namespace does. -/
theorem slash_not_mem_pieces (hs : ∀ s ∈ segments, s ≠ "" ∧ '/' ∉ s.toList) :
    ∀ s ∈ Text.pieces '.' (dotted segments), '/' ∉ s.toList := by
  intro s hm hc
  obtain ⟨cs, hcs, rfl⟩ := List.mem_map.mp hm
  rw [String.toList_ofList] at hc
  have hd := Text.mem_of_mem_splitOn hcs hc
  rw [dotted, String.toList_intercalate, Text.mem_intercalate_iff (by decide)] at hd
  obtain ⟨ds, hds, hd⟩ := hd
  obtain ⟨s, hs', rfl⟩ := List.mem_map.mp hds
  exact (hs s hs').2 hd

/-- A listed file that is found by its namespace has no dots in its segments, since what is found
is named by segments without dots. -/
theorem Shows.isPlain_of_modulePath (h : Shows names segments) (hroot : r.root = some root)
    (hs : ∀ s ∈ segments, s ≠ "" ∧ '/' ∉ s.toList)
    (hp : r.modulePath t (Text.pieces '.' (dotted segments)) =
      .ok ⟨root.anchor, root.parts ++ names⟩) : IsPlain segments := by
  have hplain : IsPlain (Text.pieces '.' (dotted segments)) := fun s hm =>
    Text.not_mem_of_mem_pieces hm
  have hrel : IsRelative (Text.pieces '.' (dotted segments)) := fun s hm hstart =>
    slash_not_mem_pieces hs s hm (List.mem_of_mem_head? hstart)
  have located := located_of_modulePath hroot hplain hp
  by_cases hnamed : Registry.names (Text.pieces '.' (dotted segments)) = []
  · obtain hbeside | hbeside := located.beside hrel hnamed
    · exact absurd hbeside h.not_beside.1
    · exact absurd hbeside h.not_beside.2
  obtain ⟨init, last, hnames, hfile⟩ := (located.below hrel hnamed).file
  have hdots : ∀ n ∈ init ++ [last], '.' ∉ n.toList := fun n hn =>
    (mem_names hplain (hnames ▸ hn)).2
  rw [← h.namespaceOf_eq]
  obtain hfile | hfile := hfile
  · obtain rfl : names = init ++ [last ++ ".py"] := by simpa using hfile
    by_cases hi : last = "__init__"
    · subst hi
      have hname : "__init__" ++ ".py" = "__init__.py" := rfl
      rw [hname, namespaceOf_package]
      exact fun n hn => hdots n (List.mem_append_left _ hn)
    · have hlast : last ≠ "" := (mem_names hplain (n := last) (by simp [hnames])).1
      rw [namespaceOf_module hi, splitName_program hlast]
      exact hdots
  · obtain rfl : names = (init ++ [last]) ++ ["__init__.py"] := by simpa using hfile
    rw [namespaceOf_package]
    exact hdots

/-- A listed file is found by its namespace as it is written if and only if it is provided. -/
theorem Shows.modulePath_iff (h : Shows names segments) (hroot : r.root = some root)
    (hs : ∀ s ∈ segments, s ≠ "" ∧ '/' ∉ s.toList) :
    r.modulePath t (Text.pieces '.' (dotted segments)) = .ok ⟨root.anchor, root.parts ++ names⟩ ↔
      IsProvided t segments ⟨root.anchor, root.parts ++ names⟩ := by
  obtain ⟨hn, ho⟩ := h.isOpen
  obtain ⟨above, last, rfl⟩ := (List.eq_nil_or_concat' segments).resolve_left hn
  have hlast : isHidden last = false := ho last (by simp)
  constructor
  · intro hp
    have hplain := h.isPlain_of_modulePath hroot hs hp
    rw [pieces_dotted hplain hn] at hp
    refine ⟨(modulePath_ok hroot hp).1, hplain, fun dir name hfile => ?_⟩
    rw [hfile] at hp
    obtain ⟨-, hm⟩ | ⟨hmodule, -, hm⟩ := (modulePath_eq_ok_iff hroot hplain hs).mp hp
    · exact absurd hm.symm (moduleFile_ne_packageFile hlast)
    · obtain ⟨rfl, rfl⟩ := packageFile_inj hm
      exact hmodule
  · rintro ⟨hfile, hplain, halone⟩
    rw [pieces_dotted hplain hn, modulePath_eq_ok_iff hroot hplain hs]
    obtain hm | hm := h.file_eq root
    · rw [hm] at hfile ⊢
      exact .inl ⟨hfile, rfl⟩
    · rw [hm] at hfile ⊢
      exact .inr ⟨halone _ _ hm, hfile, rfl⟩

/-! ### Loading what is listed -/

/-- Whether a load ends as the import of a module from a file does. -/
inductive EndsAs (m : Module) (segments : List String) (file : Path) : Except Fault Library → Prop
  | library (h : m.fault = none) : EndsAs m segments file (.ok ⟨dotted segments, file, m, segments⟩)
  | broken {f : Fault} (h : m.fault = some f) : EndsAs m segments file
      (.error (.ofProblem (.libraryBroken file.text f.message (dotted segments))))

theorem moduleOf_of_isFile (h : t.isFile p = .ok true) : ∃ m, moduleOf t p = .ok m := by
  obtain ⟨c, hc⟩ := FileTree.read_of_isFile h
  unfold moduleOf
  rw [hc]
  cases c with
  | bytes bs => exact ⟨_, rfl⟩
  | program m => exact ⟨m, rfl⟩

theorem endsAs_fetch {m : Module} (hp : r.modulePath t segments = .ok p)
    (hm : moduleOf t p = .ok m) : EndsAs m segments p (r.fetch t (dotted segments) segments) := by
  simp only [fetch, hp, hm, bind, Except.bind, mapError_ok]
  split
  · next f hf => exact .broken hf
  · next hf => exact .library hf

/-- Under keys of whole namespaces, a namespace is loaded from the file that a look-up finds,
whatever has been loaded before. -/
theorem endsAs_load (hroot : r.root = some root) (hmode : r.cacheKey = .path) (hr : r.loaded = [])
    {qs : List Request} (hqs : ∀ x ∈ r.loads qs, x.files = t ∧ IsPlain x.segments)
    (hn : segments ≠ []) (hplain : IsPlain segments) (hp : r.modulePath t segments = .ok p) :
    ∃ m, moduleOf t p = .ok m ∧ EndsAs m segments p ((r.serve qs).load t segments).1 := by
  obtain ⟨m, hm⟩ := moduleOf_of_isFile (modulePath_ok hroot hp).1
  refine ⟨m, hm, ?_⟩
  rw [((chain_loads r qs).agrees hmode hqs).load segments hplain, load_path hmode hn, hr]
  exact endsAs_fetch hp hm

/-! ### Listings -/

/-- Whether one file is a module, and the other makes a package of the same name. -/
def AreTwins (p q : Path) : Prop :=
  ∃ dir name, p = moduleFile dir name ∧ q = packageFile dir name

theorem areTwins_of_shows {names' : List String} (h : Shows names segments)
    (h' : Shows names' segments)
    (hne : (⟨root.anchor, root.parts ++ names⟩ : Path) ≠ ⟨root.anchor, root.parts ++ names'⟩) :
    AreTwins ⟨root.anchor, root.parts ++ names⟩ ⟨root.anchor, root.parts ++ names'⟩ ∨
      AreTwins ⟨root.anchor, root.parts ++ names'⟩ ⟨root.anchor, root.parts ++ names⟩ := by
  obtain ⟨above, last, rfl⟩ := (List.eq_nil_or_concat' segments).resolve_left h.isOpen.1
  obtain hm | hm := h.file_eq root <;> obtain hm' | hm' := h'.file_eq root
  · exact absurd (hm.trans hm'.symm) hne
  · exact .inl ⟨_, _, hm, hm'⟩
  · exact .inr ⟨_, _, hm', hm⟩
  · exact absurd (hm.trans hm'.symm) hne

/-- How the entries of a listing stand to look-ups: a file is found by its namespace, read back as
it is written, exactly if it is provided, and is what is loaded then. No two such files have
one namespace, and two files without dots in their namespace have it in common only as twins. -/
structure Listing (r : Registry) (t : FileTree) (found : List (List String × Path)) : Prop where
  located : ∀ e ∈ found, r.modulePath t (Text.pieces '.' (dotted e.1)) = .ok e.2 ↔
    IsProvided t e.1 e.2
  once : found.Pairwise fun a b => IsProvided t a.1 a.2 → IsProvided t b.1 b.2 →
    dotted a.1 ≠ dotted b.1
  twice : found.Pairwise fun a b => IsPlain a.1 → IsPlain b.1 → dotted a.1 = dotted b.1 →
    AreTwins a.2 b.2 ∨ AreTwins b.2 a.2
  loaded : r.loaded = [] → r.cacheKey = .path → ∀ e ∈ found, IsProvided t e.1 e.2 →
    ∀ qs, (∀ x ∈ r.loads qs, x.files = t ∧ IsPlain x.segments) → ∃ m, moduleOf t e.2 = .ok m ∧
      EndsAs m e.1 e.2 ((r.serve qs).load t (Text.pieces '.' (dotted e.1))).1

theorem listing_nil : Listing r t [] where
  located := nofun
  once := .nil
  twice := .nil
  loaded _ _ := nofun

theorem scan_cases (h : r.scan t = .ok found) : found = [] ∨
    ∃ root l, r.root = some root ∧ t.isDir root = .ok true ∧ t.reach root = .ok l := by
  rcases hroot : r.root with _ | root
  · simp only [scan, hroot] at h
    exact .inl (Except.ok.inj h).symm
  rcases hdir : t.isDir root with e | b
  · simp only [scan, hroot, hdir] at h
    cases h
  cases b with
  | false =>
    simp only [scan, hroot, hdir] at h
    exact .inl (Except.ok.inj h).symm
  | true =>
    obtain ⟨l, hl, -⟩ := FileTree.entry_of_isDir hdir
    exact .inr ⟨root, l, rfl, hdir, hl⟩

/-- A listing of a proper tree shows each file that is provided under the namespace that it is
found and loaded by, and shows no such namespace twice. -/
theorem scan_listing (ht : t.IsProper) (h : r.scan t = .ok found) : Listing r t found := by
  obtain rfl | ⟨root, l, hroot, hdir, hl⟩ := scan_cases h
  · exact listing_nil
  have hmem : ∀ e ∈ found, ∃ names, Shows names e.1 ∧ (∀ s ∈ e.1, s ≠ "" ∧ '/' ∉ s.toList) ∧
      e.2 = ⟨root.anchor, root.parts ++ names⟩ := by
    rintro ⟨segments, p⟩ he
    obtain ⟨names, hshows, ⟨entry, hentry⟩, hp⟩ := (mem_scan_iff hroot hdir hl h).mp he
    exact ⟨names, hshows, hshows.isNamed ht hentry, hp⟩
  have hlocated : ∀ e ∈ found, r.modulePath t (Text.pieces '.' (dotted e.1)) = .ok e.2 ↔
      IsProvided t e.1 e.2 := by
    intro e he
    obtain ⟨names, hshows, hs, hp⟩ := hmem e he
    rw [hp]
    exact hshows.modulePath_iff hroot hs
  have hpairs := scan_pairwise ht hroot hdir hl h
  refine ⟨hlocated, ?_, ?_, ?_⟩
  -- A look-up finds one file, so that of two entries under one namespace one is not provided.
  · refine hpairs.imp_of_mem fun {a b} ha hb hne hpa hpb hd => hne ?_
    have hfound := (hlocated a ha).mpr hpa
    rw [hd, (hlocated b hb).mpr hpb] at hfound
    exact (Except.ok.inj hfound).symm
  · refine hpairs.imp_of_mem fun {a b} ha hb hne hpa hpb hd => ?_
    obtain ⟨names, hshows, -, hp⟩ := hmem a ha
    obtain ⟨names', hshows', -, hp'⟩ := hmem b hb
    have hsegments := dotted_injective hpa hpb hshows.isOpen.1 hshows'.isOpen.1 hd
    rw [← hsegments] at hshows'
    rw [hp, hp'] at hne ⊢
    exact areTwins_of_shows hshows hshows' hne
  · intro hr hmode e he hprovided qs hqs
    obtain ⟨names, hshows, -⟩ := hmem e he
    have hfound := (hlocated e he).mpr hprovided
    rw [pieces_dotted hprovided.plain hshows.isOpen.1] at hfound ⊢
    exact endsAs_load hroot hmode hr hqs hshows.isOpen.1 hprovided.plain hfound

/-- A directory of libraries in disorder: a name with two dots, a module and a package of one name,
and a directory with the name of a module. -/
def jumble : FileTree :=
  let shop : Entry := .file (.program ⟨none, [], none⟩)
  ⟨[(["libs"], .dir), (["libs", "a.b.py"], shop), (["libs", "shop.py"], shop),
    (["libs", "shop"], .dir), (["libs", "shop", "__init__.py"], shop),
    (["libs", "x.py"], .dir)], [], []⟩

theorem jumble_isProper : jumble.IsProper where
  once := by decide
  names := by decide

theorem shows_module {stem : String} (hn : stem ≠ "") (ho : isHidden stem = false) :
    Shows [stem ++ ".py"] [stem] := by
  have hi : stem ≠ "__init__" := by
    rintro rfl
    exact absurd ho (by decide)
  exact @Shows.module [] stem hn hi (List.forall_mem_singleton.mpr ho)

theorem exists_jumble_scan : ∃ found, shops.scan jumble = .ok found ∧
    ∀ names segments, Shows names segments → "libs" :: names ∈ jumble.entries.map (·.1) →
      (segments, ⟨.here, "libs" :: names⟩) ∈ found := by
  have hscan := scan_opened (r := shops) (t := jumble) (l := ["libs"]) rfl rfl rfl rfl
  refine ⟨_, hscan, fun names segments h hm => ?_⟩
  obtain ⟨⟨_, e⟩, he, rfl⟩ := List.mem_map.mp hm
  exact (mem_scan_iff rfl rfl rfl hscan).mpr ⟨names, h, ⟨e, he⟩, rfl⟩

/-- In such a tree, the module that is found is shown. -/
theorem scan_listing_jumble : jumble.IsProper ∧ ∃ found, shops.scan jumble = .ok found ∧
    (["shop"], ⟨.here, ["libs", "shop.py"]⟩) ∈ found ∧ Listing shops jumble found := by
  obtain ⟨found, hscan, hshown⟩ := exists_jumble_scan
  have hshop := hshown ["shop" ++ ".py"] ["shop"] (shows_module (by decide) (by decide)) (by decide)
  exact ⟨jumble_isProper, found, hscan, hshop, scan_listing jumble_isProper hscan⟩

/-- But so are a file that no namespace leads to, a directory, and a package behind a module. -/
theorem scan_unfound : ∃ found, shops.scan jumble = .ok found ∧
    ((["a.b"], ⟨.here, ["libs", "a.b.py"]⟩) ∈ found ∧
      ∀ p, shops.modulePath jumble (Text.pieces '.' "a.b") ≠ .ok p) ∧
    ((["x"], ⟨.here, ["libs", "x.py"]⟩) ∈ found ∧
      ∀ p, shops.modulePath jumble (Text.pieces '.' "x") ≠ .ok p) ∧
    (["shop"], ⟨.here, ["libs", "shop.py"]⟩) ∈ found ∧
    (["shop"], ⟨.here, ["libs", "shop", "__init__.py"]⟩) ∈ found ∧
    shops.modulePath jumble (Text.pieces '.' "shop") = .ok ⟨.here, ["libs", "shop.py"]⟩ := by
  obtain ⟨found, hscan, hshown⟩ := exists_jumble_scan
  have hmodule : ∀ stem, stem ≠ "" → isHidden stem = false →
      ["libs", stem ++ ".py"] ∈ jumble.entries.map (·.1) →
      ([stem], ⟨.here, ["libs", stem ++ ".py"]⟩) ∈ found := fun stem hn ho hm =>
    hshown _ _ (shows_module hn ho) hm
  have hpackage := hshown (["shop"] ++ ["__init__.py"]) ["shop"]
    (.package (by decide) (by decide)) (by decide)
  have hab := hmodule "a.b" (by decide) (by decide) (by decide)
  have hx := hmodule "x" (by decide) (by decide) (by decide)
  have hshop := hmodule "shop" (by decide) (by decide) (by decide)
  refine ⟨found, hscan, ⟨hab, ?_⟩, ⟨hx, ?_⟩, hshop, hpackage, rfl⟩
  · nofun
  · nofun
end Registry

end TapScript
