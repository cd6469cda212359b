import Mathlib.Data.List.TakeWhile
import TapScript.Proofs.Files.Contents
import TapScript.Proofs.Library.Cache
import TapScript.Proofs.Script.Reading

/-! # Where libraries are found

The file of a library is named by the names that the segments of a namespace hold, and lies below
the library root. Two kinds of namespaces lead elsewhere: one with a segment that starts at the
root of the file system, and one whose segments hold no name at all.
-/

namespace TapScript

open Outcome

theorem Text.utf8ByteSize_intercalate_le (sep : String) (xs ys : List String) :
    (sep.intercalate xs).utf8ByteSize ≤ (sep.intercalate (xs ++ ys)).utf8ByteSize := by
  induction xs with
  | nil => simp
  | cons x xs ih =>
    by_cases hxs : xs = []
    · subst hxs
      cases ys with
      | nil => simp
      | cons y ys =>
        simp only [List.singleton_append, String.intercalate_cons_cons,
          String.intercalate_singleton, String.utf8ByteSize_append]
        omega
    · have hxy : xs ++ ys ≠ [] := by simp [hxs]
      rw [List.cons_append, String.intercalate_cons_of_ne_nil hxs,
        String.intercalate_cons_of_ne_nil hxy]
      simp only [String.utf8ByteSize_append]
      omega

namespace Path

variable {s n : String}

theorem utf8ByteSize_text_le (anchor : Anchor) (ps names : List String) :
    (text ⟨anchor, ps⟩).utf8ByteSize ≤ max 1 (text ⟨anchor, ps ++ names⟩).utf8ByteSize := by
  have hle := Text.utf8ByteSize_intercalate_le "/" ps names
  by_cases h : anchor = .here ∧ ps = []
  · have h1 : (text ⟨anchor, ps⟩).utf8ByteSize = 1 := by
      simp only [text, if_pos h]
      rfl
    omega
  · have h' : ¬ (anchor = .here ∧ ps ++ names = []) := by
      rintro ⟨ha, hn⟩
      exact h ⟨ha, (List.append_eq_nil_iff.mp hn).1⟩
    simp only [text, if_neg h, if_neg h', String.utf8ByteSize_append]
    omega

/-- Whether a text writes a path from the root of the file system. -/
def StartsAtRoot (s : String) : Prop :=
  s.toList.head? = some '/'

theorem isAbsolute_ofText_iff : (ofText s).isAbsolute = true ↔ StartsAtRoot s := by
  unfold ofText isAbsolute StartsAtRoot
  cases s.toList with
  | nil => simp [Anchor.ofSlashes]
  | cons c cs =>
    by_cases hc : c = '/'
    · subst hc
      have : Anchor.ofSlashes ((List.takeWhile (· == '/') cs).length + 1) ≠ .here := by
        unfold Anchor.ofSlashes
        split <;> simp_all
      simpa using this
    · simp [hc, Anchor.ofSlashes]

theorem join_relative {p : Path} (h : ¬ StartsAtRoot s) :
    p.join (ofText s) = ⟨p.anchor, p.parts ++ namesOf s⟩ := by
  have ha : (ofText s).isAbsolute = false := by
    rw [← Bool.not_eq_true, isAbsolute_ofText_iff]
    exact h
  simp only [join, ha]
  rfl

theorem mem_namesOf (h : n ∈ namesOf s) (hs : '.' ∉ s.toList) : n ≠ "" ∧ '.' ∉ n.toList := by
  obtain ⟨hm, hn⟩ := List.mem_filter.mp h
  obtain ⟨cs, hcs, rfl⟩ := List.mem_map.mp hm
  constructor
  · rintro he
    simp [he] at hn
  · rw [String.toList_ofList]
    exact fun hd => hs (Text.mem_of_mem_splitOn hcs hd)

/-- A text without slashes and dots is one name, if it is not empty. -/
theorem namesOf_eq (hn : s ≠ "") (hs : '/' ∉ s.toList) (hd : '.' ∉ s.toList) :
    namesOf s = [s] := by
  have hdot : s ≠ "." := by
    rintro rfl
    exact hd (by decide)
  simp [namesOf, Text.pieces, Text.splitOn_of_not_mem hs, hn, hdot]

theorem splitName_of_no_dot (h : '.' ∉ n.toList) : splitName n = (n, "") := by
  have hstem : n.toList.reverse.dropWhile (· != '.') = [] := by
    rw [List.dropWhile_eq_nil_iff]
    intro c hc
    have : c ≠ '.' := by
      rintro rfl
      exact h (List.mem_reverse.mp hc)
    simpa using this
  simp [splitName, hstem]

theorem withSuffix?_concat {anchor : Anchor} {ps : List String} (hn : n ≠ "")
    (hd : '.' ∉ n.toList) (suffix : String) :
    withSuffix? ⟨anchor, ps ++ [n]⟩ suffix = some ⟨anchor, ps ++ [n ++ suffix]⟩ := by
  simp [withSuffix?, name, stem, hn, splitName_of_no_dot hd]

theorem below?_append (anchor : Anchor) (ps names : List String) :
    below? ⟨anchor, ps ++ names⟩ ⟨anchor, ps⟩ = some names := by
  simp [below?]

end Path

namespace FileTree

variable {t : FileTree} {l l' : Location} {p : Path} {anchor : Anchor} {ps names : List String}

/-- Names other than double dots lead down. -/
theorem foldlM_step (h : names.foldlM t.step l = .ok l') (hn : ".." ∉ names) :
    l' = l ++ names :=
  (resolve_of_walk .here h).trans (Location.resolve_of_not_mem hn)

/-- A path that goes on by names other than double dots leads below where it goes on from. -/
theorem reach_append (h : t.reach ⟨anchor, ps ++ names⟩ = .ok l') (hn : ".." ∉ names) :
    ∃ l, t.reach ⟨anchor, ps⟩ = .ok l ∧ l' = l ++ names := by
  unfold reach at h ⊢
  split at h
  · cases h
  · next hlong =>
    rw [List.foldlM_append] at h
    obtain ⟨l, hl, h⟩ := bind_eq_ok.mp h
    have hshort : ¬ longestPath < (Path.text ⟨anchor, ps⟩).utf8ByteSize := by
      have := Path.utf8ByteSize_text_le anchor ps names
      unfold longestPath at hlong ⊢
      omega
    exact ⟨l, by rw [if_neg hshort]; exact hl, foldlM_step h hn⟩

theorem isBelow_append (l : Location) (hn : names ≠ []) : isBelow l (l ++ names) = true := by
  simp [isBelow, hn]

end FileTree

namespace Registry

variable {r : Registry} {t : FileTree} {root p : Path} {segments : List String}

/-- The names that the segments of a namespace hold. -/
def names (segments : List String) : List String :=
  segments.flatMap Path.namesOf

/-- Whether no segment of a namespace starts at the root of the file system. -/
def IsRelative (segments : List String) : Prop :=
  ∀ s ∈ segments, ¬ Path.StartsAtRoot s

theorem base_relative (h : IsRelative segments) :
    base root segments = ⟨root.anchor, root.parts ++ names segments⟩ := by
  induction segments generalizing root with
  | nil => simp [base, names]
  | cons s segments ih =>
    obtain ⟨hs, h⟩ := List.forall_mem_cons.mp h
    have hb : base root (s :: segments) = base (root.join (.ofText s)) segments := rfl
    rw [hb, ih h, Path.join_relative hs]
    simp [names]

/-- A segment that starts at the root of the file system makes the library root irrelevant. -/
theorem base_of_not_relative (h : ¬ IsRelative segments) (root root' : Path) :
    base root' segments = base root segments := by
  induction segments generalizing root root' with
  | nil => exact absurd (by simp [IsRelative]) h
  | cons s segments ih =>
    change base (root'.join (.ofText s)) segments = base (root.join (.ofText s)) segments
    by_cases hs : Path.StartsAtRoot s
    · have ha := Path.isAbsolute_ofText_iff.mpr hs
      rw [Path.join_absolute ha, Path.join_absolute ha]
    · exact ih (fun hr => h (List.forall_mem_cons.mpr ⟨hs, hr⟩)) _ _

theorem firstFile?_ok {ps : List Path} (h : firstFile? t ps = .ok (some p)) :
    p ∈ ps ∧ t.isFile p = .ok true := by
  induction ps with
  | nil => cases h
  | cons q ps ih =>
    rw [firstFile?] at h
    obtain ⟨found, hf, h⟩ := bind_eq_ok.mp h
    cases found with
    | true =>
      cases h
      exact ⟨by simp, mapError_eq_ok.mp hf⟩
    | false =>
      obtain ⟨hp, hi⟩ := ih h
      exact ⟨by simp [hp], hi⟩

/-- The file of a namespace is one of its two candidates. -/
theorem modulePath_ok (hr : r.root = some root) (h : r.modulePath t segments = .ok p) :
    t.isFile p = .ok true ∧ ((base root segments).withSuffix? ".py" = some p ∨
      p = (base root segments).join "__init__.py") := by
  rw [modulePath, hr] at h
  obtain ⟨ps, hps, h⟩ := bind_eq_ok.mp h
  obtain ⟨found, hf, h⟩ := bind_eq_ok.mp h
  cases found with
  | none => cases h
  | some q =>
    cases h
    obtain ⟨hp, hi⟩ := firstFile?_ok hf
    refine ⟨hi, ?_⟩
    simp only [candidates] at hps
    split at hps
    · next file hfile =>
      cases hps
      rcases List.mem_cons.mp hp with rfl | hp
      · exact Or.inl hfile
      · exact Or.inr (List.mem_singleton.mp hp)
    · cases hps

theorem join_init (p : Path) : p.join "__init__.py" = ⟨p.anchor, p.parts ++ ["__init__.py"]⟩ :=
  Path.join_relative (by rw [Path.StartsAtRoot]; decide)

theorem mem_names (hp : IsPlain segments) {n : String} (h : n ∈ names segments) :
    n ≠ "" ∧ '.' ∉ n.toList := by
  obtain ⟨s, hs, hn⟩ := List.mem_flatMap.mp h
  exact Path.mem_namesOf hn (hp s hs)

/-- Segments that are names are the names that they hold. -/
theorem names_eq (hp : IsPlain segments) (h : ∀ s ∈ segments, s ≠ "" ∧ '/' ∉ s.toList) :
    names segments = segments := by
  induction segments with
  | nil => rfl
  | cons s segments ih =>
    obtain ⟨hps, hp⟩ := List.forall_mem_cons.mp hp
    obtain ⟨⟨hn, hs⟩, h⟩ := List.forall_mem_cons.mp h
    have hnames : names (s :: segments) = Path.namesOf s ++ names segments := rfl
    rw [hnames, Path.namesOf_eq hn hs hps, ih hp h]
    rfl

/-- How the file of a namespace stands to the library root: it is named by the names that the
segments hold, and lies strictly below the root, by its own name and where it leads. -/
structure Contained (t : FileTree) (root p : Path) (segments : List String) : Prop where
  file : ∃ init last, names segments = init ++ [last] ∧
    (p = ⟨root.anchor, root.parts ++ init ++ [last ++ ".py"]⟩ ∨
      p = ⟨root.anchor, root.parts ++ init ++ [last, "__init__.py"]⟩)
  below : ∃ rest, rest ≠ [] ∧ p.below? root = some rest
  place : ∃ l l', t.reach root = .ok l ∧ t.reach p = .ok l' ∧ FileTree.isBelow l l' = true

/-- A path that goes on from the library root by names without double dots lies below it. -/
theorem contained_of_names {init rest : List String} {last : String}
    (hn : names segments = init ++ [last]) (hrest : rest ≠ []) (hdots : ".." ∉ rest)
    (hi : t.isFile ⟨root.anchor, root.parts ++ rest⟩ = .ok true)
    (hf : rest = init ++ [last ++ ".py"] ∨ rest = init ++ [last, "__init__.py"]) :
    Contained t root ⟨root.anchor, root.parts ++ rest⟩ segments := by
  obtain ⟨-, l', c, hl', -⟩ := FileTree.entry_of_isFile hi
  obtain ⟨l, hl, rfl⟩ := FileTree.reach_append hl' hdots
  refine ⟨⟨init, last, hn, ?_⟩, ⟨rest, hrest, Path.below?_append _ _ _⟩, l, _, hl, hl',
    FileTree.isBelow_append l hrest⟩
  rcases hf with rfl | rfl
  · exact Or.inl (by rw [List.append_assoc])
  · exact Or.inr (by rw [List.append_assoc])

theorem dots_ne_program {name : String} : ".." ≠ name ++ ".py" := by
  intro he
  have hlen := congrArg String.length he
  simp only [String.length_append] at hlen
  have : ".py".length = 3 := rfl
  have : "..".length = 2 := rfl
  omega

/-- A namespace of relative segments of which one holds a name has its file below the root. -/
theorem contained_of_relative (hr : r.root = some root) (hp : IsPlain segments)
    (hrel : IsRelative segments) (hnamed : names segments ≠ [])
    (h : r.modulePath t segments = .ok p) : Contained t root p segments := by
  obtain ⟨hi, hfile⟩ := modulePath_ok hr h
  obtain ⟨init, last, hn⟩ := (List.eq_nil_or_concat _).resolve_left hnamed
  rw [List.concat_eq_append] at hn
  obtain ⟨hlast, hdot⟩ := mem_names (n := last) hp (by simp [hn])
  have hinit : ".." ∉ init := by
    intro hm
    have hmem : ".." ∈ names segments := by simp [hn, hm]
    exact (mem_names hp hmem).2 (by decide)
  have hb : base root segments = ⟨root.anchor, root.parts ++ init ++ [last]⟩ := by
    rw [base_relative hrel, hn, List.append_assoc]
  -- No segment holds a dot: no name is a double dot, and the last one has no suffix to lose.
  rw [hb, Path.withSuffix?_concat hlast hdot, join_init] at hfile
  rcases hfile with hfile | hfile
  · have hpy : ".." ≠ last ++ ".py" := dots_ne_program
    obtain rfl : p = ⟨root.anchor, root.parts ++ (init ++ [last ++ ".py"])⟩ := by
      rw [← List.append_assoc]
      exact (Option.some.inj hfile).symm
    exact contained_of_names hn (by simp) (by simp [hinit, hpy]) hi (Or.inl rfl)
  · have hne : ".." ≠ last := by
      rintro rfl
      exact hdot (by decide)
    obtain rfl : p = ⟨root.anchor, root.parts ++ (init ++ [last, "__init__.py"])⟩ := by
      simpa using hfile
    exact contained_of_names hn (by simp) (by simp [hinit, hne]) hi (Or.inr rfl)

/-- Where the file of a namespace lies: below the library root, beside it for a namespace that
holds no name, and anywhere for one that starts at the root of the file system. -/
structure Located (r : Registry) (t : FileTree) (root p : Path) (segments : List String) :
    Prop where
  named : (∀ s ∈ segments, s ≠ "" ∧ '/' ∉ s.toList) →
    IsRelative segments ∧ names segments = segments
  below : IsRelative segments → names segments ≠ [] → Contained t root p segments
  beside : IsRelative segments → names segments = [] →
    root.withSuffix? ".py" = some p ∨ p = root.join "__init__.py"
  elsewhere : ¬ IsRelative segments →
    ∀ root', { r with root := some root' }.modulePath t segments = .ok p

theorem isRelative_of_names (h : ∀ s ∈ segments, s ≠ "" ∧ '/' ∉ s.toList) :
    IsRelative segments := by
  intro s hs hroot
  exact (h s hs).2 (List.mem_of_mem_head? hroot)

/-- A namespace that starts at the root of the file system has the same file under any root. -/
theorem modulePath_of_not_relative (hr : r.root = some root) (h : ¬ IsRelative segments)
    (root' : Path) :
    { r with root := some root' }.modulePath t segments = r.modulePath t segments := by
  simp only [modulePath, candidates, hr, base_of_not_relative h root root']

theorem located_of_modulePath (hr : r.root = some root) (hp : IsPlain segments)
    (h : r.modulePath t segments = .ok p) : Located r t root p segments where
  named hs := ⟨isRelative_of_names hs, names_eq hp hs⟩
  below hrel hn := contained_of_relative hr hp hrel hn h
  beside hrel hn := by
    have hb : base root segments = root := by
      rw [base_relative hrel, hn, List.append_nil]
    have := (modulePath_ok hr h).2
    rwa [hb] at this
  elsewhere hrel root' := (modulePath_of_not_relative hr hrel root').trans h

/-- The file that provides a namespace of segments without dots is named by the segments, and
lies strictly below the library root, unless the namespace holds no name or starts at the root of
the file system. The libraries of the commands of a script are read from such files. -/
theorem files_located (hr : r.root = some root) :
    (∀ t segments p, IsPlain segments → r.modulePath t segments = .ok p →
      Located r t root p segments) ∧
    ∀ t contents source script, Script.parse contents source = .ok script →
      ∀ c ∈ script.commands, ∀ key l, r.fetch t key c.library = .ok l →
        Located r t root l.file c.library := by
  constructor
  · intro t segments p hp h
    exact located_of_modulePath hr hp h
  · intro t contents source script hs c hc key l hl
    have hp := (Script.isWritten_of_parse hs c hc).isPlain
    exact located_of_modulePath hr hp (fetch_ok hl).1

/-- A library, a file beside the directory of the libraries, and a file in another directory. -/
def street : FileTree :=
  let shop : Entry := .file (.program ⟨none, [], none⟩)
  ⟨[(["libs"], .dir), (["libs", "shop.py"], shop), (["libs.py"], shop),
    (["etc"], .dir), (["etc", "shop.py"], shop)], [], []⟩

/-- A registry of the libraries in the first directory. -/
def shops : Registry :=
  ⟨some ⟨.here, ["libs"]⟩, .leaf, []⟩

/-- The library that a command names in the usual way lies below the root. -/
theorem files_located_shop :
    shops.modulePath street ["shop"] = .ok ⟨.here, ["libs", "shop.py"]⟩ ∧
      Contained street ⟨.here, ["libs"]⟩ ⟨.here, ["libs", "shop.py"]⟩ ["shop"] := by
  have hfile : shops.modulePath street ["shop"] = .ok ⟨.here, ["libs", "shop.py"]⟩ := rfl
  have hplain : IsPlain ["shop"] := by simp [IsPlain]
  have located := (files_located (r := shops) rfl).1 street ["shop"] _ hplain hfile
  obtain ⟨hrel, hnames⟩ := located.named (by simp)
  exact ⟨hfile, located.below hrel (by simp [hnames])⟩

/-- An empty segment leads beside the root, and one that starts with a slash leads anywhere. -/
theorem files_outside :
    ∃ script, Script.parse ".open\n/etc/shop.open" none = .ok script ∧
      script.commands.map (·.library) = [[""], ["/etc/shop"]] ∧
      ∀ c ∈ script.commands, ∃ l r, shops.load street c.library = (.ok l, r) ∧
        ¬ Contained street ⟨.here, ["libs"]⟩ l.file c.library := by
  refine ⟨_, rfl, rfl, ?_⟩
  refine List.forall_mem_cons.mpr
    ⟨⟨_, _, rfl, ?_⟩, List.forall_mem_singleton.mpr ⟨_, _, rfl, ?_⟩⟩
  · intro h
    obtain ⟨rest, -, hbelow⟩ := h.below
    cases hbelow
  · intro h
    obtain ⟨rest, -, hbelow⟩ := h.below
    cases hbelow

end Registry

end TapScript
