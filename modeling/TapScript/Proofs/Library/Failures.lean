import TapScript.Proofs.Files.Overlong
import TapScript.Proofs.Library.Cache
import TapScript.Proofs.Script.Findings

/-! # How failures of libraries are reported

A library that cannot be found or loaded is a problem of the command that names it. Loading the
libraries of a script ends with that problem, at the place of the command; validation lists it and
goes on. Only a library that cannot even be looked for is not reported: the paths of its files have
no name to put a suffix on, or are too long. Nor does validation report a library that is there and
does not tell its commands.
-/

namespace TapScript

open Outcome

theorem Path.withSuffix?_eq_none {p : Path} {s : String} :
    p.withSuffix? s = none ↔ p.name = "" := by
  unfold withSuffix?
  split <;> simp_all

namespace Registry

/-- Why the files of a namespace cannot be looked for below a root. The file of a package is looked
for only if there is no module. -/
inductive IsUnsearchable (t : FileTree) (root : Path) (segments : List String) : Mishap → Prop
  | nameless (nameless : (base root segments).name = "") :
      IsUnsearchable t root segments (.noName (base root segments).text)
  | module {file} (suffixed : (base root segments).withSuffix? ".py" = some file)
      (overlong : t.IsOverlong file) :
      IsUnsearchable t root segments (.file ⟨.nameTooLong, file.text⟩)
  | package {file} (suffixed : (base root segments).withSuffix? ".py" = some file)
      (absent : t.isFile file = .ok false)
      (overlong : t.IsOverlong ((base root segments).join "__init__.py")) :
      IsUnsearchable t root segments
        (.file ⟨.nameTooLong, ((base root segments).join "__init__.py").text⟩)

/-- Whether a registry does not have the library of a namespace and cannot look for it. -/
def Strands (r : Registry) (t : FileTree) (segments : List String) (m : Mishap) : Prop :=
  ¬ r.Holds segments ∧ ∃ root, r.root = some root ∧ IsUnsearchable t root segments m

/-- Whether loading the libraries of some commands comes to one of them: those before it have
theirs. -/
structure ComesTo (r' : Registry) (cs : List Command) (c : Command) : Prop where
  split : ∃ before after, cs = before ++ c :: after ∧
    ∀ b ∈ before, b.library ≠ [] → r'.Holds b.library
  named : c.library ≠ []

/-- How loading the libraries of some commands into a registry ends, and with which registry. -/
inductive Prepared (t : FileTree) (cs : List Command) (r : Registry) :
    Except Fault (List Library) → Registry → Prop
  | loaded {ls r'} (grows : r.Extends r') (held : ∀ c ∈ cs, c.library ≠ [] → r'.Holds c.library) :
      Prepared t cs r (.ok ls) r'
  | reported {c p r'} (grows : r.Extends r') (comes : r'.ComesTo cs c)
      (fails : (r'.load t c.library).1 = .error (.ofProblem p))
      (category : p.category = .libraryLoad) :
      Prepared t cs r (.error (c.fault p)) r'
  | stranded {c m r'} (grows : r.Extends r') (comes : r'.ComesTo cs c)
      (strands : r'.Strands t c.library m) :
      Prepared t cs r (.error (.mishap m)) r'

variable {r r' : Registry} {t : FileTree} {root p q : Path} {segments : List String} {f : Fault}
  {m : Mishap} {key : String}

theorem mapError_isFile_eq_error : (t.isFile p).mapError .ofFile = .error f ↔
    t.IsOverlong p ∧ f = .mishap (.file ⟨.nameTooLong, p.text⟩) := by
  rw [mapError_eq_error]
  constructor
  · rintro ⟨e, he, rfl⟩
    obtain ⟨ho, rfl⟩ := FileTree.probe_eq_error_iff.mp he
    exact ⟨ho, rfl⟩
  · rintro ⟨ho, rfl⟩
    exact ⟨_, FileTree.probe_eq_error_iff.mpr ⟨ho, rfl⟩, rfl⟩

theorem firstFile?_pair_eq_error : firstFile? t [p, q] = .error f ↔
    (t.IsOverlong p ∧ f = .mishap (.file ⟨.nameTooLong, p.text⟩)) ∨
      t.isFile p = .ok false ∧ t.IsOverlong q ∧ f = .mishap (.file ⟨.nameTooLong, q.text⟩) := by
  have hlast : firstFile? t [q] = .error f ↔ (t.isFile q).mapError .ofFile = .error f := by
    rw [firstFile?, bind_eq_error]
    refine or_iff_left ?_
    rintro ⟨_ | _, -, ⟨⟩⟩
  rw [firstFile?, bind_eq_error, mapError_isFile_eq_error, ← mapError_isFile_eq_error (p := q),
    ← hlast]
  simp only [mapError_eq_ok, Bool.exists_bool, Bool.false_eq_true, if_false, if_true]
  refine or_congr_right (or_iff_left ?_)
  rintro ⟨-, ⟨⟩⟩

/-- The files of a namespace are looked for, unless that is refused. -/
theorem modulePath_eq_mishap_of_root (hr : r.root = some root) :
    r.modulePath t segments = .error (.mishap m) ↔ IsUnsearchable t root segments m := by
  rw [modulePath, hr]
  dsimp only
  cases hb : (base root segments).withSuffix? ".py" with
  | none =>
    have hc : candidates root segments = .error (.mishap (.noName (base root segments).text)) := by
      simp only [candidates, hb]
    rw [hc]
    constructor
    · rintro ⟨⟩
      exact .nameless (Path.withSuffix?_eq_none.mp hb)
    · intro h
      cases h with
      | nameless => rfl
      | module hs => cases hb.symm.trans hs
      | package hs => cases hb.symm.trans hs
  | some file =>
    have hc : candidates root segments = .ok [file, (base root segments).join "__init__.py"] := by
      simp only [candidates, hb]
    rw [hc]
    change (firstFile? t [file, (base root segments).join "__init__.py"] >>= _) = _ ↔ _
    constructor
    · intro h
      obtain h | ⟨found, -, h⟩ := bind_eq_error.mp h
      · obtain ⟨ho, ⟨⟩⟩ | ⟨ha, ho, ⟨⟩⟩ := firstFile?_pair_eq_error.mp h
        · exact .module hb ho
        · exact .package hb ha ho
      · cases found <;> cases h
    · intro h
      refine bind_eq_error.mpr (.inl (firstFile?_pair_eq_error.mpr ?_))
      cases h with
      | nameless hn => cases hb.symm.trans (Path.withSuffix?_eq_none.mpr hn)
      | module hs ho =>
        obtain rfl := Option.some.inj (hb.symm.trans hs)
        exact .inl ⟨ho, rfl⟩
      | package hs ha ho =>
        obtain rfl := Option.some.inj (hb.symm.trans hs)
        exact .inr ⟨ha, ho, rfl⟩

/-- Only the search for its file can keep a library from being read without a report. -/
theorem fetch_eq_mishap_iff (key : String) : r.fetch t key segments = .error (.mishap m) ↔
    r.modulePath t segments = .error (.mishap m) := by
  rw [fetch, bind_eq_error]
  refine or_iff_left ?_
  rintro ⟨file, -, h⟩
  obtain h | ⟨module, -, h⟩ := bind_eq_error.mp h
  · obtain ⟨x, -, ⟨⟩⟩ := mapError_eq_error.mp h
  · split at h <;> cases h

theorem modulePath_eq_mishap : r.modulePath t segments = .error (.mishap m) ↔
    ∃ root, r.root = some root ∧ IsUnsearchable t root segments m := by
  cases hr : r.root with
  | none => simp [modulePath, hr, Fault.ofProblem]
  | some root => simp [modulePath_eq_mishap_of_root hr]

theorem exists_key (hn : segments ≠ []) (r : Registry) : ∃ key, r.key segments = .ok key := by
  unfold key
  split
  · exact ⟨_, rfl⟩
  · exact ⟨_, rfl⟩
  · next h => exact absurd (List.getLast?_eq_none_iff.mp h) hn

/-- Loading a library ends without a report exactly if the namespace strands the registry. -/
theorem load_eq_mishap_iff (hn : segments ≠ []) :
    (r.load t segments).1 = .error (.mishap m) ↔ r.Strands t segments m := by
  obtain ⟨key, hk⟩ := exists_key hn r
  cases hl : r.loaded.lookup key with
  | some l =>
    rw [load_of_lookup hn hk hl]
    exact iff_of_false nofun fun h => h.1 ⟨hn, key, l, hk, hl⟩
  | none =>
    have hh : ¬ r.Holds segments := by
      rintro ⟨-, key', l, hk', hl'⟩
      obtain rfl := Except.ok.inj (hk.symm.trans hk')
      cases hl.symm.trans hl'
    rw [Strands, and_iff_right hh, ← modulePath_eq_mishap, ← fetch_eq_mishap_iff key]
    simp only [load, if_neg hn, hk, hl]
    cases r.fetch t key segments <;> simp

/-- All ways in which loading the library of a command ends. -/
theorem load_reports (hn : segments ≠ []) (r : Registry) (t : FileTree) :
    (∃ l, (r.load t segments).1 = .ok l) ∨
    (∃ p : Problem, p.category = .libraryLoad ∧ r.load t segments = (.error (.ofProblem p), r)) ∨
    ∃ m, r.Strands t segments m ∧ r.load t segments = (.error (.mishap m), r) := by
  rcases hl : r.load t segments with ⟨f | l, r'⟩
  · obtain rfl := load_error_eq hl
    obtain ⟨p, hp, rfl⟩ | ⟨m, rfl⟩ := load_error hn hl
    · exact .inr (.inl ⟨p, hp, rfl⟩)
    · exact .inr (.inr ⟨m, (load_eq_mishap_iff hn).mp (congrArg Prod.fst hl), rfl⟩)
  · exact .inl ⟨l, rfl⟩

theorem prepare_prepared (t : FileTree) (cs : List Command) (r : Registry) :
    Prepared t cs r (prepare t cs r).1 (prepare t cs r).2 := by
  have hgrows := prepare_extends t cs r
  rcases h : prepare t cs r with ⟨f | ls, r'⟩
  · rw [h] at hgrows
    obtain ⟨before, c, after, ls, f₀, hcs, hn, hp, hl, rfl⟩ := prepare_error h
    have hcomes : r'.ComesTo cs c := ⟨⟨before, after, hcs, holds_of_prepare hp⟩, hn⟩
    obtain ⟨l, hok⟩ | ⟨p, hc, herror⟩ | ⟨m, hs, herror⟩ := load_reports hn r' t
    · rw [hl] at hok
      cases hok
    · obtain ⟨⟩ := hl.symm.trans herror
      rw [Fault.ofProblem, blame, if_pos hc]
      exact .reported hgrows hcomes (congrArg Prod.fst herror) hc
    · obtain ⟨⟩ := hl.symm.trans herror
      exact .stranded hgrows hcomes hs
  · rw [h] at hgrows
    exact .loaded hgrows (holds_of_prepare h)

end Registry

namespace Command

/-- Whether validation looks for the library of a command. -/
def CallsLibrary (c : Command) : Prop :=
  c.IsFree ∧ c.library ≠ []

instance (c : Command) : Decidable c.CallsLibrary :=
  inferInstanceAs (Decidable ((_ ∨ _) ∧ _))

/-- Why nothing is found about a command: its library cannot be looked for, or it is there and
does not tell its commands. -/
inductive IsUntold (t : FileTree) (r : Registry) (c : Command) : Mishap → Prop
  | stranded {m} (strands : r.Strands t c.library m) : IsUntold t r c m
  | unlisted {l m} (loaded : (r.load t c.library).1 = .ok l)
      (unlisted : l.module.explicit = some (.error m)) : IsUntold t r c m

end Command

namespace Script

variable {t : FileTree} {cs before after : List Command} {c : Command} {r : Registry} {f : Fault}
  {m : Mishap} {x report : Report}

/-- The registry after some commands were checked. -/
def registryAfter (t : FileTree) (cs : List Command) (r : Registry) : Registry :=
  cs.foldl (fun r c => if c.CallsLibrary then (r.load t c.library).2 else r) r

/-- Whether validation comes to a command about whose library nothing can be found. -/
def IsUntoldAt (t : FileTree) (cs : List Command) (r : Registry) (m : Mishap) : Prop :=
  ∃ before c after, cs = before ++ c :: after ∧ c.CallsLibrary ∧
    c.IsUntold t (registryAfter t before r) m

/-- How the validation of some commands ends. -/
structure Validated (t : FileTree) (cs : List Command) (r : Registry) (res : Except Fault Report) :
    Prop where
  returns : (¬ ∃ m, IsUntoldAt t cs r m) → ∃ report, res = .ok report
  escapes : (∃ m, IsUntoldAt t cs r m) → ∃ m, IsUntoldAt t cs r m ∧ res = .error (.mishap m)
  /-- A library that cannot be loaded makes one entry, between what is found before and after. -/
  listed : ∀ report, res = .ok report → ∀ before c after f, cs = before ++ c :: after →
    c.CallsLibrary → ((registryAfter t before r).load t c.library).1 = .error f →
    ∃ p x y, p.category = .libraryLoad ∧ f = .ofProblem p ∧ checkAll t before (some r) = .ok x ∧
      checkAll t after (some (registryAfter t before r)) = .ok y ∧
      report = x ++ .error (c.atLine p.message) ++ y

theorem registryAfter_append : registryAfter t (before ++ after) r =
    registryAfter t after (registryAfter t before r) :=
  List.foldl_append

theorem registryAfter_of_callsLibrary (h : c.CallsLibrary) :
    registryAfter t [c] r = (r.load t c.library).2 :=
  if_pos h

/-- A command whose library cannot be loaded makes one entry. -/
theorem check_of_problem {p : Problem} (h : c.CallsLibrary) (hp : p.category = .libraryLoad)
    (hl : r.load t c.library = (.error (.ofProblem p), r)) :
    c.check t (some r) = (.ok (.error (c.atLine p.message)), some r) := by
  rw [Command.check_library h.1 h.2, Command.checkLibrary, hl]
  simp only [Fault.ofProblem, if_pos hp]

/-- What a library lists is found, unless it does not tell its commands. -/
theorem checkListed_eq_error_iff {l : Library} : c.checkListed l = .error f ↔
    ∃ m, l.module.explicit = some (.error m) ∧ f = .mishap m := by
  have hprovides : l.module.provides c.verb = .error f ↔ l.module.commands = .error f := by
    rw [Module.provides, bind_eq_error]
    exact or_iff_left (by rintro ⟨listed, -, ⟨⟩⟩)
  rw [← Module.commands_eq_error_iff, ← hprovides, Command.checkListed, bind_eq_error]
  refine or_iff_left ?_
  rintro ⟨_ | _, -, ⟨⟩⟩

/-- All that can be found about a command that calls a library. -/
theorem check_callsLibrary (h : c.CallsLibrary) :
    ((∀ m, ¬ c.IsUntold t r m) ∧
      ∃ found, c.check t (some r) = (.ok found, some (r.load t c.library).2)) ∨
    ∃ m, c.IsUntold t r m ∧ (c.check t (some r)).1 = .error (.mishap m) := by
  obtain ⟨l, hl⟩ | ⟨p, hp, hl⟩ | ⟨m, hm, hl⟩ := Registry.load_reports h.2 r t
  · have hcheck : c.check t (some r) = (c.checkListed l, some (r.load t c.library).2) := by
      rw [Command.check_library h.1 h.2, Command.checkLibrary]
      rcases hr : r.load t c.library with ⟨_, r'⟩
      rw [hr] at hl
      cases hl
      rfl
    cases hc : c.checkListed l with
    | ok found =>
      refine .inl ⟨?_, found, by rw [hcheck, hc]⟩
      rintro m (hs | ⟨hl', hm⟩)
      · cases hl.symm.trans ((Registry.load_eq_mishap_iff h.2).mpr hs)
      · obtain rfl := Except.ok.inj (hl.symm.trans hl')
        cases hc.symm.trans (checkListed_eq_error_iff.mpr ⟨m, hm, rfl⟩)
    | error f =>
      obtain ⟨m, hm, rfl⟩ := checkListed_eq_error_iff.mp hc
      exact .inr ⟨m, .unlisted hl hm, by rw [hcheck, hc]⟩
  · refine .inl ⟨?_, _, by rw [check_of_problem h hp hl, hl]⟩
    rintro m (hs | ⟨hl', -⟩)
    · cases (congrArg Prod.fst hl).symm.trans ((Registry.load_eq_mishap_iff h.2).mpr hs)
    · cases (congrArg Prod.fst hl).symm.trans hl'
  · refine .inr ⟨_, .stranded hm, ?_⟩
    rw [Command.check_library h.1 h.2, Command.checkLibrary, hl]

/-- Something is found about every command, unless nothing is told of its library. -/
theorem check_cases (t : FileTree) (c : Command) (r : Registry) :
    ((c.CallsLibrary → ∀ m, ¬ c.IsUntold t r m) ∧
      ∃ found, c.check t (some r) = (.ok found, some (registryAfter t [c] r))) ∨
    ∃ m, c.CallsLibrary ∧ c.IsUntold t r m ∧ (c.check t (some r)).1 = .error (.mishap m) := by
  by_cases hc : c.CallsLibrary
  · rw [registryAfter_of_callsLibrary hc]
    exact (check_callsLibrary hc).imp (fun h => ⟨fun _ => h.1, h.2⟩) fun ⟨m, h⟩ => ⟨m, hc, h⟩
  · refine .inl ⟨fun h => absurd h hc, ?_⟩
    have hr : registryAfter t [c] r = r := if_neg hc
    rw [hr]
    obtain ⟨b, hb, hne⟩ | hf := c.builtin_cases
    · exact ⟨_, Command.check_builtin hb hne⟩
    · exact ⟨_, Command.check_bare hf (by_contra fun hl => hc ⟨hf, hl⟩)⟩

theorem registryAfter_of_check {found : Report} {r'? : Option Registry}
    (h : c.check t (some r) = (.ok found, r'?)) : r'? = some (registryAfter t [c] r) := by
  obtain ⟨-, found', h'⟩ | ⟨m, -, -, h'⟩ := check_cases t c r
  · exact congrArg Prod.snd (h.symm.trans h')
  · rw [h] at h'
    cases h'

/-- Validation goes command by command, with the registry that those before leave. -/
theorem checkAll_split (h : checkAll t (before ++ c :: after) (some r) = .ok report) :
    ∃ x found y, checkAll t before (some r) = .ok x ∧
      c.check t (some (registryAfter t before r)) =
        (.ok found, some (registryAfter t (before ++ [c]) r)) ∧
      checkAll t after (some (registryAfter t (before ++ [c]) r)) = .ok y ∧
      report = x ++ found ++ y := by
  induction before generalizing r report with
  | nil =>
    obtain ⟨found, r'?, rest, hc, hr, rfl⟩ := checkAll_cons h
    obtain rfl := registryAfter_of_check hc
    exact ⟨{}, found, rest, rfl, hc, hr, rfl⟩
  | cons b before ih =>
    obtain ⟨found, r'?, rest, hb, hr, rfl⟩ := checkAll_cons h
    obtain rfl := registryAfter_of_check hb
    obtain ⟨x, found', y, hx, hc, hy, rfl⟩ := ih hr
    refine ⟨found ++ x, found', y, ?_, hc, hy, ?_⟩
    · rw [checkAll, hb]
      simp only [hx]
      rfl
    · simp only [Report.append_assoc]

theorem isUntoldAt_of_error (h : checkAll t cs (some r) = .error f) :
    ∃ m, IsUntoldAt t cs r m ∧ f = .mishap m := by
  induction cs generalizing r with
  | nil => cases h
  | cons c cs ih =>
    rw [checkAll] at h
    obtain ⟨-, found, hc⟩ | ⟨m, hcalls, hs, hc⟩ := check_cases t c r
    · rw [hc] at h
      cases hr : checkAll t cs (some (registryAfter t [c] r)) with
      | ok rest =>
        simp only [hr] at h
        cases h
      | error g =>
        simp only [hr] at h
        cases h
        obtain ⟨m, ⟨before, d, after, rfl, hd, hs⟩, rfl⟩ := ih hr
        exact ⟨m, ⟨c :: before, d, after, rfl, hd, hs⟩, rfl⟩
    · rcases hcheck : c.check t (some r) with ⟨x, r'?⟩
      rw [hcheck] at hc h
      cases hc
      cases h
      exact ⟨m, ⟨[], c, cs, rfl, hcalls, hs⟩, rfl⟩

theorem not_isUntoldAt_of_ok (h : checkAll t cs (some r) = .ok report) : ¬ IsUntoldAt t cs r m := by
  rintro ⟨before, c, after, rfl, hcalls, hs⟩
  obtain ⟨x, found, y, -, hc, -, -⟩ := checkAll_split h
  obtain ⟨hn, -⟩ | ⟨m, -, -, h'⟩ := check_cases t c (registryAfter t before r)
  · exact hn hcalls m hs
  · rw [hc] at h'
    cases h'

theorem checkAll_validated (t : FileTree) (cs : List Command) (r : Registry) :
    Validated t cs r (checkAll t cs (some r)) where
  returns hn := by
    cases h : checkAll t cs (some r) with
    | ok report => exact ⟨report, rfl⟩
    | error f =>
      obtain ⟨m, hm, -⟩ := isUntoldAt_of_error h
      exact absurd ⟨m, hm⟩ hn
  escapes hs := by
    cases h : checkAll t cs (some r) with
    | ok report =>
      obtain ⟨m, hs⟩ := hs
      exact absurd hs (not_isUntoldAt_of_ok h)
    | error f =>
      obtain ⟨m, hm, rfl⟩ := isUntoldAt_of_error h
      exact ⟨m, hm, rfl⟩
  listed report h before c after f hcs hcalls hl := by
    subst hcs
    obtain ⟨x, found, y, hx, hc, hy, rfl⟩ := checkAll_split h
    rw [registryAfter_append, registryAfter_of_callsLibrary hcalls] at hc hy
    obtain ⟨l, hok⟩ | ⟨p, hp, herror⟩ | ⟨m, hs, -⟩ :=
      Registry.load_reports hcalls.2 (registryAfter t before r) t
    · cases hl.symm.trans hok
    · rw [check_of_problem hcalls hp herror] at hc
      rw [herror] at hl hy
      obtain rfl := Except.ok.inj (congrArg Prod.fst hc)
      cases hl
      exact ⟨p, x, y, hp, rfl, hx, hy, rfl⟩
    · exact absurd ⟨before, c, after, rfl, hcalls, .stranded hs⟩ (not_isUntoldAt_of_ok h)

/-- A registry of libraries in the working directory. -/
def localLibraries : Registry :=
  ⟨some (.ofText "."), .leaf, []⟩

end Script

end TapScript
