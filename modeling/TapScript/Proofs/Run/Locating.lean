import TapScript.Proofs.Files.Overlong
import TapScript.Proofs.Library.Containment
import TapScript.Proofs.Run.Nesting

/-! # Where scripts are found

A script with a relative name is looked for where the name leads, and then beside the script that
includes it. The first of these places that holds a file is the one to run. A directory where the
name leads hides a file in the other place, and so does a name that is too long for any place.
-/

namespace TapScript

/-- Whether a path starts with a name that stands for a home directory. -/
def Path.NamesHome (p : Path) : Prop :=
  ∃ user rest, p = ⟨.here, String.ofList ('~' :: user) :: rest⟩

namespace FileTree

variable {t : FileTree} {p q : Path} {test : Entry → Bool} {source : Option Path}

/-- What looking for a path comes to: it is refused, or there is nothing there, or an entry. -/
inductive Sight (t : FileTree) (p : Path) : Prop
  | refused (overlong : t.IsOverlong p)
      (seen : ∀ test, t.probe p test = .error ⟨.nameTooLong, p.text⟩)
  | nothing (seen : ∀ test, t.probe p test = .ok false)
  | entry (e : Entry) (seen : ∀ test, t.probe p test = .ok (test e))

theorem sight (t : FileTree) (p : Path) : t.Sight p := by
  by_cases ho : t.IsOverlong p
  · exact .refused ho fun test => probe_eq_error_iff.mpr ⟨ho, rfl⟩
  by_cases hp : '\x00' ∈ p.text.toList
  · refine .nothing fun test => ?_
    unfold probe
    rw [if_pos (List.contains_iff_mem.mpr hp)]
  cases hs : t.status p with
  | ok e =>
    refine .entry e fun test => ?_
    unfold probe
    rw [if_neg fun h => hp (List.contains_iff_mem.mp h), hs]
  | error cause =>
    refine .nothing fun test => ?_
    cases hr : t.probe p test with
    | error e => exact absurd (probe_eq_error_iff.mp hr).1 ho
    | ok found =>
      unfold probe at hr
      rw [if_neg fun h => hp (List.contains_iff_mem.mp h), hs] at hr
      cases cause <;> cases hr <;> rfl

theorem not_isOverlong {b : Bool} (h : t.exists? p = .ok b) : ¬ t.IsOverlong p := by
  intro ho
  cases h.symm.trans (probe_eq_error_iff.mpr ⟨ho, rfl⟩)

theorem expandHome_of_not_namesHome (h : ¬ p.NamesHome) : t.expandHome p = .ok p := by
  unfold expandHome
  split
  · next first rest ha hp =>
    split
    · next user hu =>
      refine absurd ⟨user, rest, ?_⟩ h
      rw [← hu, String.ofList_toList, ← ha, ← hp]
    · rfl
  · rfl

/-- A path without a tilde is not one into the home directory of a user. -/
theorem expandHome_of_plain {name : String} (h : '~' ∉ name.toList) :
    t.expandHome (.ofText name) = .ok (.ofText name) := by
  refine expandHome_of_not_namesHome ?_
  rintro ⟨user, rest, hp⟩
  have hfirst : String.ofList ('~' :: user) ∈ Path.namesOf name := by
    have hparts : Path.namesOf name = String.ofList ('~' :: user) :: rest :=
      congrArg Path.parts hp
    simp [hparts]
  obtain ⟨cs, hcs, htilde⟩ := List.mem_map.mp (List.mem_filter.mp hfirst).1
  have hmem : '~' ∈ cs := by
    rw [String.ofList_injective htilde]
    exact List.mem_cons_self
  exact h (Text.mem_of_mem_splitOn hcs hmem)

/-- The places of a script: where its name leads, and beside the script that includes it. -/
def scriptPlaces (q : Path) (source : Option Path) : List Path :=
  q :: (source.map fun p => p.parent.join q).toList

/-- The first of the places of a script that holds a file. -/
def firstScript? (t : FileTree) (q : Path) (source : Option Path) : Option Path :=
  (scriptPlaces q source).find? fun p => t.isFile p = .ok true

theorem firstScript?_here (h : t.isFile q = .ok true) : t.firstScript? q source = some q := by
  simp [firstScript?, scriptPlaces, h]

theorem firstScript?_alone (h : t.isFile q ≠ .ok true) : t.firstScript? q none = none := by
  simp [firstScript?, scriptPlaces, h]

theorem firstScript?_beside (h : t.isFile q ≠ .ok true)
    (hb : t.isFile (p.parent.join q) = .ok true) :
    t.firstScript? q (some p) = some (p.parent.join q) := by
  simp [firstScript?, scriptPlaces, h, hb]

theorem firstScript?_nowhere (h : t.isFile q ≠ .ok true)
    (hb : t.isFile (p.parent.join q) ≠ .ok true) : t.firstScript? q (some p) = none := by
  simp [firstScript?, scriptPlaces, h, hb]

end FileTree

namespace Setup

open Engine Procedure FileTree

variable {σ ε : Type}

/-- What hides the places of the script that a command names, with the fault that comes of it. -/
inductive Hides (t : FileTree) (c : Command) (q : Path) : Fault → Prop
  | directory {p} (here : t.isDir q = .ok true) (including : c.source = some p)
      (beside : t.isFile (p.parent.join q) = .ok true) :
      Hides t c q (c.fault (.scriptNotFound q.text))
  | overlong (here : t.IsOverlong q) : Hides t c q (.mishap (.file ⟨.nameTooLong, q.text⟩))
  | overlongBeside {p} (here : t.exists? q = .ok false) (including : c.source = some p)
      (beside : t.IsOverlong (p.parent.join q)) :
      Hides t c q (.mishap (.file ⟨.nameTooLong, (p.parent.join q).text⟩))

/-- The file of the script that a command names. -/
def scriptFile (t : FileTree) (c : Command) (name : Token) : Except Fault Path := do
  let path ← scriptPath t name.text c.source
  if ← (t.isFile path).mapError Fault.ofFile then return path
  throw (c.fault (.scriptNotFound path.text))

/-- Whether a script is found if it is there: the file in the first of its places that holds one,
or the problem that it is in none of them. -/
structure Finds (t : FileTree) (c : Command) (q : Path) (r : Except Fault Path) : Prop where
  found : ∀ p, t.firstScript? q c.source = some p → r = .ok p
  absent : t.firstScript? q c.source = none →
    ∃ p ∈ scriptPlaces q c.source, r = .error (c.fault (.scriptNotFound p.text))

variable {t : FileTree} {c : Command} {name : Token} {q p : Path} {f : Fault}

theorem finds_absent (h : t.firstScript? q c.source = none) (hp : p ∈ scriptPlaces q c.source) :
    Finds t c q (.error (c.fault (.scriptNotFound p.text))) where
  found p' h' := by
    rw [h] at h'
    cases h'
  absent _ := ⟨p, hp, rfl⟩

theorem scriptFile_of_path {path : Path} {b : Bool}
    (hp : scriptPath t name.text c.source = .ok path) (hf : t.isFile path = .ok b) :
    scriptFile t c name =
      if b then .ok path else .error (c.fault (.scriptNotFound path.text)) := by
  simp only [scriptFile, hp, hf, bind, Except.bind, Outcome.mapError_ok]
  rfl

theorem scriptFile_of_path_error (hp : scriptPath t name.text c.source = .error f) :
    scriptFile t c name = .error f := by
  simp only [scriptFile, hp, bind, Except.bind]

section

variable (hq : t.expandHome name.text = .ok q) (hr : q.isAbsolute = false)
include hq hr

theorem scriptPath_eq {source : Option Path} : scriptPath t name.text source =
    (t.exists? q).mapError Fault.ofFile >>= fun here =>
      if here then pure q else match source with
        | none => pure q
        | some p => (t.exists? (p.parent.join q)).mapError Fault.ofFile >>= fun beside =>
            pure (if beside then p.parent.join q else q) := by
  unfold scriptPath
  rw [hq]
  simp only [Outcome.mapError_ok, bind, Except.bind, hr]
  rfl

theorem scriptFile_of_refused (h : t.IsOverlong q) :
    scriptFile t c name = .error (.mishap (.file ⟨.nameTooLong, q.text⟩)) := by
  have he : t.exists? q = _ := probe_eq_error_iff.mpr ⟨h, rfl⟩
  apply scriptFile_of_path_error
  rw [scriptPath_eq hq hr, he]
  rfl

theorem scriptFile_of_entry {e : Entry} (seen : ∀ test, t.probe q test = .ok (test e)) :
    scriptFile t c name =
      if e.isFile then .ok q else .error (c.fault (.scriptNotFound q.text)) := by
  have he : t.exists? q = .ok true := seen _
  refine scriptFile_of_path ?_ (seen _)
  rw [scriptPath_eq hq hr, he]
  rfl

theorem scriptFile_of_nothing (h : ∀ test, t.probe q test = .ok false) (hs : c.source = none) :
    scriptFile t c name = .error (c.fault (.scriptNotFound q.text)) := by
  have he : t.exists? q = .ok false := h _
  refine scriptFile_of_path (b := false) ?_ (h _)
  rw [scriptPath_eq hq hr, he, hs]
  rfl

section

variable (he : t.exists? q = .ok false) (hs : c.source = some p)
include he hs

theorem scriptFile_beside_refused (h : t.IsOverlong (p.parent.join q)) :
    scriptFile t c name =
      .error (.mishap (.file ⟨.nameTooLong, (p.parent.join q).text⟩)) := by
  have hb : t.exists? (p.parent.join q) = _ := probe_eq_error_iff.mpr ⟨h, rfl⟩
  apply scriptFile_of_path_error
  rw [scriptPath_eq hq hr, he, hs]
  simp only [hb, bind, Except.bind, Outcome.mapError_ok]
  rfl

theorem scriptFile_beside_entry {e : Entry}
    (seen : ∀ test, t.probe (p.parent.join q) test = .ok (test e)) :
    scriptFile t c name = if e.isFile then .ok (p.parent.join q)
      else .error (c.fault (.scriptNotFound (p.parent.join q).text)) := by
  have hb : t.exists? (p.parent.join q) = .ok true := seen _
  refine scriptFile_of_path ?_ (seen _)
  rw [scriptPath_eq hq hr, he, hs]
  simp only [hb, bind, Except.bind, Outcome.mapError_ok]
  rfl

theorem scriptFile_beside_nothing (hf : t.isFile q = .ok false)
    (h : ∀ test, t.probe (p.parent.join q) test = .ok false) :
    scriptFile t c name = .error (c.fault (.scriptNotFound q.text)) := by
  have hb : t.exists? (p.parent.join q) = .ok false := h _
  refine scriptFile_of_path (b := false) ?_ hf
  rw [scriptPath_eq hq hr, he, hs]
  simp only [hb, bind, Except.bind, Outcome.mapError_ok]
  rfl

end

theorem scriptFile_of_hides (h : Hides t c q f) : scriptFile t c name = .error f := by
  cases h with
  | overlong here => exact scriptFile_of_refused hq hr here
  | overlongBeside here including beside =>
    exact scriptFile_beside_refused hq hr here including beside
  | directory here including beside =>
    cases t.sight q with
    | refused _ seen => cases (seen _).symm.trans here
    | nothing seen => cases (seen _).symm.trans here
    | entry e seen =>
      rw [scriptFile_of_entry hq hr seen]
      cases e with
      | dir => rfl
      | file _ => cases (seen _).symm.trans here

/-- A script whose places are not hidden is found if it is there. -/
theorem finds_of_not_hides (h : ¬ ∃ f, Hides t c q f) : Finds t c q (scriptFile t c name) := by
  cases t.sight q with
  | refused overlong _ => exact absurd ⟨_, .overlong overlong⟩ h
  | entry e seen =>
    rw [scriptFile_of_entry hq hr seen]
    have hf : t.isFile q = .ok e.isFile := seen _
    cases e with
    | file _ =>
      have hfirst : t.firstScript? q c.source = some q := firstScript?_here hf
      constructor <;> simp [hfirst, Entry.isFile]
    | dir =>
      have hn : t.isFile q ≠ .ok true := by simp [hf, Entry.isFile]
      refine finds_absent ?_ List.mem_cons_self
      cases hs : c.source with
      | none => exact firstScript?_alone hn
      | some p =>
        refine firstScript?_nowhere hn fun hb => ?_
        exact h ⟨_, .directory (seen _) hs hb⟩
  | nothing seen =>
    have hn : t.isFile q ≠ .ok true := by simp [FileTree.isFile, seen]
    cases hs : c.source with
    | none =>
      rw [scriptFile_of_nothing hq hr seen hs]
      refine finds_absent ?_ List.mem_cons_self
      rw [hs]
      exact firstScript?_alone hn
    | some p =>
      cases t.sight (p.parent.join q) with
      | refused overlong _ => exact absurd ⟨_, .overlongBeside (seen _) hs overlong⟩ h
      | nothing beside =>
        rw [scriptFile_beside_nothing hq hr (seen _) hs (seen _) beside]
        refine finds_absent ?_ List.mem_cons_self
        rw [hs]
        exact firstScript?_nowhere hn (by simp [FileTree.isFile, beside])
      | entry e beside =>
        rw [scriptFile_beside_entry hq hr (seen _) hs beside]
        have hf : t.isFile (p.parent.join q) = .ok e.isFile := beside _
        cases e with
        | file _ =>
          have hfirst : t.firstScript? q c.source = some (p.parent.join q) := by
            rw [hs]
            exact firstScript?_beside hn hf
          constructor <;> simp [hfirst, Entry.isFile]
        | dir =>
          refine finds_absent ?_ (by simp [scriptPlaces, hs])
          rw [hs]
          exact firstScript?_nowhere hn (by simp [hf, Entry.isFile])

end

variable (e : Setup σ ε) (run : Nat → List Command → Engine σ ε Unit) {rest : List Token}
  {d : Nat} {s : RunState σ ε}

/-- Above the limit a command runs the script that its name leads to, or fails and does nothing. -/
theorem dispatch_including (hb : c.builtin? = some .runScript) (hc : c.args = name :: rest)
    (hd : (d : Int) < e.execution.maxDepth) : (e.dispatch (e.including run d) c).run s =
      match scriptFile s.world.files c name with
      | .ok path => (readAndRun (run (d + 1)) path).run s
      | .error f => (.error f, s) := by
  rw [including_of_lt hd]
  unfold dispatch
  rw [hb]
  change (e.runScript (some (readAndRun (run (d + 1)))) c).run s = _
  unfold runScript scriptFile
  simp only [hc, run_bind, run_get, run_lift]
  cases scriptPath s.world.files name.text c.source with
  | error f => rfl
  | ok path =>
    simp only [bind, Except.bind]
    cases (s.world.files.isFile path).mapError Fault.ofFile with
    | error f => rfl
    | ok found => cases found <;> rfl

/-- A script with a relative name without a tilde is run if it is there: the file that its name
leads to, or else the one beside the including script. If there is neither, the command says so, in
its place, and does nothing. Only what hides the places of a script comes in between. -/
theorem runScript_finds (hb : c.builtin? = some .runScript) (hc : c.args = name :: rest)
    (hd : (d : Int) < e.execution.maxDepth) (hr : ¬ Path.StartsAtRoot name.text)
    (ht : '~' ∉ name.text.toList) (s : RunState σ ε) :
    let t := s.world.files
    let q := Path.ofText name.text
    let outcome := (e.dispatch (e.including run d) c).run s
    ((¬ ∃ f, Hides t c q f) →
      (∀ p, t.firstScript? q c.source = some p →
        outcome = (readAndRun (run (d + 1)) p).run s) ∧
      (t.firstScript? q c.source = none → ∃ p ∈ scriptPlaces q c.source,
        outcome = (.error (c.fault (.scriptNotFound p.text)), s))) ∧
    ∀ f, Hides t c q f → outcome = (.error f, s) := by
  intro t q outcome
  have ho : outcome = _ := e.dispatch_including run hb hc hd
  have hq : t.expandHome name.text = .ok q := expandHome_of_plain ht
  have ha : q.isAbsolute = false := by
    rw [← Bool.not_eq_true, Path.isAbsolute_ofText_iff]
    exact hr
  refine ⟨fun h => ⟨fun p hp => ?_, fun hn => ?_⟩, fun f hf => ?_⟩
  · rw [ho, (finds_of_not_hides hq ha h).found p hp]
  · obtain ⟨p, hp, hfile⟩ := (finds_of_not_hides hq ha h).absent hn
    exact ⟨p, hp, by rw [ho, hfile]⟩
  · rw [ho, scriptFile_of_hides hq ha hf]

end Setup

namespace Simulation

open FileTree

/-- A command that runs another script, in a script of its own directory. -/
def mainCommand : Command :=
  ⟨"runScript sub", "runScript", [], "runScript", [⟨"sub", false⟩], 1, some "/m/main"⟩

/-- That directory, with the other script in it, and an empty working directory. -/
def besideMain : FileTree :=
  ⟨[(["w"], .dir), (["m"], .dir), (["m", "sub"], .file (.bytes []))], ["w"], []⟩

/-- A new session in these directories. -/
def sessionIn (t : FileTree) : RunState Simulation Handle :=
  ready t ⟨none, .path, []⟩ none {}

/-- How a rehearsal runs the commands of scripts at each depth. -/
def rehearsing (d : Nat) : List Command → Engine Simulation Handle Unit :=
  rehearsal.execute (rehearsal.levelsBelow d) d

/-- A script that is not in the working directory is found beside the one that includes it. -/
theorem runScript_finds_beside :
    (rehearsal.dispatch (rehearsal.including rehearsing 0) mainCommand).run
        (sessionIn besideMain) =
      (Setup.readAndRun (rehearsing 1) "/m/sub").run (sessionIn besideMain) := by
  have hr : ¬ Path.StartsAtRoot "sub" := by
    rw [Path.StartsAtRoot]
    decide
  obtain ⟨hfound, -⟩ := rehearsal.runScript_finds rehearsing (c := mainCommand) rfl rfl
    (d := 0) (by decide) hr (by decide) (sessionIn besideMain)
  refine (hfound ?_).1 _ (by decide)
  rintro ⟨f, h⟩
  cases h with
  | directory here _ _ => cases here
  | overlong here => exact not_isOverlong (b := false) rfl here
  | overlongBeside _ including beside =>
    cases including
    exact not_isOverlong (b := true) rfl beside

/-- The same directories, with a directory in the working directory that has the script's name. -/
def hidingMain : FileTree :=
  ⟨(["w", "sub"], .dir) :: besideMain.entries, ["w"], []⟩

/-- A directory of its name keeps a script from being found that is where it should be. -/
theorem runScript_hidden :
    hidingMain.isFile "sub" = .ok false ∧ hidingMain.isFile "/m/sub" = .ok true ∧
      scriptPlaces "sub" mainCommand.source = ["sub", "/m/sub"] ∧
      (rehearsal.dispatch (rehearsal.including rehearsing 0) mainCommand).run
          (sessionIn hidingMain) =
        (.error (mainCommand.fault (.scriptNotFound "sub")), sessionIn hidingMain) := by
  refine ⟨by decide, by decide, by decide, ?_⟩
  rfl

end Simulation

end TapScript
