import TapScript.Proofs.Browser.Lifetimes
import TapScript.Proofs.CommandLine.Shells
import TapScript.Proofs.Run.Locating
import TapScript.Simulation.Display

/-! # The libraries of a command

The settings name a directory of libraries. Validating a script and listing libraries take the path
as it is written, and running a script goes from the home directory that the path may start with.
So a script is validated with the libraries that it runs with, unless that path starts with a tilde.
-/

namespace TapScript

namespace FileTree

variable {t : FileTree} {user : List Char} {rest : List String}

theorem expandHome_home : t.expandHome ⟨.here, String.ofList ('~' :: user) :: rest⟩ =
    match t.homes.lookup (String.ofList user) with
    | some home => .ok (home.join ⟨.here, rest⟩)
    | none => .error .noHome := by
  simp only [expandHome, String.toList_ofList]
  cases t.homes.lookup (String.ofList user) <;> rfl

end FileTree

namespace Registry

/-- How the registry of a run comes from the one that the settings name: it is the same, or its
root is below the home directory that the path starts with. -/
structure IsExpanded (t : FileTree) (r r' : Registry) : Prop where
  plain : (∀ dir, r.root = some dir → ¬ dir.NamesHome) → r' = r
  home : ∀ user rest, r.root = some ⟨.here, String.ofList ('~' :: user) :: rest⟩ →
    ∃ home, t.homes.lookup (String.ofList user) = some home ∧
      r' = { r with root := some (home.join ⟨.here, rest⟩) }

end Registry

namespace Settings

open CommandLine

variable {s : Settings} {t : FileTree} {file : Path} {p : Preparation}

/-- The directory of the libraries of a run is that of the settings, taken from a home directory. -/
theorem optionalPath_libraries : optionalPath t s.places.librariesDir =
    match (registryOf s).root with
    | none => .ok none
    | some dir => (t.expandHome dir).map some := by
  unfold optionalPath registryOf nonEmpty
  cases s.places.librariesDir with
  | none => rfl
  | some dir =>
    by_cases hd : dir = ""
    · subst hd
      rfl
    · have hset : (some dir).filter (· != "") = some dir := by simpa using hd
      rw [hset]
      split
      · next h => cases h
      · next h => exact absurd (Option.some.inj h) hd
      · next h => cases h; rfl

/-- What a preparation takes from the settings: the script as it is read, and a registry. -/
theorem registry_of_prepare (h : s.prepare t file = .ok p) : Script.load t file = .ok p.script ∧
    ∃ root, optionalPath t s.places.librariesDir = .ok root ∧
      p.registry = { registryOf s with root } := by
  rw [prepare_eq] at h
  obtain ⟨script, hscript, h⟩ := Outcome.bind_eq_ok.mp h
  obtain ⟨values, -, h⟩ := Outcome.bind_eq_ok.mp h
  obtain ⟨locators, -, h⟩ := Outcome.bind_eq_ok.mp h
  obtain ⟨root, hroot, h⟩ := Outcome.bind_eq_ok.mp h
  obtain rfl := Except.ok.inj h
  exact ⟨hscript, root, Outcome.mapError_eq_ok.mp hroot, rfl⟩

theorem isExpanded_of_prepare (h : s.prepare t file = .ok p) :
    (registryOf s).IsExpanded t p.registry := by
  obtain ⟨-, root, hroot, hp⟩ := registry_of_prepare h
  rw [optionalPath_libraries] at hroot
  rw [hp]
  constructor
  · intro hplain
    have hsame : root = (registryOf s).root := by
      cases hdir : (registryOf s).root with
      | none =>
        rw [hdir] at hroot
        exact (Except.ok.inj hroot).symm
      | some dir =>
        rw [hdir] at hroot
        simp only [FileTree.expandHome_of_not_namesHome (hplain dir hdir)] at hroot
        exact (Except.ok.inj hroot).symm
    rw [hsame]
  · intro user rest hdir
    rw [hdir] at hroot
    simp only [FileTree.expandHome_home] at hroot
    cases hhome : t.homes.lookup (String.ofList user) with
    | none =>
      rw [hhome] at hroot
      cases hroot
    | some home =>
      rw [hhome] at hroot
      obtain rfl := Except.ok.inj hroot
      exact ⟨home, rfl, rfl⟩

end Settings

namespace CommandLine

variable {σ : Type} {x : Context σ} {T : Terminal σ} {s : Settings} {operand : Option String}
  {name : String} {script : Script}

/-- Which libraries the commands on a script work with: it is validated with those in the directory
that the settings name, which are also listed, and run with what its preparation makes of them. -/
structure SharesLibraries (x : Context σ) (T : Terminal σ) (operand : Option String) (s : Settings)
    (file : Path) (script : Script) : Prop where
  validates : ∀ asJson, (parseScript x operand true asJson).run T =
    (showScript x.display (registryOf s) script true asJson).run (T.detail s.debug)
  lists : (registryOf s).root ≠ none →
    (listLibraries x).run T = (showLibraries x.display (registryOf s)).run (T.detail s.debug)
  runs : ∀ q : RunRequest, (runScript x operand q).run T =
    (showRun x.machine x.display (q.adjust s) file).run (T.detail s.debug)
  prepares : ∀ (q : RunRequest) p, (q.adjust s).prepare T.world.files file = .ok p →
    p.script = script ∧ (registryOf s).IsExpanded T.world.files p.registry

/-- A script is run with the libraries that it is validated with, in the directory whose libraries
are listed, unless the settings name that directory from a home directory. -/
theorem shares_libraries (hs : Settings.load T.world.files x.environment x.settingsFile = .ok s)
    (hc : (operand <|> nonEmpty s.places.script) = some name)
    (hl : Script.load T.world.files (.ofText name) = .ok script) :
    SharesLibraries x T operand s (.ofText name) script where
  validates _ := run_parseScript hs hc hl
  lists hr := run_listLibraries hs hr
  runs q := run_runScript hs hc (exists?_of_load hl) q
  prepares q p hp := by
    have hscript : Script.load T.world.files (.ofText name) = .ok p.script :=
      (Settings.registry_of_prepare hp).1
    exact ⟨Except.ok.inj (hscript.symm.trans hl), Settings.isExpanded_of_prepare hp⟩

end CommandLine

namespace Simulation

open CommandLine

/-- A module with one command. -/
def shopModule : Module :=
  ⟨none, [("buy", ⟨.none, some ⟨⟨"buy", [], 0, false⟩, [], .ok .none⟩⟩)], none⟩

/-- A script of that command, with a library for it beside it and another in a home directory. -/
def market : FileTree :=
  ⟨[(["w"], .dir), (["w", "buy.mts"], .file (.bytes (Text.encode "shop.buy"))),
    (["w", "libs"], .dir), (["w", "libs", "shop.py"], .file (.program shopModule)),
    (["h"], .dir), (["h", "libs"], .dir), (["h", "libs", "shop.py"], .file (.program shopModule))],
    ["w"], [("", ⟨.root, ["h"]⟩)]⟩

/-- What is read from the script. -/
def errand : Script :=
  ⟨[⟨"shop.buy", "shop.buy", ["shop"], "buy", [], 1, some "buy.mts"⟩], some "buy.mts"⟩

/-- The settings that only name a directory of libraries. -/
def naming (dir : String) : Settings :=
  { places := { librariesDir := some dir } }

theorem load_market : Script.load market "buy.mts" = .ok errand :=
  Outcome.eq_ok_of_toOption (by decide +kernel)

/-- With the path of a directory beside it, the script is run with the libraries that it is
validated with. -/
theorem shares_libraries_market :
    let x : Context Simulation := ⟨machine, display, [("MTS_LIBRARIES", "libs")], none⟩
    Settings.load market x.environment x.settingsFile = .ok (naming "libs") ∧
      Script.load market "buy.mts" = .ok errand ∧
      SharesLibraries x { world := ⟨market, {}⟩ } (some "buy.mts") (naming "libs") "buy.mts"
        errand ∧
      ∃ p, (naming "libs").prepare market "buy.mts" = .ok p ∧
        p.registry = registryOf (naming "libs") ∧
        errand.validate market (some p.registry) = .ok {} := by
  intro x
  have hs : Settings.load market x.environment x.settingsFile = .ok (naming "libs") :=
    Outcome.eq_ok_of_toOption (by decide +kernel)
  have hshares : SharesLibraries x { world := ⟨market, {}⟩ } (some "buy.mts") (naming "libs")
      "buy.mts" errand := shares_libraries hs rfl load_market
  refine ⟨hs, load_market, hshares, ?_⟩
  rw [Settings.prepare, load_market]
  exact ⟨_, rfl, rfl, rfl⟩

/-- With a path into the home directory, the script is run with a library that validating it does
not find. -/
theorem validates_elsewhere :
    let s := naming "~/libs"
    Settings.load market [("MTS_LIBRARIES", "~/libs")] none = .ok s ∧
      Script.load market "buy.mts" = .ok errand ∧
      (∃ p, s.prepare market "buy.mts" = .ok p ∧ p.registry.root = some "/h/libs" ∧
        errand.validate market (some p.registry) = .ok {}) ∧
      (registryOf s).root = some "~/libs" ∧
      (∃ e, errand.validate market (some (registryOf s)) = .ok ⟨[e], []⟩) ∧
      (registryOf s).scan market = .ok [] := by
  intro s
  have hs : Settings.load market [("MTS_LIBRARIES", "~/libs")] none = .ok s :=
    Outcome.eq_ok_of_toOption (by decide +kernel)
  refine ⟨hs, load_market, ?_, rfl, ⟨_, rfl⟩, rfl⟩
  rw [Settings.prepare, load_market]
  exact ⟨_, rfl, rfl, rfl⟩

end Simulation

end TapScript
