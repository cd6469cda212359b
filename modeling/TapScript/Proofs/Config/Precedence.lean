import TapScript.Config.Source
import TapScript.Proofs.Config.Writing
import TapScript.Proofs.Yaml.Documents

/-! # Which source a setting comes from

Settings are read from what the file in the home directory, the file of the project and the
environment hold, each overriding what comes before it. What the environment makes of a setting is
a text or a truth value, so it stays whatever it overrides; and a setting that it leaves alone is
what the file of the project holds at its place, or else what the other file does. For the latter
the sections of both files must be mappings, as a section that is none is replaced as a whole.
-/

namespace TapScript

open Value (Orderly at? sectionOf? under? entries? mergeEntries)

namespace Environment

variable {env : Environment} {v g k key : String} {es : Entries}

/-- The value of a variable, unless it is empty or not there. -/
def given? (env : Environment) (v : String) : Option String :=
  (env.lookup v).filter (· ≠ "")

theorem override_eq (env : Environment) (v g k : String) :
    env.override v g k = match env.given? v with
      | none => []
      | some t => [(.text g, .map false [(.text k, .text t)])] := by
  unfold override given?
  cases env.lookup v with
  | none => rfl
  | some t =>
    by_cases ht : t = ""
    · subst ht
      rfl
    · simp [ht, Option.filter]

theorem override_orderly (env : Environment) (v g k : String) :
    Orderly (.map false (env.override v g k)) := by
  rw [override_eq]
  cases env.given? v with
  | none => exact .nil
  | some t =>
    refine .map (List.pairwise_singleton _ _) (List.forall_mem_singleton.mpr ?_)
    exact .map (List.pairwise_singleton _ _) (List.forall_mem_singleton.mpr (.leaf nofun nofun))

theorem sectionOf?_override (env : Environment) (v g k g' : String) :
    sectionOf? (env.override v g k) g' = some (match env.given? v with
      | none => []
      | some t => if g = g' then [(.text k, .text t)] else []) := by
  rw [override_eq, sectionOf?]
  cases env.given? v with
  | none => rfl
  | some t =>
    dsimp only
    rw [Value.under?_text_cons]
    split <;> rfl

theorem at?_override (env : Environment) (v g k g' key : String) :
    at? (env.override v g k) (some g') key =
      (if (g, k) = (g', key) then env.given? v else none).map .text := by
  rw [at?, sectionOf?_override]
  cases env.given? v with
  | none => simp [under?]
  | some t =>
    rw [Option.bind_some]
    by_cases hg : g = g'
    · simp only [hg, if_true, Value.under?_text_cons, Prod.mk.injEq, true_and]
      split <;> rfl
    · simp [hg, under?]

theorem under?_override (h : g ≠ key) : under? (env.override v g k) (.text key) = none := by
  rw [override_eq]
  cases env.given? v with
  | none => rfl
  | some t => exact (Value.under?_text_cons.trans (if_neg h)).trans rfl

/-- The entries overridden by the settings of some variables. -/
def overrideAll (env : Environment) (es : Entries) (vs : List (String × String × String)) :
    Entries :=
  vs.foldl (fun es (v, g, k) => mergeEntries es (env.override v g k)) es

variable {vs : List (String × String × String)}

theorem overrideAll_orderly (h : Orderly (.map false es)) :
    Orderly (.map false (env.overrideAll es vs)) := by
  induction vs generalizing es with
  | nil => exact h
  | cons x vs ih => exact ih (h.mergeEntries (override_orderly ..))

theorem sectionOf?_mergeEntries_override (h : (sectionOf? es g).isSome) (v g' k : String) :
    (sectionOf? (mergeEntries es (env.override v g' k)) g).isSome :=
  Value.isSome_sectionOf?_mergeEntries (override_orderly ..) h (by rw [sectionOf?_override]; rfl)

theorem sectionOf?_overrideAll (h : (sectionOf? es g).isSome) :
    (sectionOf? (env.overrideAll es vs) g).isSome := by
  induction vs generalizing es with
  | nil => exact h
  | cons x vs ih => exact ih (sectionOf?_mergeEntries_override h ..)

/-- What stands for a setting in an environment. -/
def setting? (env : Environment) (vs : List (String × String × String)) (g key : String) :
    Option String :=
  vs.reverse.findSome? fun x => if x.2 = (g, key) then env.given? x.1 else none

theorem setting?_cons {x : String × String × String} : env.setting? (x :: vs) g key =
    (env.setting? vs g key).or (if x.2 = (g, key) then env.given? x.1 else none) := by
  unfold setting?
  rw [List.reverse_cons, List.findSome?_append, List.findSome?_singleton]

theorem setting?_eq_none (h : ∀ x ∈ vs, x.2 = (g, key) → env.given? x.1 = none) :
    env.setting? vs g key = none := by
  refine List.findSome?_eq_none_iff.mpr fun x hx => ?_
  split
  · next hk => exact h x (List.mem_reverse.mp hx) hk
  · rfl

theorem setting?_of_mem (hp : vs.Pairwise (·.2 ≠ ·.2)) (h : (v, g, key) ∈ vs) :
    env.setting? vs g key = env.given? v := by
  induction vs with
  | nil => cases h
  | cons x vs ih =>
    obtain ⟨hx, hp⟩ := List.pairwise_cons.mp hp
    rw [setting?_cons]
    cases h with
    | head =>
      rw [setting?_eq_none fun y hy hk => absurd hk.symm (hx y hy), if_pos rfl, Option.none_or]
    | tail _ h => rw [ih hp h, if_neg (hx _ h), Option.or_none]

theorem at?_overrideAll (h : (sectionOf? es g).isSome) :
    at? (env.overrideAll es vs) (some g) key =
      ((env.setting? vs g key).map .text).or (at? es (some g) key) := by
  induction vs generalizing es with
  | nil => rfl
  | cons x vs ih =>
    obtain ⟨v, g', k⟩ := x
    have hs : ∀ g'' ∈ some g, (sectionOf? es g'').isSome ∧
        (sectionOf? (env.override v g' k) g'').isSome := by
      rintro _ ⟨⟩
      exact ⟨h, by rw [sectionOf?_override]; rfl⟩
    have ht : ∀ t? : Option String,
        (t?.map Value.text).map (Value.overriding (at? es (some g) key)) = t?.map .text := by
      rintro (_ | t)
      · rfl
      · exact congrArg some (Value.overriding_of_not_isMap rfl)
    refine (ih (sectionOf?_mergeEntries_override h ..)).trans ?_
    rw [Value.at?_mergeEntries (override_orderly ..) hs, at?_override, ht, ← Option.or_assoc,
      ← Option.map_or]
    rw [setting?_cons]

theorem under?_overrideAll (h : ∀ x ∈ vs, x.2.1 ≠ key) :
    under? (env.overrideAll es vs) (.text key) = under? es (.text key) := by
  induction vs generalizing es with
  | nil => rfl
  | cons x vs ih =>
    have ⟨hx, hvs⟩ := List.forall_mem_cons.mp h
    refine (ih hvs).trans ?_
    rw [Value.under?_mergeEntries (override_orderly ..).entries.1, under?_override hx]
    rfl

theorem overrides_eq (env : Environment) : env.overrides =
    env.overrideAll [] settingVariables ++
      if env.debugs then [(.text "debug", .bool true)] else [] := by
  unfold overrides overrideAll
  dsimp only
  split <;> simp

theorem overrides_orderly (env : Environment) : Orderly (.map false env.overrides) := by
  have ho : Orderly (.map false (env.overrideAll [] settingVariables)) :=
    overrideAll_orderly .nil
  rw [overrides_eq]
  split
  · have hn : under? (env.overrideAll [] settingVariables) (.text "debug") = none :=
      under?_overrideAll (by decide)
    refine .map (List.pairwise_append.mpr ⟨ho.entries.1, List.pairwise_singleton _ _, ?_⟩)
      (List.forall_mem_append.mpr ⟨ho.entries.2, List.forall_mem_singleton.mpr (.leaf nofun nofun)⟩)
    rintro e he f hf s hs hfs
    rw [List.mem_singleton.mp hf] at hfs
    cases hfs
    exact Value.under?_eq_none_iff.mp hn e he hs
  · rwa [List.append_nil]

theorem sectionOf?_overrides (h : "debug" ≠ g) :
    sectionOf? env.overrides g = sectionOf? (env.overrideAll [] settingVariables) g := by
  rw [overrides_eq, sectionOf?, Value.under?_append]
  split
  · rw [Value.under?_text_cons, if_neg h, Value.under?_nil, Option.or_none, sectionOf?]
  · rw [Value.under?_nil, Option.or_none, sectionOf?]

end Environment

namespace Setting

variable {env : Environment} {x : Setting}

/-- What an environment makes of a setting. -/
def override? (x : Setting) (env : Environment) : Option Value :=
  match x.group? with
  | none => if x.key = "debug" ∧ env.debugs then some (.bool true) else none
  | some g => (env.setting? Environment.settingVariables g x.key).map .text

theorem debug_ne_group {g : String} (hg : g ∈ groups) : "debug" ≠ g := by
  rintro rfl
  exact absurd hg (by decide)

theorem isSome_sectionOf?_overrides {g : String} (hg : g ∈ groups) :
    (sectionOf? env.overrides g).isSome := by
  rw [Environment.sectionOf?_overrides (debug_ne_group hg)]
  exact Environment.sectionOf?_overrideAll rfl

theorem at?_overrides (hx : x ∈ all) : at? env.overrides x.group? x.key = x.override? env := by
  unfold override?
  cases hg : x.group? with
  | none =>
    have hk : ∀ x ∈ all, x.group? = none → ∀ y ∈ Environment.settingVariables, y.2.1 ≠ x.key := by
      simp [all, Environment.settingVariables]
    dsimp only [at?]
    rw [Environment.overrides_eq, Value.under?_append,
      Environment.under?_overrideAll (hk x hx hg), Value.under?_nil, Option.none_or]
    by_cases hd : env.debugs
    · rw [if_pos hd, Value.under?_text_cons, Value.under?_nil]
      simp [hd, eq_comm]
    · simp [hd, Value.under?_nil]
  | some g =>
    have hs : sectionOf? env.overrides g = _ :=
      Environment.sectionOf?_overrides (debug_ne_group (group_mem hx hg))
    have ha : at? env.overrides (some g) x.key =
        at? (env.overrideAll [] Environment.settingVariables) (some g) x.key := by
      rw [at?, hs, at?]
    rw [ha, Environment.at?_overrideAll rfl]
    exact Option.or_none

/-- Whether a variable of an environment stands for a setting. -/
def IsOverridden (x : Setting) (env : Environment) : Prop :=
  (x.group? = none ∧ x.key = "debug" ∧ env.debugs = true) ∨
    ∃ v g, x.group? = some g ∧ (v, g, x.key) ∈ Environment.settingVariables ∧
      ∃ t, env.lookup v = some t ∧ t ≠ ""

theorem override?_eq_none (h : ¬ x.IsOverridden env) : x.override? env = none := by
  unfold override?
  cases hg : x.group? with
  | none => exact if_neg fun hd => h (.inl ⟨hg, hd⟩)
  | some g =>
    dsimp only
    rw [Environment.setting?_eq_none fun y hy hk => ?_]
    · rfl
    · refine Option.eq_none_iff_forall_ne_some.mpr fun t ht => h (.inr ?_)
      obtain ⟨hl, ht⟩ := Option.filter_eq_some_iff.mp ht
      exact ⟨y.1, g, hg, hk ▸ hy, t, hl, by simpa using ht⟩

theorem override?_isMap {v : Value} (h : x.override? env = some v) : v.isMap = false := by
  unfold override? at h
  split at h
  · split at h <;> cases h
    rfl
  · obtain ⟨t, -, rfl⟩ := Option.map_eq_some_iff.mp h
    rfl

theorem not_reads_map {s : Settings} {b : Bool} {es : Entries} :
    ¬ x.Reads (some (.map b es)) s := by
  obtain ⟨r, hr⟩ := x.coding.read_map b es
  intro h
  cases hr.symm.trans h

theorem reads_overriding {s : Settings} {base : Option Value} {v : Value} :
    x.Reads (some (Value.overriding base v)) s ↔ x.Reads (some v) s := by
  unfold Value.overriding
  split
  · exact iff_of_false not_reads_map not_reads_map
  · rfl

variable {es fs : Entries} {s : Settings} {b : Bool}

/-- After overriding, a setting is what is read from what overrides, or else from what was there. -/
theorem reads_mergeEntries (hf : Orderly (.map b fs))
    (hs : ∀ g ∈ x.group?, (sectionOf? es g).isSome ∧ (sectionOf? fs g).isSome) :
    x.Reads (at? (mergeEntries es fs) x.group? x.key) s ↔
      x.Reads ((at? fs x.group? x.key).or (at? es x.group? x.key)) s := by
  rw [Value.at?_mergeEntries hf hs]
  cases at? fs x.group? x.key with
  | none => rfl
  | some v => exact reads_overriding

end Setting

namespace Settings

variable {t : FileTree} {env : Environment} {file : Option Path} {dir : Path} {s : Settings}
  {es es' : Entries}

/-- The file that is read after the one in the home directory: the one that is named, or else the
one of the project. -/
def chosen (t : FileTree) (file : Option Path) (dir : Path) : Except Mishap (Option Path) :=
  match file with
  | some p => .ok (some p)
  | none => find? t dir

/-- The entries of a file; one that is not there has none. -/
def entriesOf (t : FileTree) (file : Option Path) : Except Mishap Entries := do
  match file with
  | none => return []
  | some p =>
    if ← (t.exists? p).mapError .file then
      match ← t.readData p with
      | .map _ es => return es
      | v => throw (.notMapping v.typeName)
    else return []

theorem entriesOf_orderly (h : entriesOf t file = .ok es) : Orderly (.map false es) := by
  unfold entriesOf at h
  split at h
  · cases h
    exact .nil
  · obtain ⟨e, -, h⟩ := Outcome.bind_eq_ok.mp h
    split at h
    · obtain ⟨v, hv, h⟩ := Outcome.bind_eq_ok.mp h
      split at h
      · cases h
        have ho := FileTree.readData_orderly hv
        exact .map ho.entries.1 ho.entries.2
      · cases h
    · cases h
      exact .nil

theorem mergeFile_eq (t : FileTree) (es : Entries) (file : Option Path) :
    mergeFile t es file = (entriesOf t file).map (mergeEntries es) := by
  have hnil : mergeEntries es [] = es := by rw [mergeEntries]
  unfold mergeFile entriesOf
  cases file with
  | none => exact congrArg Except.ok hnil.symm
  | some p =>
    dsimp only
    cases t.exists? p with
    | error e => rfl
    | ok b =>
      cases b with
      | false => exact congrArg Except.ok hnil.symm
      | true =>
        cases t.readData p with
        | error e => rfl
        | ok v => cases v <;> rfl

theorem mergeFile_eq_ok : mergeFile t es file = .ok es' ↔
    ∃ fs, entriesOf t file = .ok fs ∧ mergeEntries es fs = es' := by
  rw [mergeFile_eq]
  cases entriesOf t file <;> simp [Except.map]

/-- The files and the environment that settings are read from. -/
theorem load_eq_ok : load t env file dir = .ok s ↔ ∃ path global project,
    chosen t file dir = .ok path ∧ entriesOf t (homeFile? t) = .ok global ∧
      entriesOf t path = .ok project ∧
        ofEntries (mergeEntries (mergeEntries (mergeEntries [] global) project) env.overrides)
          = .ok s := by
  have hl : load t env file dir = (do
      let es ← mergeFile t [] (homeFile? t)
      let path ← chosen t file dir
      let es ← mergeFile t es path
      ofEntries (mergeEntries es env.overrides)) := by
    cases file <;> rfl
  rw [hl]
  constructor
  · intro h
    obtain ⟨es, hg, h⟩ := Outcome.bind_eq_ok.mp h
    obtain ⟨path, hp, h⟩ := Outcome.bind_eq_ok.mp h
    obtain ⟨es', hm, h⟩ := Outcome.bind_eq_ok.mp h
    obtain ⟨global, hglobal, rfl⟩ := mergeFile_eq_ok.mp hg
    obtain ⟨project, hproject, rfl⟩ := mergeFile_eq_ok.mp hm
    exact ⟨path, global, project, hp, hglobal, hproject, h⟩
  · rintro ⟨path, global, project, hp, hg, hm, h⟩
    exact Outcome.bind_eq_ok.mpr ⟨_, mergeFile_eq_ok.mpr ⟨global, hg, rfl⟩,
      Outcome.bind_eq_ok.mpr ⟨path, hp,
        Outcome.bind_eq_ok.mpr ⟨_, mergeFile_eq_ok.mpr ⟨project, hm, rfl⟩, h⟩⟩⟩

/-- A setting that the environment makes is what it makes of it. -/
theorem reads_of_override {x : Setting} {v : Value}
    (h : ofEntries (mergeEntries es env.overrides) = .ok s) (hx : x ∈ Setting.all)
    (hv : x.override? env = some v) : x.Reads (some v) s := by
  have hr := (ofEntries_eq_ok_iff.mp h).2.2 x hx
  rwa [Value.at?_mergeEntries_of_at? (Environment.overrides_orderly env)
    ((Setting.at?_overrides hx).trans hv) (Setting.override?_isMap hv)] at hr

theorem text?_mem_all : ∀ y ∈ Environment.settingVariables,
    ∃ get, ⟨some y.2.1, y.2.2, .text?, get⟩ ∈ Setting.all := by
  simp [Environment.settingVariables, Setting.all]

/-- A setting that the environment leaves alone is what the files make of it. -/
theorem reads_of_not_override {x : Setting}
    (h : ofEntries (mergeEntries es env.overrides) = .ok s) (hx : x ∈ Setting.all)
    (hs : ∀ g ∈ x.group?, (sectionOf? es g).isSome) (hv : x.override? env = none) :
    x.Reads (at? es x.group? x.key) s := by
  have hr := (ofEntries_eq_ok_iff.mp h).2.2 x hx
  have hg : ∀ g ∈ x.group?, (sectionOf? es g).isSome ∧ (sectionOf? env.overrides g).isSome :=
    fun g hg => ⟨hs g hg, Setting.isSome_sectionOf?_overrides (Setting.group_mem hx hg)⟩
  rwa [Setting.reads_mergeEntries (Environment.overrides_orderly env) hg,
    Setting.at?_overrides hx, hv, Option.none_or] at hr

theorem at?_toEntries_of_given {v g key text : String}
    (h : ofEntries (mergeEntries es env.overrides) = .ok s)
    (hv : (v, g, key) ∈ Environment.settingVariables) (ht : env.given? v = some text) :
    at? s.toEntries (some g) key = some (.text text) := by
  obtain ⟨get, hx⟩ := text?_mem_all _ hv
  have ho : (⟨some g, key, .text?, get⟩ : Setting).override? env = some (.text text) := by
    dsimp only [Setting.override?]
    rw [Environment.setting?_of_mem (by decide) hv, ht]
    rfl
  have hr : Coding.text?.read (.text text) = .ok (get s) := reads_of_override h hx ho
  rw [Setting.at?_toEntries s _ hx]
  exact congrArg (fun a => some (Coding.text?.write a)) (Except.ok.inj hr).symm

/-- Which source each setting comes from. -/
structure Precedence (env : Environment) (global project : Entries) (s : Settings) : Prop where
  overridden : ∀ v g key text, (v, g, key) ∈ Environment.settingVariables →
    env.lookup v = some text → text ≠ "" → at? s.toEntries (some g) key = some (.text text)
  debugging : ∀ v, env.lookup "DEBUG" = some v → v ∉ Environment.offValues → s.debug = true
  layered : ∀ x ∈ Setting.all, ¬ x.IsOverridden env →
    (∀ g, x.group? = some g → ∀ v, under? global (.text g) = some v ∨
      under? project (.text g) = some v → v.isMap = true) →
    x.Reads ((at? project x.group? x.key).or (at? global x.group? x.key)) s

/-- Each setting comes from the environment, or else from the file of the project, or else from the
file in the home directory, and has the default if none of them holds it. -/
theorem load_precedence (h : load t env file dir = .ok s) : ∃ path global project,
    chosen t file dir = .ok path ∧ entriesOf t (homeFile? t) = .ok global ∧
      entriesOf t path = .ok project ∧ Precedence env global project s := by
  obtain ⟨path, global, project, hp, hg, hm, h⟩ := load_eq_ok.mp h
  refine ⟨path, global, project, hp, hg, hm, ?_⟩
  have hglobal := entriesOf_orderly hg
  have hproject := entriesOf_orderly hm
  constructor
  case overridden =>
    intro v g key text hv hl ht
    exact at?_toEntries_of_given h hv (by rw [Environment.given?, hl]; simp [Option.filter, ht])
  case debugging =>
    intro v hl hv
    have hd : env.debugs = true := by simpa [Environment.debugs, hl] using hv
    have hx : (⟨none, "debug", .truth, (·.debug)⟩ : Setting) ∈ Setting.all := by simp [Setting.all]
    have hr := reads_of_override h hx (if_pos ⟨rfl, hd⟩)
    exact (Except.ok.inj hr).symm
  case layered =>
    intro x hx hv hs
    have hsec : ∀ g ∈ x.group?, (sectionOf? global g).isSome ∧ (sectionOf? project g).isSome :=
      fun g hg => ⟨Value.isSome_sectionOf? fun v h => hs g hg v (.inl h),
        Value.isSome_sectionOf? fun v h => hs g hg v (.inr h)⟩
    have hbase : ∀ g ∈ x.group?, (sectionOf? (mergeEntries [] global) g).isSome := fun g hg =>
      Value.isSome_sectionOf?_mergeEntries hglobal rfl (hsec g hg).1
    have hr := reads_of_not_override h hx
      (fun g hg => Value.isSome_sectionOf?_mergeEntries hproject (hbase g hg) (hsec g hg).2)
      (Setting.override?_eq_none hv)
    rw [Setting.reads_mergeEntries hproject fun g hg => ⟨hbase g hg, (hsec g hg).2⟩] at hr
    cases hp : at? project x.group? x.key with
    | some v => rwa [hp] at hr
    | none =>
      rw [hp, Option.none_or,
        Setting.reads_mergeEntries hglobal fun g hg => ⟨rfl, (hsec g hg).1⟩, Value.at?_nil,
        Option.or_none] at hr
      rwa [Option.none_or]

end Settings

namespace Simulation

/-- A home directory and a project with a settings file each. -/
def household : FileTree where
  entries := [(["h"], .dir), (["h", ".config"], .dir), (["h", ".config", "mts"], .dir),
    (["h", ".config", "mts", "config.yaml"], .file (.bytes (Text.encode
      "paths:\n  script: a\n  globals_file: b\nexecution: \x7bwait_timeout_ms: 5\x7d\n"))),
    (["w"], .dir),
    (["w", "mts.yml"], .file (.bytes (Text.encode
      "paths:\n  globals_file: null\n  elements_file: c\n")))]
  here := ["w"]
  homes := [("", ⟨.root, ["h"]⟩)]

/-- The script comes from the environment, the lookup files from the project, which unsets one of
them, and the timeout from the home directory. -/
theorem load_precedence_household :
    let env : Environment := [("MTS_SCRIPT", "d"), ("DEBUG", "1")]
    let s : Settings := {
      debug := true
      places := { script := some "d", elementsFile := some "c" }
      execution := { polling := ⟨1000, 5, by decide⟩ } }
    Settings.load household env none = .ok s ∧ ∃ path global project,
      Settings.chosen household none ⟨.here, []⟩ = .ok path ∧
        Settings.entriesOf household (Settings.homeFile? household) = .ok global ∧
          Settings.entriesOf household path = .ok project ∧
            Settings.Precedence env global project s := by
  intro env s
  have hs : (Settings.load household env none).toOption = some s := by decide +kernel
  have h : Settings.load household env none = .ok s := by
    revert hs
    cases Settings.load household env none with
    | error e => exact nofun
    | ok s' => exact fun hs => congrArg _ (Option.some.inj hs)
  exact ⟨h, Settings.load_precedence h⟩

end Simulation

end TapScript
