import Mathlib.Tactic.Simproc.ExistsAndEq
import TapScript.Config.Writing
import TapScript.Proofs.Config.Reading

/-! # The settings one by one

Each setting has a place in a mapping: a key, in a section or by itself. Settings are read from a
mapping without an issue if every section is a mapping and each setting is what its place holds,
or the default where that holds nothing.
-/

namespace TapScript

/-- How a kind of setting is read and written. What is written is no mapping and is read back if it
is valid, mappings are not read, and different settings are written differently. -/
structure Coding (α : Type) where
  read : Field α
  write : α → Value
  IsValid : α → Prop
  read_write : ∀ a, IsValid a → read (write a) = .ok a
  read_map : ∀ b es, ∃ rule, read (.map b es) = .error rule
  write_isMap : ∀ a, (write a).isMap = false
  eq_of_same : ∀ a b, (write a).same (write b) = true → a = b

namespace Coding

/-- Whole numbers. -/
@[simp]
def integer : Coding Int where
  read := Field.integer
  write := .int
  IsValid _ := True
  read_write _ _ := rfl
  read_map _ _ := ⟨.intType, rfl⟩
  write_isMap _ := rfl
  eq_of_same a b h := by simpa [Value.same, Value.sameScalar, Value.integer?] using h

/-- Whole numbers above zero. -/
@[simp]
def positive : Coding { n : Nat // 0 < n } where
  read := Field.positive
  write n := .int n.val
  IsValid _ := True
  read_write n _ := by
    have h : 0 < (n.val : Int).toNat := n.property
    unfold Field.positive
    simp only [Field.integer, bind, Except.bind, h, dif_pos]
    rfl
  read_map _ _ := ⟨.intType, rfl⟩
  write_isMap _ := rfl
  eq_of_same a b h := Subtype.ext <| Int.ofNat.inj <| by
    simpa [Value.same, Value.sameScalar, Value.integer?] using h

/-- Whole numbers that are not below zero. -/
@[simp]
def natural : Coding Int where
  read := Field.natural
  write := .int
  IsValid n := 0 ≤ n
  read_write n h := by
    unfold Field.natural
    simp only [Field.integer, bind, Except.bind, h, if_pos]
    rfl
  read_map _ _ := ⟨.intType, rfl⟩
  write_isMap _ := rfl
  eq_of_same a b h := by simpa [Value.same, Value.sameScalar, Value.integer?] using h

/-- Truth values. -/
@[simp]
def truth : Coding Bool where
  read := Field.truth
  write := .bool
  IsValid _ := True
  read_write _ _ := rfl
  read_map _ _ := ⟨.boolType, rfl⟩
  write_isMap _ := rfl
  eq_of_same a b h := by
    cases a <;> cases b <;> first | rfl | exact absurd h (by decide)

/-- Texts. -/
@[simp]
def text : Coding String where
  read := Field.text
  write := .text
  IsValid _ := True
  read_write _ _ := rfl
  read_map _ _ := ⟨.stringType, rfl⟩
  write_isMap _ := rfl
  eq_of_same _ _ h := Value.text.inj (Value.text_same.mp h).symm

/-- Texts that may be missing. -/
@[simp]
def text? : Coding (Option String) where
  read := Field.optional Field.text
  write := .ofText?
  IsValid _ := True
  read_write t? _ := by cases t? <;> rfl
  read_map _ _ := ⟨.stringType, rfl⟩
  write_isMap t? := by cases t? <;> rfl
  eq_of_same a b h := by
    cases a <;> cases b <;>
      simp_all [Value.ofText?, Value.same, Value.sameScalar, Value.integer?]

/-- Choices that can be told apart by their names. -/
@[simp]
def choice {α : Type} (all : List α) (name : α → String)
    (h : ∀ a, all.find? (name · == name a) = some a) : Coding α where
  read := Field.choice all name
  write a := .text (name a)
  IsValid _ := True
  read_write a _ := by rw [Field.choice, h]
  read_map _ _ := ⟨.literal, rfl⟩
  write_isMap _ := rfl
  eq_of_same a b hs := by
    have hn : name b = name a := Value.text.inj (Value.text_same.mp hs)
    exact Option.some.inj ((h a).symm.trans (hn ▸ h b))

end Coding

/-- A setting: its place in a mapping, how it is read and written, and what it is in all
settings. -/
structure Setting where
  {Kind : Type}
  group? : Option String
  key : String
  coding : Coding Kind
  get : Settings → Kind

namespace Setting

/-- All settings. -/
def all : List Setting := [
  ⟨none, "version", .integer, (·.version)⟩,
  ⟨none, "debug", .truth, (·.debug)⟩,
  ⟨some "paths", "script", .text?, (·.places.script)⟩,
  ⟨some "paths", "globals_file", .text?, (·.places.globalsFile)⟩,
  ⟨some "paths", "elements_file", .text?, (·.places.elementsFile)⟩,
  ⟨some "paths", "libraries_dir", .text?, (·.places.librariesDir)⟩,
  ⟨some "paths", "globals_attribute", .text, (·.places.globalsAttribute)⟩,
  ⟨some "paths", "elements_attribute", .text, (·.places.elementsAttribute)⟩,
  ⟨some "app", "base_url", .text?, (·.baseUrl)⟩,
  ⟨some "browser", "ws_url", .text?, (·.browser.remote)⟩,
  ⟨some "browser", "browser", .choice BrowserKind.all BrowserKind.name (by rintro ⟨⟩ <;> rfl),
    (·.browser.kind)⟩,
  ⟨some "browser", "headless", .truth, (·.browser.headless)⟩,
  ⟨some "browser", "width", .integer, (·.browser.width)⟩,
  ⟨some "browser", "height", .integer, (·.browser.height)⟩,
  ⟨some "execution", "command_delay_ms", .integer, (·.execution.commandDelay)⟩,
  ⟨some "execution", "poll_interval_ms", .positive,
    fun s => ⟨s.execution.polling.interval, s.execution.polling.interval_pos⟩⟩,
  ⟨some "execution", "wait_timeout_ms", .natural, (·.execution.polling.timeout)⟩,
  ⟨some "execution", "label_attribute", .text, (·.execution.labelName)⟩,
  ⟨some "execution", "max_script_depth", .integer, (·.execution.maxDepth)⟩,
  ⟨some "capabilities", "cache_key", .choice CacheKey.all CacheKey.name (by rintro ⟨⟩ <;> rfl),
    (·.cacheKey)⟩,
  ⟨some "output", "directory", .text?, (·.outputDirectory)⟩]

/-- The sections. -/
def groups : List String :=
  ["paths", "app", "browser", "execution", "capabilities", "output"]

/-- Whether what is at the place of a setting is read as what it is in some settings. -/
def Reads (x : Setting) (v? : Option Value) (s : Settings) : Prop :=
  x.coding.read.Reads (x.get {}) v? (x.get s)

/-- Whether the settings of a group are what its entries say. -/
def GroupReads (group? : Option String) (es : Entries) (s : Settings) : Prop :=
  ∀ x ∈ all, x.group? = group? → x.Reads (Value.under? es (.text x.key)) s

theorem group_mem {x : Setting} (hx : x ∈ all) {g : String} (hg : x.group? = some g) :
    g ∈ groups := by
  have : ∀ x ∈ all, ∀ g ∈ x.group?, g ∈ groups := by simp [all, groups]
  exact this x hx g hg

theorem groupReads_nil {group? : Option String} : GroupReads group? [] {} :=
  fun _ _ _ => rfl

end Setting

open Reader Setting

theorem Places.read_decides (es : Entries) :
    Decides (read es) fun p => GroupReads (some "paths") es { places := p } := by
  refine Decides.congr (.bind (.setting ..) fun _ => .bind (.setting ..) fun _ =>
    .bind (.setting ..) fun _ => .bind (.setting ..) fun _ => .bind (.setting ..) fun _ =>
    .bind (.setting ..) fun _ => .pure) fun p => ?_
  cases p
  simp [GroupReads, Setting.all, Setting.Reads]

theorem BrowserSettings.read_decides (es : Entries) :
    Decides (read es) fun b => GroupReads (some "browser") es { browser := b } := by
  refine Decides.congr (.bind (.setting ..) fun _ => .bind (.setting ..) fun _ =>
    .bind (.setting ..) fun _ => .bind (.setting ..) fun _ => .bind (.setting ..) fun _ =>
    .pure) fun b => ?_
  cases b
  simp [GroupReads, Setting.all, Setting.Reads, -Bool.exists_bool]

theorem Execution.read_decides (es : Entries) :
    Decides (read es) fun e => GroupReads (some "execution") es { execution := e } := by
  refine Decides.congr (.bind (.setting ..) fun _ => .bind (.setting ..) fun _ =>
    .bind (.setting ..) fun _ => .bind (.setting ..) fun _ => .bind (.setting ..) fun _ =>
    .pure) fun e => ?_
  simp only [GroupReads, Setting.all, Setting.Reads, Coding.integer, Coding.positive,
    Coding.natural, Coding.text, List.forall_mem_cons, Option.some.injEq, String.reduceEq,
    reduceCtorEq, forall_const, false_implies, true_and]
  constructor
  · rintro ⟨_, hd, _, hi, _, ht, _, hl, _, hm, rfl⟩
    exact ⟨hd, hi, ht, hl, hm, nofun⟩
  · rintro ⟨hd, hi, ht, hl, hm, -⟩
    exact ⟨_, hd, _, hi, _, ht, _, hl, _, hm, rfl⟩

namespace Settings

variable {es : Entries} {s : Settings}

theorem read_decides (es : Entries) : Decides (read es) fun s => GroupReads none es s ∧
    ∀ g ∈ groups, ∃ fs, Value.sectionOf? es g = some fs ∧ GroupReads (some g) fs s := by
  refine Decides.congr (.bind (.setting ..) fun _ => .bind (.setting ..) fun _ =>
    .bind (.group Places.read_decides ?_) fun _ =>
    .bind (.group (fun _ => .setting ..) ?_) fun _ =>
    .bind (.group BrowserSettings.read_decides ?_) fun _ =>
    .bind (.group Execution.read_decides ?_) fun _ =>
    .bind (.group (fun _ => .setting ..) ?_) fun _ =>
    .bind (.group (fun _ => .setting ..) ?_) fun _ => .pure) fun s => ?_
  any_goals first | exact groupReads_nil | exact rfl
  cases s
  simp [groups, GroupReads, Setting.all, Setting.Reads, and_assoc, -Bool.exists_bool]

/-- The settings that a mapping holds, setting by setting. -/
theorem ofEntries_eq_ok_iff : ofEntries es = .ok s ↔ es.all isNamed = true ∧
    (∀ g ∈ groups, (Value.sectionOf? es g).isSome) ∧
      ∀ x ∈ Setting.all, x.Reads (Value.at? es x.group? x.key) s := by
  unfold ofEntries
  split
  · next hn =>
    rw [(read_decides es).result_eq_ok]
    constructor
    · rintro ⟨htop, hg⟩
      refine ⟨hn, fun g h => ?_, fun x hx => ?_⟩
      · obtain ⟨fs, hfs, -⟩ := hg g h
        rw [hfs]
        rfl
      · cases hgx : x.group? with
        | none => exact htop x hx hgx
        | some g =>
          obtain ⟨fs, hfs, hr⟩ := hg g (group_mem hx hgx)
          rw [Value.at?, hfs]
          exact hr x hx hgx
    · rintro ⟨-, hg, hx⟩
      refine ⟨fun x h hgx => ?_, fun g h => ?_⟩
      · have := hx x h
        rwa [hgx] at this
      · obtain ⟨fs, hfs⟩ := Option.isSome_iff_exists.mp (hg g h)
        refine ⟨fs, hfs, fun x h hgx => ?_⟩
        have := hx x h
        rwa [hgx, Value.at?, hfs] at this
  · next hn =>
    refine ⟨fun h => ?_, fun h => absurd h.1 hn⟩
    cases h

end Settings

end TapScript
