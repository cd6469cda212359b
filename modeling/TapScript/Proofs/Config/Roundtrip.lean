import Mathlib
import TapScript.Proofs.Config.Precedence
import TapScript.Proofs.Files.Contents
import TapScript.Proofs.Text.Utf8
import TapScript.Proofs.Yaml.Writing

/-! # Saved settings

Settings that were saved are loaded as they were, given that their document is read as the mapping
that it was written for. Saved whole, they bind every place anew, so it does not matter what else
is read before them. Saved without the defaults, they have these again because nothing else holds
what was left out.
-/

namespace TapScript

open Value (Orderly at? sectionOf? under? entries? mergeEntries)

namespace FileTree

variable {t t' : FileTree} {p : Path}

/-- What is read from a file to which a document was written. -/
theorem readData_of_write {es : Entries}
    (h : t.write p (.bytes (Text.encode (Yaml.write es))) = .ok t')
    (hk : Yaml.CleanKeys (.map false es))
    (hy : Value.ofDocument (Yaml.write es).toList = .ok (.map false es)) :
    t'.readData p = .ok (.map false es) := by
  have hr := read_of_write h
  have hb : t'.readBytes p = .ok (Text.encode (Yaml.write es)) := by rw [readBytes, hr]; rfl
  have hc : Text.ofDataBytes (Text.encode (Yaml.write es)) = .ok (Yaml.write es).toList := by
    rw [Text.ofDataBytes, Text.decode_encode]
    exact congrArg Except.ok (Text.unifyLineEnds_of_not_mem (Yaml.not_mem_write hk))
  unfold readData
  rw [exists?_of_read hr]
  simp only [Outcome.mapError_ok, bind, Except.bind, if_true, hb, hc, hy]
  cases es <;> rfl

end FileTree

namespace Settings

variable {t t' : FileTree} {s : Settings} {path : Path} {es fs global : Entries} {all : Bool}
  {env : Environment} {file : Option Path} {dir : Path}

/-- What is saved of settings. -/
def saved (s : Settings) (all : Bool) : Entries :=
  if all then s.toEntries else s.changes

section Keys

/-- A list of fields without carriage returns in their names and without mappings. -/
def CleanFields (fields : List (String × Value)) : Prop :=
  ∀ f ∈ fields, '\r' ∉ f.1.toList ∧ f.2.isMap = false

theorem CleanFields.cleanKeys {fields : List (String × Value)} (h : CleanFields fields) :
    Yaml.CleanKeys (.ofPairs fields) := by
  refine .map (fun e he k hk => ?_) fun e he => ?_
  · obtain ⟨f, hf, rfl⟩ := List.mem_map.mp he
    cases hk
    exact (h f hf).1
  · obtain ⟨f, hf, rfl⟩ := List.mem_map.mp he
    exact .leaf (h f hf).2

/-- What is written for a setting or section has no carriage returns in its names. -/
def CleanWritten : Written → Prop
  | .field name v => CleanFields [(name, v)]
  | .group name fields => '\r' ∉ name.toList ∧ CleanFields fields

theorem CleanWritten.name_value {w : Written} (h : CleanWritten w) :
    '\r' ∉ w.name.toList ∧ Yaml.CleanKeys w.value := by
  cases w with
  | field name v =>
    obtain ⟨hn, hv⟩ := h _ List.mem_cons_self
    exact ⟨hn, .leaf hv⟩
  | group name fields => exact ⟨h.1, h.2.cleanKeys⟩

theorem CleanWritten.change? {w d w' : Written} (h : CleanWritten w)
    (hc : Settings.change? w d = some w') : CleanWritten w' := by
  unfold Settings.change? at hc
  split at hc
  · split at hc <;> cases hc
    exact h
  · dsimp only at hc
    split at hc <;> cases hc
    exact ⟨h.1, fun f hf => h.2 f (List.mem_filter.mp hf).1⟩
  · cases hc
    exact h

theorem cleanWritten_written (s : Settings) : ∀ w ∈ s.written, CleanWritten w := by
  have htext : ∀ t? : Option String, (Value.ofText? t?).isMap = false := by rintro (_ | _) <;> rfl
  simp only [written, CleanWritten, CleanFields, List.forall_mem_cons, htext]
  simp [Value.isMap]

theorem cleanKeys_of_written (h : ∀ e ∈ es, ∃ w, CleanWritten w ∧ e = (.text w.name, w.value)) :
    Yaml.CleanKeys (.map false es) := by
  refine .map (fun e he k hk => ?_) fun e he => ?_
  · obtain ⟨w, hw, rfl⟩ := h e he
    cases hk
    exact hw.name_value.1
  · obtain ⟨w, hw, rfl⟩ := h e he
    exact hw.name_value.2

theorem cleanKeys_saved (s : Settings) (all : Bool) :
    Yaml.CleanKeys (.map false (s.saved all)) := by
  refine cleanKeys_of_written fun e he => ?_
  cases all with
  | true =>
    obtain ⟨w, hw, rfl⟩ := List.mem_map.mp he
    exact ⟨w, s.cleanWritten_written w hw, w.toEntry_eq⟩
  | false =>
    obtain ⟨w, hw, d, w', hc, rfl⟩ := mem_changes he
    exact ⟨w', (s.cleanWritten_written w hw).change? hc, rfl⟩

end Keys

theorem isNamed_bindTo {k v : Value} (hk : isNamed (k, v) = true) (he : es.all isNamed = true) :
    (Value.bindTo es k v).all isNamed = true := by
  rw [Value.bindTo_eq]
  split
  · rw [Value.rebind, List.all_map]
    refine List.all_eq_true.mpr fun e h => ?_
    have := List.all_eq_true.mp he e h
    dsimp only [Function.comp]
    split
    · exact this
    · exact this
  · rw [List.all_append, he]
    simpa using hk

theorem isNamed_mergeEntries (he : es.all isNamed = true) (hf : fs.all isNamed = true) :
    (mergeEntries es fs).all isNamed = true := by
  induction fs generalizing es with
  | nil => rwa [mergeEntries]
  | cons f fs ih =>
    rw [List.all_cons, Bool.and_eq_true] at hf
    rw [mergeEntries]
    exact ih (isNamed_bindTo hf.1 he) hf.2

/-- A section is a mapping after it is overridden by one. -/
theorem isSome_sectionOf?_of_under? {b b' : Bool} {g : String} {fs' : Entries}
    (hf : Orderly (.map b fs)) (h : under? fs (.text g) = some (.map b' fs')) :
    (sectionOf? (mergeEntries es fs) g).isSome := by
  rw [sectionOf?, Value.under?_mergeEntries hf.entries.1, h, Option.map_some, Option.some_or]
  unfold Value.overriding
  split <;> simp_all [entries?]

/-- All settings, read after anything else, are what they were. -/
theorem ofEntries_toEntries (hc : s.IsValid) (ho : Orderly (.map false s.toEntries))
    (hn : es.all isNamed = true) : ofEntries (mergeEntries es s.toEntries) = .ok s := by
  refine ofEntries_eq_ok_iff.mpr ⟨isNamed_mergeEntries hn s.toEntries_isNamed, ?_, ?_⟩
  · have hg : ∀ g ∈ Setting.groups, ∃ b fs, under? s.toEntries (.text g) = some (.map b fs) := by
      simp [Setting.groups, toEntries, written, Written.toEntry, Value.ofPairs,
        Value.under?_text_cons]
    intro g h
    obtain ⟨b, fs, hu⟩ := hg g h
    exact isSome_sectionOf?_of_under? ho hu
  · intro x hx
    have ht := Setting.at?_toEntries s x hx
    have hr := Setting.reads_toEntries hc hx
    rw [ht] at hr
    rwa [Value.at?_mergeEntries_of_at? ho ht (x.coding.write_isMap _)]

/-- The settings without those that have their defaults, read after nothing or after themselves,
are what they were. -/
theorem ofEntries_changes (hc : s.IsValid) (ho : Orderly (.map false s.changes))
    (hg : global = [] ∨ global = s.changes) :
    ofEntries (mergeEntries (mergeEntries [] global) s.changes) = .ok s := by
  have hglobal : Orderly (.map false global) := by
    obtain rfl | rfl := hg
    · exact .nil
    · exact ho
  have hsec : ∀ g ∈ Setting.groups, (sectionOf? global g).isSome := by
    obtain rfl | rfl := hg
    · exact fun _ _ => rfl
    · exact s.sectionOf?_changes
  have hbase : ∀ g ∈ Setting.groups, (sectionOf? (mergeEntries [] global) g).isSome := fun g h =>
    Value.isSome_sectionOf?_mergeEntries hglobal rfl (hsec g h)
  refine ofEntries_eq_ok_iff.mpr ⟨?_, fun g h => ?_, fun x hx => ?_⟩
  · refine isNamed_mergeEntries (isNamed_mergeEntries rfl ?_) s.changes_isNamed
    obtain rfl | rfl := hg
    · rfl
    · exact s.changes_isNamed
  · exact Value.isSome_sectionOf?_mergeEntries ho (hbase g h) (s.sectionOf?_changes g h)
  · have hr := Setting.reads_changes hc hx
    rw [Setting.reads_mergeEntries ho fun g h =>
      ⟨hbase g (Setting.group_mem hx h), s.sectionOf?_changes g (Setting.group_mem hx h)⟩]
    cases hp : at? s.changes x.group? x.key with
    | some v => rwa [hp] at hr
    | none =>
      rw [Option.none_or, Setting.reads_mergeEntries hglobal fun g h =>
        ⟨rfl, hsec g (Setting.group_mem hx h)⟩, Value.at?_nil, Option.or_none]
      obtain rfl | rfl := hg
      · rwa [hp, ← Value.at?_nil] at hr
      · exact hr

/-- Settings that were saved are loaded as they were. -/
theorem load_of_save (hc : 0 ≤ s.execution.polling.timeout) (hs : s.save t path all = .ok t')
    (hy : Value.ofDocument (Yaml.write (s.saved all)).toList = .ok (.map false (s.saved all)))
    (hg : entriesOf t' (homeFile? t') = .ok global) (hn : global.all isNamed = true)
    (ha : all = true ∨ global = [] ∨ global = s.changes) :
    load t' [] (some path) dir = .ok s := by
  have hc := isValid_iff.mpr hc
  have ho := Value.ofDocument_orderly hy
  obtain ⟨t₁, -, hw⟩ := Outcome.bind_eq_ok.mp hs
  have hd := FileTree.readData_of_write hw (s.cleanKeys_saved all) hy
  have he := FileTree.exists?_of_read (FileTree.read_of_write hw)
  have hp : entriesOf t' (some path) = .ok (s.saved all) := by
    rw [entriesOf, he]
    simp only [Outcome.mapError_ok, bind, Except.bind, if_true, hd]
    rfl
  have henv : ∀ es : Entries, mergeEntries es (Environment.overrides []) = es := by
    intro es
    have : Environment.overrides [] = [] := by decide
    rw [this, mergeEntries]
  refine load_eq_ok.mpr ⟨some path, global, s.saved all, rfl, hg, hp, ?_⟩
  rw [henv]
  cases all with
  | true =>
    exact ofEntries_toEntries hc ho (isNamed_mergeEntries rfl hn)
  | false => exact ofEntries_changes hc ho (ha.resolve_left Bool.false_ne_true)

end Settings

namespace Simulation

/-- A home directory without settings. -/
def homestead : FileTree where
  entries := [(["h"], .dir)]
  here := ["h"]
  homes := [("", ⟨.root, ["h"]⟩)]

/-- Settings of which two do not have their defaults. -/
def debugged : Settings where
  debug := true
  places := { script := some "no" }

/-- Settings that are saved without the defaults, in a directory that has to be made, come back. -/
theorem load_of_save_debugged :
    ∃ t', debugged.save homestead ⟨.here, ["w", "s.yaml"]⟩ false = .ok t' ∧
      Settings.load t' [] (some ⟨.here, ["w", "s.yaml"]⟩) = .ok debugged := by
  have hy : Value.ofDocument (Yaml.write (debugged.saved false)).toList =
      .ok (.map false (debugged.saved false)) := by
    cbv
  obtain ⟨t', hs, hg⟩ : ∃ t', debugged.save homestead ⟨.here, ["w", "s.yaml"]⟩ false = .ok t' ∧
      Settings.entriesOf t' (Settings.homeFile? t') = .ok [] := by
    refine ⟨_, rfl, ?_⟩
    rfl
  exact ⟨t', hs, Settings.load_of_save (by decide) hs hy hg rfl (.inr (.inl rfl))⟩

end Simulation

end TapScript
