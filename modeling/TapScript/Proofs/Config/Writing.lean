import TapScript.Proofs.Config.Schema

/-! # What settings write

Written out, settings hold at the place of each setting what is written for it. Without those that
have their defaults they hold just that, unless it is the default. Either way every setting is read
back as it was.
-/

namespace TapScript

open Value

theorem Value.under?_text_cons {k s : String} {v : Value} {es : Entries} :
    under? ((.text k, v) :: es) (.text s) = if k = s then some v else under? es (.text s) := by
  split
  · next h => rw [h, under?_cons_self]
  · next h => exact under?_cons_of_ne fun hk => h (by simpa using hk)

/-- Settings each of which may be as it is. -/
def Settings.IsValid (s : Settings) : Prop :=
  ∀ x ∈ Setting.all, x.coding.IsValid (x.get s)

namespace Written

variable {w d : Written} {ws ds : List Written} {fields defaults : List (String × Value)}

/-- The name of what is written. -/
def name : Written → String
  | field n _ => n
  | group n _ => n

/-- The value that is written. -/
def value : Written → Value
  | field _ v => v
  | group _ fields => .ofPairs fields

theorem toEntry_eq (w : Written) : w.toEntry = (.text w.name, w.value) := by
  cases w <;> rfl

theorem name_of_change? {w' : Written} (h : Settings.change? w d = some w') : w'.name = w.name := by
  unfold Settings.change? at h
  split at h
  · split at h <;> cases h
    rfl
  · dsimp only at h
    split at h <;> cases h
    rfl
  · cases h
    rfl

/-- What is written without the defaults. -/
def changes (ws ds : List Written) : Entries :=
  (List.zipWith Settings.change? ws ds).filterMap fun w => w.map toEntry

theorem under?_changes_cons {s : String} :
    under? (changes (w :: ws) (d :: ds)) (.text s) =
      (if w.name = s then (Settings.change? w d).map value else Option.none).or
        (under? (changes ws ds) (.text s)) := by
  unfold changes
  rw [List.zipWith_cons_cons]
  cases h : Settings.change? w d with
  | none => simp
  | some w' =>
    rw [List.filterMap_cons, Option.map_some, toEntry_eq, under?_text_cons, name_of_change? h]
    split <;> rfl

@[simp]
theorem under?_changes_nil {k : Value} : under? (changes [] []) k = Option.none := rfl

@[simp]
theorem under?_changed_nil {k : Value} :
    under? ((changed [] defaults).map fun f => (.text f.1, f.2)) k = Option.none := rfl

theorem value_change?_field {n n' : String} {v v' : Value} :
    (Settings.change? (field n v) (field n' v')).map value =
      if v.same v' then Option.none else some v := by
  unfold Settings.change?
  dsimp only
  split <;> rfl

theorem under?_changed_cons {n s : String} {v : Value} :
    under? ((changed ((n, v) :: fields) defaults).map fun f => (.text f.1, f.2)) (.text s) =
      (if n = s then if (defaults.lookup n).any v.same then Option.none else some v
        else Option.none).or
        (under? ((changed fields defaults).map fun f => (.text f.1, f.2)) (.text s)) := by
  unfold changed
  cases h : (defaults.lookup n).any v.same with
  | false =>
    rw [List.filter_cons_of_pos (by simpa using h), List.map_cons, under?_text_cons]
    by_cases hs : n = s <;> simp [hs]
  | true => simp [h]

theorem entries?_change? {n n' : String} :
    entries? ((Settings.change? (group n fields) (group n' defaults)).map value) =
      some ((changed fields defaults).map fun f => (.text f.1, f.2)) := by
  unfold Settings.change?
  dsimp only
  split
  · next h =>
    rw [List.isEmpty_iff.mp h]
    rfl
  · rfl

end Written

namespace Setting

variable {s : Settings} {x : Setting}

theorem at?_toEntries (s : Settings) : ∀ x ∈ all,
    at? s.toEntries x.group? x.key = some (x.coding.write (x.get s)) := by
  simp [all, at?, sectionOf?, entries?, Settings.toEntries, Settings.written, Written.toEntry,
    ofPairs, under?_text_cons, under?_nil]

theorem at?_changes (s : Settings) : ∀ x ∈ all, at? s.changes x.group? x.key =
    if (x.coding.write (x.get s)).same (x.coding.write (x.get {})) then Option.none
    else some (x.coding.write (x.get s)) := by
  have hc : s.changes = Written.changes s.written ({} : Settings).written := rfl
  simp only [hc, Settings.written]
  simp [all, at?, sectionOf?, Written.under?_changes_cons, Written.name,
    Written.entries?_change?, Written.under?_changed_cons, Written.value_change?_field,
    List.lookup_cons]

/-- What all settings write at each place is read back. -/
theorem reads_toEntries (hs : s.IsValid) (hx : x ∈ all) :
    x.Reads (at? s.toEntries x.group? x.key) s := by
  rw [at?_toEntries s x hx]
  exact x.coding.read_write _ (hs x hx)

/-- What is left out has the default. -/
theorem reads_changes (hs : s.IsValid) (hx : x ∈ all) :
    x.Reads (at? s.changes x.group? x.key) s := by
  rw [at?_changes s x hx]
  split
  · next h => exact x.coding.eq_of_same _ _ h
  · exact x.coding.read_write _ (hs x hx)

end Setting

namespace Settings

theorem isValid_iff {s : Settings} : s.IsValid ↔ 0 ≤ s.execution.polling.timeout := by
  simp [IsValid, Setting.all]

theorem toEntries_isNamed (s : Settings) : s.toEntries.all isNamed = true := rfl

/-- An entry of the changes is what is left of what is written. -/
theorem mem_changes {s : Settings} {e : Value × Value} (h : e ∈ s.changes) :
    ∃ w ∈ s.written, ∃ d w', change? w d = some w' ∧ e = (.text w'.name, w'.value) := by
  obtain ⟨w?, hw?, hw⟩ := List.mem_filterMap.mp h
  obtain ⟨w', rfl, rfl⟩ := Option.map_eq_some_iff.mp hw
  rw [← List.map_uncurry_zip_eq_zipWith] at hw?
  obtain ⟨⟨w, d⟩, hz, hc⟩ := List.mem_map.mp hw?
  exact ⟨w, (List.of_mem_zip hz).1, d, w', hc, w'.toEntry_eq⟩

theorem changes_isNamed (s : Settings) : s.changes.all isNamed = true := by
  refine List.all_eq_true.mpr fun e he => ?_
  obtain ⟨w, -, d, w', -, rfl⟩ := mem_changes he
  rfl

theorem sectionOf?_changes (s : Settings) :
    ∀ g ∈ Setting.groups, (sectionOf? s.changes g).isSome := by
  have hc : s.changes = Written.changes s.written ({} : Settings).written := rfl
  simp only [hc, written]
  simp [Setting.groups, sectionOf?, Written.under?_changes_cons, Written.name,
    Written.entries?_change?]

end Settings

end TapScript
