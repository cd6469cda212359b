import TapScript.Proofs.Files.Walks

/-! # What a file tree holds

What is written to a file is what it holds from then on, and a directory that was made is there.
Both rest on the same fact: a walk goes through directories only, so that a new entry where there
is no directory is in the way of no walk.
-/

namespace TapScript

/-- A letter that writes no path of its own is in a path if it is in one of its names. -/
theorem Path.mem_text_iff {p : Path} {c : Char} (hd : c ≠ '.') (hs : c ≠ '/') :
    c ∈ p.text.toList ↔ ∃ n ∈ p.parts, c ∈ n.toList := by
  unfold text
  split
  · next h => simp [h.2, hd]
  · have ha : c ∉ p.anchor.text.toList := by
      cases p.anchor <;> simp [Anchor.text, hs]
    rw [String.toList_append, List.mem_append, String.toList_intercalate,
      Text.mem_intercalate_iff (by simpa using hs), or_iff_right ha]
    constructor
    · rintro ⟨_, hl, hc⟩
      obtain ⟨n, hn, rfl⟩ := List.mem_map.mp hl
      exact ⟨n, hn, hc⟩
    · rintro ⟨n, hn, hc⟩
      exact ⟨_, List.mem_map_of_mem hn, hc⟩

namespace FileTree

variable {t t' : FileTree} {l l' : Location} {e : Entry} {p : Path} {c : Content}

/-- Looking in what is kept of some entries by their locations. -/
theorem lookup_filter_not (test : Location → Bool) (es : List (Location × Entry)) :
    (es.filter fun e => !test e.1).lookup l = if test l then none else es.lookup l := by
  induction es with
  | nil => simp
  | cons e es ih =>
    obtain ⟨k, e⟩ := e
    by_cases hk : l = k
    · subst hk
      cases htest : test l with
      | true => simpa [htest] using ih
      | false => simp [htest]
    · cases htest : test k <;> simp [htest, ih, List.lookup_cons, beq_false_of_ne hk]

theorem entryAt?_put_of_ne (h : l' ≠ l) : (t.put l e).entryAt? l' = t.entryAt? l' := by
  have hkept : (t.entries.filter (·.1 != l)).lookup l' = t.entries.lookup l' :=
    (lookup_filter_not (· == l) t.entries).trans (if_neg (by simpa using h))
  unfold entryAt? put
  rw [List.lookup_append, hkept, List.lookup_cons, beq_false_of_ne h]
  simp

theorem entryAt?_put_self (h : l ≠ []) : (t.put l e).entryAt? l = some e := by
  have hl : (t.entries.filter (·.1 != l)).lookup l = none :=
    (lookup_filter_not (· == l) t.entries).trans (if_pos (beq_self_eq_true l))
  unfold entryAt? put
  rw [if_neg h, List.lookup_append, hl]
  simp

/-- A step leads from a directory, so it leads to the same place if no directory is replaced. -/
theorem step_put (hl : t.entryAt? l ≠ some .dir) {l₁ l₂ : Location} {name : String}
    (h : t.step l₁ name = .ok l₂) : (t.put l e).step l₁ name = .ok l₂ := by
  have hne : l₁ ≠ l := by
    rintro rfl
    exact hl (step_eq h).1
  unfold step at h ⊢
  rwa [entryAt?_put_of_ne hne]

theorem reach_put (hl : t.entryAt? l ≠ some .dir) (h : t.reach p = .ok l') :
    (t.put l e).reach p = .ok l' := by
  have walk : ∀ (names : List String) (l₁ : Location),
      names.foldlM t.step l₁ = .ok l' → names.foldlM (t.put l e).step l₁ = .ok l' := by
    intro names
    induction names with
    | nil => exact fun _ h => h
    | cons name names ih =>
      intro l₁ h
      rw [List.foldlM_cons] at h ⊢
      obtain ⟨l₂, hs, h⟩ := Outcome.bind_eq_ok.mp h
      exact Outcome.bind_eq_ok.mpr ⟨l₂, step_put hl hs, ih l₂ h⟩
  unfold reach at h ⊢
  split at h
  · cases h
  · next hp => exact (if_neg hp).trans (walk _ _ h)

theorem ne_nil_of_entryAt? (h : t.entryAt? l ≠ some .dir) : l ≠ [] := by
  rintro rfl
  exact h rfl

/-- How a file comes to be written. -/
theorem put_of_write (h : t.write p c = .ok t') : ∃ l, '\x00' ∉ p.text.toList ∧
    t.reach p = .ok l ∧ t.entryAt? l ≠ some .dir ∧ t' = t.put l (.file c) := by
  unfold write at h
  split at h
  · cases h
  · next hp =>
    cases hl : t.reach p with
    | error e => rw [hl] at h; cases h
    | ok l =>
      rw [hl] at h
      refine ⟨l, fun hc => hp (List.contains_iff_mem.mpr hc), rfl, ?_⟩
      dsimp only at h
      split at h <;> cases h
      all_goals exact ⟨by simp [*], rfl⟩

/-- What is written to a file is read from it. -/
theorem read_of_write (h : t.write p c = .ok t') : t'.read p = .ok c := by
  obtain ⟨l, hp, hr, hl, rfl⟩ := put_of_write h
  unfold read status
  rw [if_neg fun hc => hp (List.contains_iff_mem.mp hc), reach_put hl hr]
  simp only [bind, Except.bind, entryAt?_put_self (ne_nil_of_entryAt? hl)]

/-- A file that can be read is there. -/
theorem exists?_of_read (h : t.read p = .ok c) : t.exists? p = .ok true := by
  unfold read at h
  unfold exists? probe
  split at h
  · cases h
  · next hp =>
    rw [if_neg hp]
    split at h <;> cases h
    next hs => rw [hs]

/-- Whether a file can be written does not depend on what is to be written. -/
theorem write_of_write (h : t.write p c = .ok t') (c' : Content) :
    ∃ t'', t.write p c' = .ok t'' := by
  unfold write at h ⊢
  split at h
  · cases h
  · next hp =>
    rw [if_neg hp]
    dsimp only at h ⊢
    split at h
    · cases h
    · split at h <;> cases h
      all_goals simp [*]

/-- How a directory comes to be made. -/
theorem put_of_makeDir (h : t.makeDir p = .ok t') :
    ∃ l, t.reach p = .ok l ∧ t.entryAt? l = none ∧ t' = t.put l .dir := by
  unfold makeDir at h
  split at h
  · cases h
  · next l hl =>
    split at h <;> cases h
    exact ⟨l, hl, by assumption, rfl⟩

theorem probe_of_entry (hp : '\x00' ∉ p.text.toList) (hl : t.reach p = .ok l)
    (he : t.entryAt? l = some e) (test : Entry → Bool) : t.probe p test = .ok (test e) := by
  unfold probe status
  rw [if_neg fun hc => hp (List.contains_iff_mem.mp hc), hl]
  simp only [bind, Except.bind, he]

/-- A path that passes a test leads to something that does. -/
theorem entry_of_probe {test : Entry → Bool} (h : t.probe p test = .ok true) :
    '\x00' ∉ p.text.toList ∧
      ∃ l e, t.reach p = .ok l ∧ t.entryAt? l = some e ∧ test e = true := by
  unfold probe at h
  split at h
  · cases h
  · next hp =>
    refine ⟨fun hc => hp (List.contains_iff_mem.mpr hc), ?_⟩
    split at h
    · next e hs =>
      obtain ⟨l, hl, hs⟩ := Outcome.bind_eq_ok.mp hs
      split at hs
      · next he =>
        cases hs
        exact ⟨l, e, hl, he, Except.ok.inj h⟩
      · cases hs
    · cases h
    · cases h

theorem entry_of_isFile (h : t.isFile p = .ok true) :
    '\x00' ∉ p.text.toList ∧ ∃ l c, t.reach p = .ok l ∧ t.entryAt? l = some (.file c) := by
  obtain ⟨hp, l, e, hl, he, htest⟩ := entry_of_probe h
  cases e with
  | dir => cases htest
  | file c => exact ⟨hp, l, c, hl, he⟩

theorem entry_of_isDir (h : t.isDir p = .ok true) :
    ∃ l, t.reach p = .ok l ∧ t.entryAt? l = some .dir := by
  obtain ⟨-, l, e, hl, he, htest⟩ := entry_of_probe h
  cases e with
  | dir => exact ⟨l, hl, he⟩
  | file c => cases htest

/-- A directory that is there need not be made. -/
theorem ensureDir_of_isDir (h : t.isDir p = .ok true) : t.ensureDir p = .ok t := by
  obtain ⟨l, hl, he⟩ := entry_of_isDir h
  have hm : t.makeDir p = .error ⟨.alreadyExists, p.text⟩ := by
    simp only [makeDir, hl, he]
  unfold ensureDir
  rw [hm]
  simp [h, bind, Except.bind]

theorem isDir_of_ensureDir (hp : '\x00' ∉ p.text.toList) (h : t.ensureDir p = .ok t') :
    t'.isDir p = .ok true := by
  unfold ensureDir at h
  cases hm : t.makeDir p with
  | ok t₁ =>
    rw [hm] at h
    cases h
    obtain ⟨l, hl, he, rfl⟩ := put_of_makeDir hm
    have hd : t.entryAt? l ≠ some .dir := by simp [he]
    exact probe_of_entry hp (reach_put hd hl) (entryAt?_put_self (ne_nil_of_entryAt? hd)) _
  | error e =>
    rw [hm] at h
    dsimp only at h
    split at h
    · cases h
    · obtain ⟨b, hb, h⟩ := Outcome.bind_eq_ok.mp h
      cases b <;> cases h
      exact hb

theorem ensureDir_of_ensureDirsAbove {anchor : Anchor} {names : List String}
    (h : t.ensureDirsAbove anchor names = .ok t') :
    ∃ t₁ : FileTree, t₁.ensureDir ⟨anchor, names.reverse⟩ = .ok t' := by
  cases names with
  | nil => exact ⟨t, h⟩
  | cons name above =>
    unfold ensureDirsAbove at h
    dsimp only at h
    split at h
    · next h' => cases h; exact ⟨t, h'⟩
    · split at h
      · obtain ⟨t₁, -, h⟩ := Outcome.bind_eq_ok.mp h
        exact ⟨t₁, h⟩
      · cases h

/-- Directories that were made need not be made again. -/
theorem ensureDirs_self (h : t.ensureDirs p = .ok t') : t'.ensureDirs p = .ok t' := by
  unfold ensureDirs at h ⊢
  split at h
  · cases h
  · next hc =>
    have hp : '\x00' ∉ p.text.toList := fun hm => hc (List.contains_iff_mem.mpr hm)
    rw [if_neg hc]
    cases hd : t.ensureDirsAbove p.anchor p.parts.reverse with
    | error e => rw [hd] at h; cases h
    | ok t₁ =>
      rw [hd] at h
      cases h
      obtain ⟨t₀, h₀⟩ := ensureDir_of_ensureDirsAbove hd
      rw [List.reverse_reverse] at h₀
      have he := ensureDir_of_isDir (isDir_of_ensureDir hp h₀)
      suffices t'.ensureDirsAbove p.anchor p.parts.reverse = .ok t' by rw [this]; rfl
      generalize hn : p.parts.reverse = names
      have hq : (⟨p.anchor, names.reverse⟩ : Path) = p := by rw [← hn, List.reverse_reverse]
      cases names with
      | nil => rw [ensureDirsAbove]; exact hq ▸ he
      | cons name above => unfold ensureDirsAbove; dsimp only; rw [hq, he]

end FileTree

end TapScript
