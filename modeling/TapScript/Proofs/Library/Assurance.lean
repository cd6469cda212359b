import TapScript.Proofs.Library.Cache
import TapScript.Proofs.Script.Findings

/-! # What validation assures of libraries

Validation and the preparation of a run load the libraries of a script in the same order, each
into a registry of its own. But a built-in verb with needs has its library loaded by preparation
alone, which is therefore ahead. If that library is there and takes the place of no other one,
then a valid script has all its libraries, and they list all the commands that it calls.
-/

namespace TapScript

variable {t : FileTree} {r v v' p : Registry} {cs : List Command} {c : Command} {l : Library}
  {key : String}

/-- A command that a library lists, and not without a routine, can be called. -/
theorem Library.routine_of_provides {verb : String} {listed : List (String × Option Routine)}
    (h : l.module.provides verb = .ok true) (hc : l.module.commands = .ok listed)
    (hl : listed.lookup verb ≠ some none) : ∃ r, l.routine verb = .ok r := by
  rw [Module.provides, hc] at h
  have hany : listed.any (·.1 == verb) = true := Except.ok.inj h
  cases hm : listed.lookup verb with
  | none =>
    obtain ⟨⟨name, r?⟩, hmem, hname⟩ := List.any_eq_true.mp hany
    have hne : verb ≠ name := by simpa using List.lookup_eq_none_iff.mp hm _ hmem
    exact absurd (beq_iff_eq.mp hname).symm hne
  | some r? =>
    cases r? with
    | none => exact absurd hm hl
    | some r => exact ⟨r, by rw [routine_of_commands hc, hm, Option.join_some]⟩

namespace Command

theorem load_of_checkLibrary {found : Report} (h : c.checkLibrary t v = (.ok found, v'))
    (hv : found.errors = []) :
    ∃ l, v.load t c.library = (.ok l, v') ∧ l.module.provides c.verb = .ok true := by
  unfold checkLibrary at h
  split at h
  · next l r₁ hl =>
    obtain ⟨hfound, rfl⟩ := Prod.mk.injEq .. ▸ h
    obtain ⟨hp, -⟩ | ⟨-, rfl⟩ := checkListed_cases hfound
    · exact ⟨l, hl, hp⟩
    · cases hv
  · split at h <;> cases h
    cases hv
  · cases h

/-- Whether the library that a command names can be loaded, and is kept under the key of no other
one that validation looks for. -/
def IsHarmless (t : FileTree) (r : Registry) (cs : List Command) (c : Command) : Prop :=
  (∃ l, (r.load t c.library).1 = .ok l) ∧
    ∀ d ∈ cs, d.library ≠ [] → d.IsFree → r.key d.library = r.key c.library →
      d.library = c.library

theorem IsHarmless.tail {d : Command} (h : c.IsHarmless t r (d :: cs)) : c.IsHarmless t r cs :=
  ⟨h.1, fun b hb => h.2 b (List.mem_cons_of_mem d hb)⟩

end Command

namespace Registry

/-- A registry in preparation for some commands, beside one for their validation. Both have grown
from one registry. What the first has beyond the second is what the second is going to load. -/
structure Ahead (t : FileTree) (r : Registry) (cs : List Command) (v p : Registry) : Prop where
  validating : r.Extends v
  preparing : r.Extends p
  loaded : ∀ key, p.loaded.lookup key = v.loaded.lookup key ∨
    v.loaded.lookup key = none ∧ ∃ l, p.loaded.lookup key = some l ∧
      ∀ d ∈ cs, d.library ≠ [] → d.IsFree → r.key d.library = .ok key →
        r.fetch t key d.library = .ok l

theorem Ahead.refl : Ahead t r cs r r :=
  ⟨.refl r, .refl r, fun _ => Or.inl rfl⟩

theorem Ahead.tail (h : Ahead t r (c :: cs) v p) : Ahead t r cs v p where
  validating := h.validating
  preparing := h.preparing
  loaded key := (h.loaded key).imp id fun ⟨hv, l, hp, hl⟩ =>
    ⟨hv, l, hp, fun d hd => hl d (List.mem_cons_of_mem c hd)⟩

theorem Ahead.lookup_eq (h : Ahead t r cs v p) (hv : v.loaded.lookup key = some l) :
    p.loaded.lookup key = some l := by
  obtain hp | ⟨hv', -⟩ := h.loaded key
  · exact hp.trans hv
  · rw [hv] at hv'
    cases hv'

theorem Ahead.fetch_eq (h : Ahead t r (c :: cs) v p) (hn : c.library ≠ []) (hc : c.IsFree)
    (hk : r.key c.library = .ok key) (hv : v.loaded.lookup key = none)
    (hp : p.loaded.lookup key = some l) : r.fetch t key c.library = .ok l := by
  obtain hp' | ⟨-, l', hp', hl⟩ := h.loaded key
  · rw [hp, hv] at hp'
    cases hp'
  · rw [hp] at hp'
    cases hp'
    exact hl c (by simp) hn hc hk

/-- What validation loads is loaded by preparation too, if it is not there already. -/
theorem Ahead.load_free (h : Ahead t r (c :: cs) v p) (hc : c.IsFree)
    (hl : v.load t c.library = (.ok l, v')) :
    ∃ p', p.load t c.library = (.ok l, p') ∧ Ahead t r cs v' p' := by
  obtain ⟨f, hf⟩ | ⟨m, -, hm⟩ | ⟨key, m, hn, hk, hv, hf, hm⟩ := load_cases v t c.library
  · rw [hf] at hl
    cases hl
  · obtain ⟨hn, key, hk, hv⟩ := lookup_of_load hl
    rw [hm] at hl
    cases hl
    have hk : p.key c.library = .ok key :=
      h.preparing.key_eq.trans (h.validating.key_eq.symm.trans hk)
    exact ⟨p, load_of_lookup hn hk (h.lookup_eq hv) t, h.tail⟩
  · rw [hm] at hl
    cases hl
    have hx := load_extends v t c.library
    rw [hm] at hx
    rw [h.validating.key_eq] at hk
    rw [h.validating.fetch_eq] at hf
    have hkp : p.key c.library = .ok key := h.preparing.key_eq.trans hk
    cases hp : p.loaded.lookup key with
    | none =>
      have hload := load_of_fetch hn hkp hp (h.preparing.fetch_eq.trans hf)
      have hy := load_extends p t c.library
      rw [hload] at hy
      refine ⟨_, hload, h.validating.trans hx, h.preparing.trans hy, fun key' => ?_⟩
      rw [lookup_concat, lookup_concat]
      by_cases he : key' = key
      · subst he
        exact Or.inl (by rw [hp, hv])
      · simpa [he] using h.tail.loaded key'
    | some m =>
      obtain rfl : m = l := Except.ok.inj ((h.fetch_eq hn hc hk hv hp).symm.trans hf)
      refine ⟨p, load_of_lookup hn hkp hp t, h.validating.trans hx, h.preparing, fun key' => ?_⟩
      rw [lookup_concat]
      by_cases he : key' = key
      · subst he
        exact Or.inl (by simp [hp, hv])
      · simpa [he] using h.tail.loaded key'

/-- What preparation alone loads is there, and leaves validation nothing else to load. -/
theorem Ahead.load_harmless (h : Ahead t r (c :: cs) v p) (hc : c.IsHarmless t r cs) :
    ∃ l p', p.load t c.library = (.ok l, p') ∧ Ahead t r cs v p' := by
  obtain ⟨⟨l, hl⟩, hother⟩ := hc
  obtain ⟨f, hf⟩ | ⟨m, hh, -⟩ | ⟨key, m, hn, hk, -, hf, -⟩ := load_cases r t c.library
  · rw [hf] at hl
    cases hl
  · obtain ⟨l, hp⟩ := (hh.mono h.preparing).load
    exact ⟨l, p, hp t, h.tail⟩
  have hkp : p.key c.library = .ok key := h.preparing.key_eq.trans hk
  cases hp : p.loaded.lookup key with
  | some m' => exact ⟨m', p, load_of_lookup hn hkp hp t, h.tail⟩
  | none =>
    have hv : v.loaded.lookup key = none := by
      obtain hp' | ⟨hv, -⟩ := h.loaded key
      · exact hp'.symm.trans hp
      · exact hv
    have hload := load_of_fetch hn hkp hp (h.preparing.fetch_eq.trans hf)
    have hy := load_extends p t c.library
    rw [hload] at hy
    refine ⟨m, _, hload, h.validating, h.preparing.trans hy, fun key' => ?_⟩
    rw [lookup_concat]
    by_cases he : key' = key
    · subst he
      refine Or.inr ⟨hv, m, by simp [hp], fun d hd hdn hfree hdk => ?_⟩
      rw [hother d hd hdn hfree (hdk.trans hk.symm), hf]
    · simpa [he] using h.tail.loaded key'

end Registry

namespace Script

variable {g : Registry} {report : Report} {script : Script}

/-- Whether a library is held for good that lists the command. -/
def Assured (g : Registry) (c : Command) : Prop :=
  ∃ l, (∀ g' t, g.Extends g' → g'.load t c.library = (.ok l, g')) ∧
    l.module.provides c.verb = .ok true ∧
    ∀ listed, l.module.commands = .ok listed → listed.lookup c.verb ≠ some none →
      ∃ r, l.routine c.verb = .ok r

theorem assured_of_load (hl : p.load t c.library = (.ok l, v)) (h : v.Extends g)
    (hc : l.module.provides c.verb = .ok true) : Assured g c :=
  ⟨l, fun _ t' hg => Registry.load_of_extends hl (h.trans hg) t', hc,
    fun _ => Library.routine_of_provides hc⟩

theorem prepare_of_checkAll (h : checkAll t cs (some v) = .ok report) (hv : report.errors = [])
    (ha : r.Ahead t cs v p)
    (hp : ∀ c ∈ cs, c.library ≠ [] → c.IsFree ∨ c.IsHarmless t r cs) :
    ∃ ls g, Registry.prepare t cs p = (.ok ls, g) ∧
      ∀ c ∈ cs, c.library ≠ [] → c.IsFree → Assured g c := by
  induction cs generalizing v p report with
  | nil => exact ⟨[], p, rfl, by simp⟩
  | cons c cs ih =>
    obtain ⟨found, v'?, rest, hc, hr, rfl⟩ := checkAll_cons h
    obtain ⟨hvf, hvr⟩ := List.append_eq_nil_iff.mp hv
    obtain ⟨hpc, hpcs⟩ := List.forall_mem_cons.mp hp
    have hpcs : ∀ c ∈ cs, c.library ≠ [] → c.IsFree ∨ c.IsHarmless t r cs :=
      fun d hd hn => (hpcs d hd hn).imp id Command.IsHarmless.tail
    by_cases hl : c.library = []
    · obtain rfl : v'? = some v := Command.registry_of_check hl hc
      obtain ⟨ls, g, hg, hall⟩ := ih hr hvr ha.tail hpcs
      exact ⟨ls, g, by rw [Registry.prepare, if_pos hl, hg],
        List.forall_mem_cons.mpr ⟨fun hn => absurd hl hn, hall⟩⟩
    -- Either way preparation loads a library and stays ahead for the commands after this one.
    have step : ∃ l p' v', p.load t c.library = (.ok l, p') ∧ v'? = some v' ∧
        r.Ahead t cs v' p' ∧ (c.IsFree → l.module.provides c.verb = .ok true) := by
      obtain ⟨b, hb, hne⟩ | hfree := c.builtin_cases
      · rw [Command.check_builtin hb hne] at hc
        cases hc
        have hfree : ¬ c.IsFree := by simp [Command.IsFree, hb, hne]
        obtain ⟨l, p', hload, ha⟩ := ha.load_harmless ((hpc hl).resolve_left hfree).tail
        exact ⟨l, p', v, hload, rfl, ha, fun h => absurd h hfree⟩
      · rw [Command.check_library hfree hl] at hc
        rcases hk : c.checkLibrary t v with ⟨x, v'⟩
        rw [hk] at hc
        cases hc
        obtain ⟨l, hload, hprov⟩ := Command.load_of_checkLibrary hk hvf
        obtain ⟨p', hload, ha⟩ := ha.load_free hfree hload
        exact ⟨l, p', v', hload, rfl, ha, fun _ => hprov⟩
    obtain ⟨l, p', v', hload, rfl, ha, hprov⟩ := step
    obtain ⟨ls, g, hg, hall⟩ := ih hr hvr ha hpcs
    have hx := Registry.prepare_extends t cs p'
    rw [hg] at hx
    refine ⟨l :: ls.filter (·.name != l.name), g, ?_,
      List.forall_mem_cons.mpr ⟨fun _ hfree => assured_of_load hload hx (hprov hfree), hall⟩⟩
    rw [Registry.prepare, if_neg hl, hload]
    simp only [hg]

/-- A valid script has all libraries that it names, if the libraries that its built-in verbs with
needs name are there and take the place of no others. Whatever else is loaded later, and whatever
becomes of the files, each library command then finds its library, and in it the routine that it
calls, unless the library lists the command without one. -/
theorem prepare_of_validate (validated : script.validate t (some r) = .ok report)
    (valid : report.isValid) (harmless : ∀ c ∈ script.commands, c.library ≠ [] →
      c.IsFree ∨ c.IsHarmless t r script.commands) :
    ∃ ls g, Registry.prepare t script.commands r = (.ok ls, g) ∧
      ∀ c ∈ script.commands, c.builtin? = none → c.library ≠ [] → Assured g c := by
  obtain ⟨ls, g, hg, hall⟩ :=
    prepare_of_checkAll validated (List.isEmpty_iff.mp valid) .refl harmless
  exact ⟨ls, g, hg, fun c hc hb hl => hall c hc hl (Or.inl hb)⟩

/-- A directory with one library in it. -/
def shelf (m : Module) : FileTree :=
  ⟨[(["libs"], .dir), (["libs", "shop.py"], .file (.program m))], [], []⟩

/-- A registry of that directory that has loaded nothing. -/
def unread : Registry :=
  ⟨some ⟨.here, ["libs"]⟩, .leaf, []⟩

/-- A pause after the name of a library. -/
def pausing : Command :=
  ⟨"shop.sleep 5", "shop.sleep", ["shop"], "sleep", [⟨"5", false⟩], 1, none⟩

/-- A command of that library. -/
def buying : Command :=
  ⟨"shop.buy", "shop.buy", ["shop"], "buy", [], 2, none⟩

/-- A routine without parameters. -/
def purchase : Routine :=
  ⟨⟨"buy", [], 0, false⟩, [], .ok .none⟩

/-- A pause with the name of a library is harmless, if the library is there. -/
theorem prepare_of_validate_buying :
    let t := shelf ⟨none, [("buy", ⟨.none, some purchase⟩)], none⟩
    validate ⟨[pausing, buying], none⟩ t (some unread) = .ok {} ∧
      ∃ ls g, Registry.prepare t [pausing, buying] unread = (.ok ls, g) ∧ Assured g buying := by
  intro t
  have validated : validate ⟨[pausing, buying], none⟩ t (some unread) = .ok {} := rfl
  have harmless : ∀ c ∈ [pausing, buying], c.library ≠ [] →
      c.IsFree ∨ c.IsHarmless t unread [pausing, buying] := by
    refine List.forall_mem_cons.mpr ⟨fun _ => Or.inr ⟨⟨_, rfl⟩, ?_⟩,
      List.forall_mem_singleton.mpr fun _ => Or.inl (Or.inl rfl)⟩
    simp [pausing, buying]
  obtain ⟨ls, g, hg, hall⟩ := prepare_of_validate validated rfl harmless
  exact ⟨validated, ls, g, hg, hall buying (by simp) rfl (by simp [buying])⟩

/-- Validation passes over a missing library that only a pause names, and over a command that is
listed without a routine. -/
theorem valid_unprepared :
    (validate ⟨[pausing], none⟩ ⟨[], [], []⟩ (some unread) = .ok {} ∧
      ∃ f, (Registry.prepare ⟨[], [], []⟩ [pausing] unread).1 = .error f) ∧
    ∃ t, validate ⟨[buying], none⟩ t (some unread) = .ok {} ∧
      ∃ l g f, unread.load t ["shop"] = (.ok l, g) ∧ l.routine "buy" = .error f :=
  ⟨⟨rfl, _, rfl⟩, shelf ⟨none, [], some (.ok [("buy", none)])⟩, rfl, _, _, _, rfl, rfl⟩

end Script

end TapScript
