import TapScript.Proofs.Outcome
import TapScript.Script.Validation

/-! # What validation finds

The report on a script joins what is found about its commands, one after the other. About a
built-in command with needs nothing is asked but whether it lacks something; a bare verb of
another kind is warned about; and any other command is looked up in its library.
-/

namespace TapScript

open Outcome

namespace Report

variable {x y z : Report}

@[simp] theorem append_assoc : x ++ y ++ z = x ++ (y ++ z) := by
  change mk (x.errors ++ y.errors ++ z.errors) (x.warnings ++ y.warnings ++ z.warnings) = _
  rw [List.append_assoc, List.append_assoc]
  rfl

@[simp] theorem nil_append : ({} : Report) ++ x = x := rfl

@[simp] theorem append_nil : x ++ ({} : Report) = x := by
  change mk (x.errors ++ []) (x.warnings ++ []) = x
  rw [List.append_nil, List.append_nil]

end Report

/-- A module does not tell its commands exactly if what it lists cannot be read. -/
theorem Module.commands_eq_error_iff {m : Module} {f : Fault} :
    m.commands = .error f ↔ ∃ x, m.explicit = some (.error x) ∧ f = .mishap x := by
  rw [commands, mapError_eq_error]
  rcases m.explicit with _ | x | listed <;> simp [eq_comm]

theorem Library.routine_of_commands {l : Library} {listed : List (String × Option Routine)}
    (h : l.module.commands = .ok listed) (command : String) :
    l.routine command = match (listed.lookup command).join with
      | some r => .ok r
      | none => .error (.ofProblem (.noSuchCommand l.name l.file.text command)) := by
  have hr : l.module.routine? command = .ok (listed.lookup command).join := by
    rw [Module.routine?, h]
    rfl
  rw [routine, hr]
  cases (listed.lookup command).join <;> rfl

theorem Library.routine_error {l : Library} {verb : String} {f : Fault}
    (h : l.routine verb = .error f) :
    (∃ x, f = .mishap x) ∨ f = .ofProblem (.noSuchCommand l.name l.file.text verb) := by
  obtain h | ⟨r?, -, h⟩ := bind_eq_error.mp h
  · obtain h | ⟨listed, -, ⟨⟩⟩ := bind_eq_error.mp h
    obtain ⟨x, -, rfl⟩ := Module.commands_eq_error_iff.mp h
    exact .inl ⟨x, rfl⟩
  · cases r? with
    | none => exact .inr (Except.error.inj h).symm
    | some r => cases h

namespace Command

variable {t : FileTree} {c : Command} {b : Builtin} {r? r'? : Option Registry}
  {r r' : Registry} {found : Report}

/-- What is found about a command that may lack something. -/
def lacking (c : Command) : Option String → Report
  | some text => .error (c.atLine text)
  | none => {}

/-- What is found about a verb that is not known to need anything. -/
def unknown (c : Command) : Report :=
  .warning (c.atLine s!"unknown built-in '{c.verb}'")

/-- Whether no validation asks what a command needs. -/
def IsFree (c : Command) : Prop :=
  c.builtin? = none ∨ c.builtin? = some .log

theorem builtin_cases (c : Command) : (∃ b, c.builtin? = some b ∧ b ≠ .log) ∨ c.IsFree := by
  cases h : c.builtin? with
  | none => exact Or.inr (Or.inl h)
  | some b =>
    by_cases hb : b = .log
    · exact Or.inr (Or.inr (hb ▸ h))
    · exact Or.inl ⟨b, rfl, hb⟩

theorem check_builtin (hb : c.builtin? = some b) (h : b ≠ .log) :
    c.check t r? = (.ok (c.lacking (c.lack? b)), r?) := by
  unfold check
  rw [hb]
  cases b with
  | log => exact absurd rfl h
  | _ => cases hl : c.lack? _ <;> simp [hl, lacking]

theorem check_bare (h : c.IsFree) (hl : c.library = []) : c.check t r? = (.ok c.unknown, r?) := by
  unfold check
  rcases h with h | h <;> rw [h] <;> exact if_pos hl

theorem check_library (h : c.IsFree) (hl : c.library ≠ []) :
    c.check t (some r) = ((c.checkLibrary t r).1, some (c.checkLibrary t r).2) := by
  unfold check
  rcases h with h | h <;> rw [h] <;> exact if_neg hl

theorem check_library_none (h : c.IsFree) (hl : c.library ≠ []) :
    c.check t none = (.ok {}, none) := by
  unfold check
  rcases h with h | h <;> rw [h] <;> exact if_neg hl

/-- Without a library to look for, no library is loaded. -/
theorem registry_of_check (hl : c.library = []) (h : c.check t r? = (.ok found, r'?)) :
    r'? = r? := by
  obtain ⟨b, hb, hne⟩ | hf := c.builtin_cases
  · rw [check_builtin hb hne] at h
    exact (congrArg Prod.snd h).symm
  · rw [check_bare hf hl] at h
    exact (congrArg Prod.snd h).symm

theorem warnings_of_lacking (o : Option String) : (c.lacking o).warnings = [] := by
  cases o <;> rfl

theorem errors_of_lacking (o : Option String) : (c.lacking o).errors ≠ [] ↔ o ≠ none := by
  cases o <;> simp [lacking, Report.error]

/-- Nothing is found about a command that its library lists, and an error about any other. -/
theorem checkListed_cases {l : Library} (h : c.checkListed l = .ok found) :
    (l.module.provides c.verb = .ok true ∧ found = {}) ∨
      (l.module.provides c.verb = .ok false ∧
        found = .error (c.atLine s!"{l.name} has no command '{c.verb}'")) := by
  obtain ⟨provided, hp, h⟩ := bind_eq_ok.mp h
  cases provided with
  | true => exact .inl ⟨hp, (Except.ok.inj h).symm⟩
  | false => exact .inr ⟨hp, (Except.ok.inj h).symm⟩

/-- A library is nothing to warn about. -/
theorem warnings_of_checkLibrary (h : c.checkLibrary t r = (.ok found, r')) :
    found.warnings = [] := by
  unfold checkLibrary at h
  split at h
  · next l _ _ =>
    obtain ⟨-, rfl⟩ | ⟨-, rfl⟩ := checkListed_cases (congrArg Prod.fst h)
    · rfl
    · rfl
  · split at h <;> cases h
    rfl
  · cases h

/-- Nothing but a bare verb is warned about, and only if it has no known needs. -/
theorem warnings_of_check (h : c.check t r? = (.ok found, r'?)) :
    (c.IsFree ∧ c.library = [] ∧ found = c.unknown) ∨ found.warnings = [] := by
  obtain ⟨b, hb, hne⟩ | hf := c.builtin_cases
  · rw [check_builtin hb hne] at h
    cases h
    exact Or.inr (warnings_of_lacking _)
  by_cases hl : c.library = []
  · rw [check_bare hf hl] at h
    cases h
    exact Or.inl ⟨hf, hl, rfl⟩
  cases r? with
  | none =>
    rw [check_library_none hf hl] at h
    cases h
    exact Or.inr rfl
  | some r =>
    rw [check_library hf hl] at h
    rcases hc : c.checkLibrary t r with ⟨x, r'⟩
    rw [hc] at h
    cases h
    exact Or.inr (warnings_of_checkLibrary hc)

end Command

namespace Script

variable {t : FileTree} {cs cs' : List Command} {c : Command} {r? : Option Registry}
  {report : Report}

theorem checkAll_cons (h : checkAll t (c :: cs) r? = .ok report) :
    ∃ found r'? rest, c.check t r? = (.ok found, r'?) ∧ checkAll t cs r'? = .ok rest ∧
      report = found ++ rest := by
  rw [checkAll] at h
  rcases hc : c.check t r? with ⟨f | found, r'?⟩
  · rw [hc] at h
    cases h
  · rw [hc] at h
    cases hr : checkAll t cs r'? with
    | error f =>
      simp only [hr] at h
      cases h
    | ok rest =>
      simp only [hr] at h
      cases h
      exact ⟨found, r'?, rest, rfl, hr, rfl⟩

/-- What is found about some commands does not depend on the commands after them. -/
theorem checkAll_append (h : checkAll t (cs ++ cs') r? = .ok report) :
    ∃ x r'? y, report = x ++ y ∧ checkAll t cs' r'? = .ok y ∧
      ∀ after z, checkAll t after r'? = .ok z → checkAll t (cs ++ after) r? = .ok (x ++ z) := by
  induction cs generalizing r? report with
  | nil => exact ⟨{}, r?, report, rfl, h, fun after z hz => hz⟩
  | cons c cs ih =>
    obtain ⟨found, r'?, rest, hc, hr, rfl⟩ := checkAll_cons h
    obtain ⟨x, r''?, y, rfl, hy, hz⟩ := ih hr
    refine ⟨found ++ x, r''?, y, Report.append_assoc.symm, hy, fun after z h => ?_⟩
    rw [List.cons_append, checkAll, hc, Report.append_assoc]
    simp only [hz after z h]
    rfl

end Script

end TapScript
