import TapScript.Run.Session
import TapScript.Proofs.Files.Contents

/-! # Saving the results

A session that could be created has a place for its results whose name can be written. Only the
file system can then refuse to save them.
-/

namespace TapScript

theorem FileTree.write_error {t : FileTree} {p : Path} {c : Content} {m : Mishap}
    (hp : '\x00' ∉ p.text.toList) (h : t.write p c = .error m) : ∃ f, m = .file f := by
  unfold write at h
  split at h
  · next hc => exact absurd (List.contains_iff_mem.mp hc) hp
  · split at h
    · cases h; exact ⟨_, rfl⟩
    · split at h <;> cases h <;> exact ⟨_, rfl⟩

theorem FileTree.ensureDirs_ok {t t' : FileTree} {p : Path} (h : t.ensureDirs p = .ok t') :
    '\x00' ∉ p.text.toList := by
  unfold ensureDirs at h
  split at h
  · cases h
  · next hc => exact fun hp => hc (List.contains_iff_mem.mpr hp)

namespace Session

theorem parts_resultsFile (dir : Path) :
    (resultsFile dir).parts = dir.parts ++ ["results.json"] := by
  have h : Path.ofText "results.json" = ⟨.here, ["results.json"]⟩ := by decide
  rw [resultsFile, h]
  rfl

variable {t t' : FileTree} {script : Path} {dir : Option Path} {s : Session} {m : Mishap}

/-- A new session is pending, with no commands, and not closed. -/
theorem create_ok (h : create t script dir = .ok (s, t')) :
    s = ⟨script, dir, { script := script.text, status := .pending, outputDir := dir }, false⟩ ∧
      ∀ d, dir = some d → '\x00' ∉ d.text.toList := by
  cases dir with
  | none =>
    cases h
    exact ⟨rfl, by rintro _ ⟨⟩⟩
  | some d =>
    obtain ⟨t₁, ht, h⟩ := Outcome.bind_eq_ok.mp h
    cases h
    refine ⟨rfl, ?_⟩
    rintro _ ⟨⟩
    exact FileTree.ensureDirs_ok ht

/-- Only the file system refuses to save the results of a session that was created. -/
theorem save_error {s₀ : Session} (hs : create t script dir = .ok (s₀, t'))
    (hd : s.outputDir = s₀.outputDir) {files : FileTree} (h : s.save files = .error m) :
    ∃ f, m = .file f := by
  obtain ⟨rfl, hn⟩ := create_ok hs
  unfold save at h
  rw [hd] at h
  cases dir with
  | none => cases h
  | some d =>
    obtain h | ⟨_, -, h⟩ := Outcome.bind_eq_error.mp h
    · refine FileTree.write_error ?_ h
      have hd := hn d rfl
      rw [Path.mem_text_iff (by decide) (by decide)] at hd ⊢
      rw [parts_resultsFile]
      rintro ⟨n, hm, hc⟩
      rcases List.mem_append.mp hm with hm | hm
      · exact hd ⟨n, hm, hc⟩
      · rw [List.mem_singleton.mp hm] at hc
        exact absurd hc (by decide)
    · cases h

end Session

end TapScript
