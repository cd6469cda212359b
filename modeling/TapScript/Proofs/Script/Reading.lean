import TapScript.Proofs.Library.Agreement

/-! # Commands as they are read

Every command of a script that is read from a file is what the tokens of a line write. It names
its library by segments without dots, since the dots of its name are where it is split.
-/

namespace TapScript

/-- Whether the tokens of a line write a command. -/
def Command.IsWritten (c : Command) : Prop :=
  ∃ tokens line text source, ofTokens tokens line text source = .ok c

open Outcome

namespace Command.IsWritten

variable {c : Command}

theorem isPlain (h : c.IsWritten) : Registry.IsPlain c.library := by
  obtain ⟨tokens, line, text, source, h⟩ := h
  unfold ofTokens at h
  split at h
  · cases h
  · split at h
    · cases h
    · cases h
      exact fun s hs => Text.not_mem_of_mem_pieces (List.dropLast_subset _ hs)

end Command.IsWritten

theorem Command.ofTokens_error {tokens : List Token} {line : Int} {text : String}
    {source : Option Path} {f : Fault} (h : ofTokens tokens line text source = .error f) :
    f = .problem .noCommandName ⟨some line, source⟩ := by
  unfold ofTokens at h
  split at h
  · cases h; rfl
  · split at h <;> cases h
    rfl

namespace Script

variable {t : FileTree} {p : Path} {s : Script}

/-- A file that cannot be read as a script is refused by the file system, or has a line that names
no command. -/
theorem load_error {f : Fault} (h : load t p = .error f) :
    (∃ m, f = .mishap m) ∨ ∃ at_, f = .problem .noCommandName at_ := by
  obtain h | ⟨contents, -, h⟩ := bind_eq_error.mp h
  · obtain ⟨m, -, rfl⟩ := mapError_eq_error.mp h
    exact Or.inl ⟨m, rfl⟩
  obtain h | ⟨cs, -, h⟩ := bind_eq_error.mp h
  · obtain ⟨l, -, hl⟩ := exists_of_mapM h
    exact Or.inr ⟨_, Command.ofTokens_error hl⟩
  · cases h

theorem isWritten_of_parse {contents : String} {source : Option Path}
    (h : parse contents source = .ok s) : ∀ c ∈ s.commands, c.IsWritten := by
  obtain ⟨cs, hm, h⟩ := bind_eq_ok.mp h
  cases h
  intro c hc
  obtain ⟨l, -, hl⟩ := mem_of_mapM hm c hc
  exact ⟨_, _, _, _, hl⟩

theorem isWritten_of_load (h : load t p = .ok s) : ∀ c ∈ s.commands, c.IsWritten := by
  obtain ⟨contents, -, h⟩ := bind_eq_ok.mp h
  exact isWritten_of_parse h

theorem isPlain_of_load (h : load t p = .ok s) :
    ∀ c ∈ s.commands, Registry.IsPlain c.library := fun c hc =>
  (isWritten_of_load h c hc).isPlain

end Script

end TapScript
