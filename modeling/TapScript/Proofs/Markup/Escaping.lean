import TapScript.Proofs.Markup.Reading

/-! # Escaped texts

No tag is read in an escaped text: before each there is an odd number of backslashes. So an escaped
text can always be rendered, whatever tags are open.
-/

namespace TapScript.Markup

variable {c : Char} {cs rest body seen : List Char} {n : Nat} {opened : List String}

theorem escapeTags_tag (hb : IsTag body) :
    escapeTags (slashes n ++ (bracketed body ++ rest)) =
      slashes (2 * n + 1) ++ (bracketed body ++ escapeTags rest) := by
  obtain ⟨c, cs, hcs⟩ : ∃ c cs, slashes n ++ (bracketed body ++ rest) = c :: cs :=
    List.exists_cons_of_ne_nil (by simp [bracketed])
  rw [hcs, escapeTags, ← hcs, takeWhile_slashes head_bracketed]
  simp only [List.length_replicate, drop_slashes, tag?_bracketed hb, drop_bracketed]
  have hdouble : slashes (2 * n + 1) = slashes n ++ slashes n ++ ['\\'] := by
    rw [slashes, List.replicate_succ', Nat.two_mul, List.replicate_add]
  rw [hdouble]
  simp

theorem escapeTags_cons (hc : c ≠ '\\') (ht : tag? (c :: cs) = none) :
    escapeTags (slashes n ++ c :: cs) = slashes n ++ c :: escapeTags cs := by
  have hhead : (c :: cs).head? ≠ some '\\' := by simpa using hc
  have hplain : escapeTags (c :: cs) = c :: escapeTags cs := by
    have htake : (c :: cs).takeWhile (· == '\\') = [] :=
      List.takeWhile_cons_of_neg (by simpa using hc)
    rw [escapeTags, htake]
    simp only [List.length_nil, List.drop_zero, ht, if_pos]
  cases n with
  | zero => exact hplain
  | succ m =>
    have hcs : slashes (m + 1) ++ c :: cs = '\\' :: (slashes m ++ c :: cs) := by
      rw [slashes, List.replicate_succ, List.cons_append]
    rw [hcs, escapeTags, ← hcs, takeWhile_slashes hhead]
    simp only [List.length_replicate, drop_slashes, ht, if_neg m.succ_ne_zero, hplain]

theorem escapeTags_slashes : escapeTags (slashes n) = slashes n := by
  cases n with
  | zero => rw [slashes, List.replicate_zero, escapeTags]
  | succ m =>
    have htake : (slashes (m + 1) ++ []).takeWhile (· == '\\') = slashes (m + 1) :=
      takeWhile_slashes (by simp)
    rw [List.append_nil] at htake
    rw [slashes, List.replicate_succ, escapeTags, ← List.replicate_succ, htake]
    simp [tag?, escapeTags]

theorem closes_escapeTags (k : Nat) : closes (escapeTags cs ++ slashes k) = closes cs := by
  have hslash (n : Nat) : ∀ c ∈ slashes n, isBracket c = false := fun c hc => by
    rw [List.eq_of_mem_replicate hc]
    rfl
  induction parts cs with
  | ending n =>
    rw [escapeTags_slashes, closes_append (hslash n), ← List.append_nil (slashes n),
      closes_append (hslash n), ← List.append_nil (slashes k), closes_append (hslash k)]
  | tag n hb _ _ =>
    rw [escapeTags_tag hb, List.append_assoc, closes_append (hslash _), closes_append (hslash n)]
    rfl
  | @char n c cs hc ht _ ih =>
    rw [escapeTags_cons hc ht, List.append_assoc, closes_append (hslash n),
      closes_append (hslash n)]
    cases hb : isBracket c with
    | true => rw [List.cons_append, closes_of_bracket hb, closes_of_bracket hb]
    | false =>
      have hone : ∀ d ∈ [c], isBracket d = false := by simpa using hb
      have hcs : closes ([c] ++ cs) = closes cs := closes_append hone
      exact (closes_append hone).trans (ih.trans hcs.symm)

theorem head_escapeTags (k : Nat) :
    (escapeTags cs ++ slashes k).head?.any opensTag = cs.head?.any opensTag := by
  have hslash (n : Nat) (rest : List Char) (hr : rest.head?.any opensTag = false) :
      (slashes n ++ rest).head?.any opensTag = false := by
    cases n with
    | zero => exact hr
    | succ n => rfl
  cases parts cs with
  | ending n =>
    rw [escapeTags_slashes, hslash n _ (by simpa using hslash k [] rfl)]
    simpa using (hslash n [] rfl).symm
  | tag n hb _ =>
    rw [escapeTags_tag hb, hslash n _ rfl, List.append_assoc, hslash _ _ rfl]
  | char n hc ht _ =>
    rw [escapeTags_cons hc ht]
    cases n with
    | zero => rfl
    | succ n => rfl

/-- Escaping what stands after a bracket makes no tag of it. -/
theorem tag?_escapeTags (k : Nat) (ht : tag? (c :: cs) = none) :
    tag? (c :: (escapeTags cs ++ slashes k)) = none := by
  by_cases hc : c = '['
  · subst hc
    rw [← Option.not_isSome_iff_eq_none] at ht ⊢
    rwa [isSome_tag?, head_escapeTags, closes_escapeTags, ← isSome_tag?]
  · exact tag?_of_ne hc

theorem isSome_seen?_escapeTags (k : Nat) :
    (seen? opened (escapeTags cs ++ slashes k)).isSome = true := by
  induction parts cs with
  | ending n =>
    rw [escapeTags_slashes, slashes, slashes, ← List.replicate_add, seen?_slashes]
    rfl
  | tag n hb _ ih =>
    rw [escapeTags_tag hb, List.append_assoc, List.append_assoc, seen?_escapedTag hb,
      Option.isSome_map]
    exact ih
  | char n hc ht _ ih =>
    rw [escapeTags_cons hc ht, List.append_assoc, List.cons_append,
      seen?_char hc (tag?_escapeTags k ht), Option.isSome_map]
    exact ih

/-- Escaping may add a backslash at the end. -/
theorem exists_toList_escape (s : String) :
    ∃ k, (escape s).toList = escapeTags s.toList ++ slashes k := by
  unfold escape
  simp only
  split
  · exact ⟨0, by simp⟩
  · exact ⟨1, by simp⟩
  · exact ⟨0, by simp⟩

end TapScript.Markup
