import TapScript.Proofs.Markup.Escaping
import TapScript.Simulation.Display

/-! # Simulated displays are faithful

The laws that a display is relied on for hold of the simulated one. Each follows from how the parts
of a text are read, after the control characters are left out of what is seen.
-/

namespace TapScript.Simulation

open CommandLine Markup

/-- What is printed of the characters that are seen. -/
def printed (seen : List Char) : String :=
  String.ofList (seen.filter (!isDropped ·))

variable {s style text : String} {cs more : List Char}

theorem seen?_display : display.seen? s = (Markup.seen? [] s.toList).map printed := by
  change (Except.map printed (renderPieces (pieces 0 s.toList) [])).toOption = _
  unfold Markup.seen?
  cases renderPieces (pieces 0 s.toList) [] <;> rfl

theorem renders_display :
    display.Renders s ↔ (Markup.seen? [] s.toList).isSome = true := by
  rw [Display.renders_iff, seen?_display, Option.isSome_map]

theorem printed_append : printed (cs ++ more) = printed cs ++ printed more := by
  rw [printed, List.filter_append, String.ofList_append]
  rfl

theorem not_isDropped {c : Char} (h : ' '.toNat ≤ c.toNat) : isDropped c = false := by
  rw [← Bool.not_eq_true, isDropped]
  simp only [Bool.or_eq_true, decide_eq_true_eq]
  rintro ((((rfl | rfl) | rfl) | rfl) | rfl) <;> exact absurd h (by decide)

theorem printed_of_isPlain (h : IsPlain s) : printed s.toList = s := by
  have hkept : s.toList.filter (!isDropped ·) = s.toList :=
    List.filter_eq_self.mpr fun c hc => by simp [not_isDropped (h.bare c hc).2]
  rw [printed, hkept, String.ofList_toList]

theorem bracket_not_mem (h : IsPlain s) : '[' ∉ s.toList :=
  fun hm => (h.bare _ hm).1 rfl

theorem toList_inStyle : (inStyle style text).toList =
    bracketed style.toList ++ (text.toList ++ bracketed ('/' :: style.toList)) := by
  simp [inStyle, bracketed]

theorem isFaithful_display : display.IsFaithful where
  plain {s} h := by
    have hseen : Markup.seen? [] (s.toList ++ []) = some s.toList := by
      rw [seen?_plain (bracket_not_mem h) (.inl rfl),
        show ([] : List Char) = slashes 0 from rfl, seen?_slashes]
      simp
    refine Outcome.eq_ok_of_toOption (seen?_display.trans ?_)
    rw [← List.append_nil s.toList, hseen, Option.map_some, printed_of_isPlain h]
  blank s := by
    have hlist : (" " ++ s).toList = [' '] ++ s.toList := by simp
    rw [seen?_display, seen?_display, hlist, seen?_plain (by decide) (.inr (by decide)),
      Option.map_map, Option.map_map]
    refine congrArg (Option.map · _) (funext fun seen => ?_)
    rw [Function.comp_apply, Function.comp_apply, printed_append]
    rfl
  styled {style text} rest hs ht hl := by
    rw [seen?_display, seen?_display, String.toList_append, toList_inStyle, List.append_assoc,
      List.append_assoc, seen?_styled hs (bracket_not_mem ht) hl, Option.map_map, Option.map_map]
    refine congrArg (Option.map · _) (funext fun seen => ?_)
    rw [Function.comp_apply, Function.comp_apply, printed_append, printed_of_isPlain ht]
  enclosed {style text} hs ht := by
    rw [renders_display, toList_inStyle, seen?_bracketed (isTag_style hs), follow_style hs]
    exact isSome_seen?_enclosed hs List.mem_cons_self ht
  escaped s := by
    obtain ⟨k, hk⟩ := exists_toList_escape s
    rw [renders_display]
    change (Markup.seen? [] (escape s).toList).isSome = true
    rw [hk]
    exact isSome_seen?_escapeTags k
  closing {name} h := by
    have hbare : ∀ c ∈ name.toList, isBracket c = false :=
      fun c hc => isBracket_eq_false.mpr (h c hc)
    have hlist : (closingTag name).toList = bracketed ('/' :: name.toList) := by
      simp [closingTag, bracketed]
    obtain ⟨e, he⟩ := follow_nil name.toList
    rw [renders_display, hlist, ← List.append_nil (bracketed _),
      seen?_bracketed (isTag_closing hbare), he]
    exact Bool.false_ne_true

end TapScript.Simulation
