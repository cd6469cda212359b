import Mathlib.Data.List.TakeWhile
import TapScript.Lookup
import TapScript.Proofs.Value.Writing

/-! # Walks through a dictionary

A path leads from value to value, each a part of the one before. A walk that does not come to its
end stops at a segment that leads to nothing, and blames the path as a whole. The one exception
is a sequence with a segment that counts as an index and is refused as an integer.
-/

namespace TapScript

open Outcome

namespace Text

variable {s : String}

theorem exists_integer_iff : (∃ i, integer s = .ok i) ↔
    digitsOf s.toList ≠ [] ∧ (∀ c ∈ digitsOf s.toList, isDigit c = true) ∧
      (digitsOf s.toList).length ≤ IntegerError.maxDigits := by
  rw [← List.takeWhile_eq_self_iff]
  dsimp only [integer]
  constructor
  · rintro ⟨i, h⟩
    split at h
    · cases h
    · next hlength =>
      split at h
      · cases h
      · next hspelled =>
        obtain ⟨hn, hrun⟩ := not_or.mp hspelled
        have hrun := not_ne_iff.mp hrun
        rw [hrun] at hlength
        exact ⟨hn, hrun, Nat.not_lt.mp hlength⟩
  · rintro ⟨hn, hrun, hlength⟩
    simp only [hrun, Nat.not_lt.mpr hlength, hn, ne_eq, not_true_eq_false, or_self, if_false]
    exact ⟨_, rfl⟩

end Text

namespace Value

/-- Whether a value is a sequence. -/
def IsSequence (v : Value) : Prop :=
  ∃ items, v = list items ∨ v = tuple items

/-- Whether a segment counts as an index and is refused as an integer: it has more than one sign,
a digit without a decimal value, or too many digits. -/
structure IsFalseIndex (s : String) : Prop where
  isIndex : isIndex s.toList = true
  refused : ['-', '-'] <+: s.toList ∨
    (∃ c ∈ s.toList, Text.isDigitLike c = true ∧ Text.isDigit c = false) ∨
    IntegerError.maxDigits < (Text.digitsOf s.toList).length

/-- Whether segments lead from a value to another, each of them to a part that is not nothing. -/
inductive Leads : Value → List String → Value → Prop
  | here {v} : Leads v [] v
  | step {v s w ss u} (part : v.child s = .ok (some w)) (filled : w.isNone = false)
      (rest : Leads w ss u) : Leads v (s :: ss) u

/-- Whether a path comes to a sequence with a segment that is a false index. -/
def Misleads (root : Value) (path : String) : Prop :=
  ∃ before s after v, Text.pieces '.' path = before ++ s :: after ∧ root.Leads before v ∧
    v.IsSequence ∧ IsFalseIndex s

/-- Whether a path comes to a value that is unwritable. -/
def LeadsToUnwritable (root : Value) (path : String) : Prop :=
  ∃ v, root.Leads (Text.pieces '.' path) v ∧ v.IsUnwritable

section Index

variable {cs : List Char} {s : String}

theorem isIndex_iff : isIndex cs = true ↔
    cs.dropWhile (· == '-') ≠ [] ∧ ∀ c ∈ cs.dropWhile (· == '-'), Text.isDigitLike c = true := by
  simp [isIndex, List.all_eq_true]

/-- With at most one sign, all that follows the signs are the digits. -/
theorem dropWhile_minus (h : ¬ ['-', '-'] <+: cs) :
    cs.dropWhile (· == '-') = Text.digitsOf cs := by
  match cs with
  | [] => rfl
  | [c] => by_cases hc : c = '-' <;> simp [Text.digitsOf, hc]
  | c :: d :: cs =>
    by_cases hc : c = '-'
    · subst hc
      have hd : d ≠ '-' := by
        rintro rfl
        exact h ⟨cs, rfl⟩
      simp [Text.digitsOf, hd]
    · simp [Text.digitsOf, hc]

theorem mem_digitsOf {c : Char} (h : c ∈ cs) : c = '-' ∨ c ∈ Text.digitsOf cs := by
  unfold Text.digitsOf
  split
  · simpa using h
  · exact .inr h

/-- An index is refused as an integer for one of three reasons. -/
theorem isFalseIndex_iff : IsFalseIndex s ↔
    isIndex s.toList = true ∧ ∃ e, Text.integer s = .error e := by
  have hrefused : (∃ e, Text.integer s = .error e) ↔ ¬ ∃ i, Text.integer s = .ok i := by
    cases Text.integer s <;> simp
  rw [hrefused, Text.exists_integer_iff]
  constructor
  · rintro ⟨hi, hsigns | ⟨c, hc, hlike, hdigit⟩ | hlength⟩
    · refine ⟨hi, fun h => ?_⟩
      obtain ⟨cs, hcs⟩ := hsigns
      have hm : '-' ∈ Text.digitsOf s.toList := by
        rw [← hcs]
        exact List.mem_cons_self
      exact absurd (h.2.1 _ hm) (by decide)
    · refine ⟨hi, fun h => ?_⟩
      obtain rfl | hc := mem_digitsOf hc
      · exact absurd hlike (by decide)
      · rw [h.2.1 c hc] at hdigit
        cases hdigit
    · exact ⟨hi, fun h => absurd h.2.2 (by omega)⟩
  · rintro ⟨hi, h⟩
    refine ⟨hi, Classical.byContradiction fun hr => h ?_⟩
    obtain ⟨hsigns, hr⟩ := not_or.mp hr
    obtain ⟨hornate, hlength⟩ := not_or.mp hr
    obtain ⟨hn, hlike⟩ := isIndex_iff.mp hi
    rw [dropWhile_minus hsigns] at hn hlike
    refine ⟨hn, fun c hc => ?_, Nat.not_lt.mp hlength⟩
    have hmem : c ∈ s.toList := by
      rw [← dropWhile_minus hsigns] at hc
      exact (List.dropWhile_sublist _).subset hc
    by_contra hd
    exact hornate ⟨c, hmem, hlike c hc, by simpa using hd⟩

end Index

section Walk

variable {v u : Value} {s : String} {ss : List String} {kind : Dictionary} {path : String}
  {walked : List String} {f : Fault}

theorem itemAt_eq_error_iff {items : List Value} : itemAt items s = .error f ↔
    isIndex s.toList = true ∧ ∃ e, Text.integer s = .error e ∧ f = .mishap (.badInteger e) := by
  unfold itemAt
  split
  · next h =>
    cases Text.integer s with
    | ok i => simp
    | error e => simp [h, eq_comm]
  · next h => simp [h]

/-- Only a false index of a sequence is more than a part that is not there. -/
theorem child_eq_error_iff : v.child s = .error f ↔
    v.IsSequence ∧ isIndex s.toList = true ∧
      ∃ e, Text.integer s = .error e ∧ f = .mishap (.badInteger e) := by
  cases v with
  | list items => simp [child, itemAt_eq_error_iff, IsSequence]
  | tuple items => simp [child, itemAt_eq_error_iff, IsSequence]
  | _ => simp [child, IsSequence]

/-- Whether a segment leads to nothing. -/
def IsLost (v : Value) (s : String) : Prop :=
  v.child s = .ok .none ∨ ∃ w, v.child s = .ok (some w) ∧ w.isNone = true

theorem child_cases (v : Value) (s : String) :
    (∃ w, v.child s = .ok (some w) ∧ w.isNone = false) ∨ v.IsLost s ∨
      ∃ f, v.child s = .error f := by
  rcases h : v.child s with f | w?
  · exact .inr (.inr ⟨f, rfl⟩)
  rcases w? with _ | w
  · exact .inr (.inl (.inl h))
  cases hn : w.isNone with
  | true => exact .inr (.inl (.inr ⟨w, h, hn⟩))
  | false => exact .inl ⟨w, rfl, hn⟩

theorem walk_step {w : Value} (h : v.child s = .ok (some w)) (hn : w.isNone = false) :
    walk kind path walked (s :: ss) v = walk kind path (walked ++ [s]) ss w := by
  simp [walk, h, hn, bind, Except.bind]

theorem walk_lost (h : v.IsLost s) : walk kind path walked (s :: ss) v =
    .error (.ofProblem (.undefined kind path (".".intercalate (walked ++ [s])))) := by
  obtain h | ⟨w, h, hn⟩ := h
  · rw [walk, h]
    rfl
  · simp [walk, h, hn, bind, Except.bind, throw, throwThe, MonadExceptOf.throw]

theorem walk_misled (h : v.child s = .error f) :
    walk kind path walked (s :: ss) v = .error f := by
  rw [walk, h]
  rfl

/-- A walk goes on from where its first segments lead. -/
theorem walk_append (h : v.Leads ss u) (ss' : List String) :
    walk kind path walked (ss ++ ss') v = walk kind path (walked ++ ss) ss' u := by
  induction h generalizing walked with
  | here => rw [List.nil_append, List.append_nil]
  | step part filled _ ih =>
    rw [List.cons_append, walk_step part filled, ih, List.append_assoc, List.singleton_append]

theorem Leads.filled (h : v.Leads ss u) (hn : ss ≠ []) : u.isNone = false := by
  induction h with
  | here => exact absurd rfl hn
  | step _ filled rest ih =>
    cases rest with
    | here => exact filled
    | step _ _ _ => exact ih (by simp)

/-- A walk comes to the value that its segments lead to, or to the first segment that does not
lead on. -/
theorem walk_cases (kind : Dictionary) (path : String) (walked ss : List String) (v : Value) :
    (∃ u, v.Leads ss u ∧ walk kind path walked ss v = .ok u) ∨
    ∃ before s after u, ss = before ++ s :: after ∧ v.Leads before u ∧
      (u.IsLost s ∧ walk kind path walked ss v =
        .error (.ofProblem (.undefined kind path (".".intercalate (walked ++ before ++ [s])))) ∨
      ∃ f, u.child s = .error f ∧ walk kind path walked ss v = .error f) := by
  induction ss generalizing walked v with
  | nil => exact .inl ⟨v, .here, rfl⟩
  | cons s ss ih =>
    obtain ⟨w, hw, hn⟩ | hlost | ⟨f, hf⟩ := v.child_cases s
    · rw [walk_step hw hn]
      obtain ⟨u, hu, h⟩ | ⟨before, s', after, u, rfl, hu, h⟩ := ih (walked ++ [s]) w
      · exact .inl ⟨u, .step hw hn hu, h⟩
      · refine .inr ⟨s :: before, s', after, u, rfl, .step hw hn hu, ?_⟩
        rwa [List.append_cons walked s before]
    · refine .inr ⟨[], s, ss, v, rfl, .here, .inl ⟨hlost, ?_⟩⟩
      rw [walk_lost hlost, List.append_nil]
    · exact .inr ⟨[], s, ss, v, rfl, .here, .inr ⟨f, hf, walk_misled hf⟩⟩

end Walk

variable {root : Value} {kind : Dictionary} {path : String}

theorem lookup_of_leads {v : Value} (h : root.Leads (Text.pieces '.' path) v)
    (kind : Dictionary) : root.lookup kind path = .ok v := by
  rw [lookup, ← List.append_nil (Text.pieces '.' path), walk_append h, walk]

theorem leads_of_lookup {v : Value} (h : root.lookup kind path = .ok v) :
    root.Leads (Text.pieces '.' path) v := by
  obtain ⟨u, hu, hw⟩ | ⟨_, _, _, _, _, _, ⟨-, hw⟩ | ⟨f, -, hw⟩⟩ :=
    walk_cases kind path [] (Text.pieces '.' path) root
  all_goals cases h.symm.trans hw
  exact hu

theorem written_eq_error {v : Value} (h : v.IsUnwritable) :
    v.written = .error (.mishap (.badInteger .tooLarge)) := by
  rw [written, plain_eq_error_iff.mpr ⟨rfl, h⟩]
  rfl

theorem written_cases (v : Value) : (∃ s, v.written = .ok s) ∨
    v.IsUnwritable ∧ v.written = .error (.mishap (.badInteger .tooLarge)) := by
  by_cases h : v.IsUnwritable
  · exact .inr ⟨h, written_eq_error h⟩
  · obtain ⟨s, hs⟩ := exists_plain_iff.mpr h
    exact .inl ⟨s, mapError_eq_ok.mpr hs⟩

theorem written_error {v : Value} {f : Fault} (h : v.written = .error f) :
    ∃ e, f = .mishap (.badInteger e) := by
  obtain ⟨e, -, rfl⟩ := mapError_eq_error.mp h
  exact ⟨e, rfl⟩

theorem exists_displayed_iff {vs : List Value} :
    (∃ ss, displayed vs = .ok ss) ↔ ∀ v ∈ vs, ¬v.IsUnwritable := by
  rw [← exists_shownAll_iff]
  exact exists_congr fun _ => mapError_eq_ok

theorem lookup_of_misleads (h : root.Misleads path) (kind : Dictionary) :
    ∃ e, root.lookup kind path = .error (.mishap (.badInteger e)) := by
  obtain ⟨before, s, after, v, hpath, hv, hseq, hs⟩ := h
  obtain ⟨hindex, e, he⟩ := isFalseIndex_iff.mp hs
  have hchild : v.child s = .error (.mishap (.badInteger e)) :=
    child_eq_error_iff.mpr ⟨hseq, hindex, e, he, rfl⟩
  exact ⟨e, by rw [lookup, hpath, walk_append hv, walk_misled hchild]⟩

/-- A look-up gives a value that is not nothing, or says that the path is undefined, unless the
path misleads. -/
theorem lookup_cases (root : Value) (kind : Dictionary) (path : String) :
    (∃ v, root.lookup kind path = .ok v ∧ v.isNone = false) ∨
    (∃ walked, root.lookup kind path = .error (.ofProblem (.undefined kind path walked))) ∨
    root.Misleads path := by
  obtain ⟨v, hv, h⟩ | ⟨before, s, after, v, hpath, hv, ⟨-, h⟩ | ⟨f, hf, -⟩⟩ :=
    walk_cases kind path [] (Text.pieces '.' path) root
  · refine .inl ⟨v, h, hv.filled ?_⟩
    simp [Text.pieces, Text.splitOn_ne_nil]
  · exact .inr (.inl ⟨_, h⟩)
  · obtain ⟨hseq, hindex, e, he, -⟩ := child_eq_error_iff.mp hf
    exact .inr (.inr ⟨before, s, after, v, hpath, hv, hseq, isFalseIndex_iff.mpr ⟨hindex, e, he⟩⟩)

end Value

/-- Whether a token is looked up when it stands for an argument. -/
structure Token.IsPath (t : Token) : Prop where
  bare : t.quoted = false
  undelimited : isDelimited t.text = false
  unnumeric : isNumeric t.text = false

namespace Resolver

variable {α : Type} {filled : α → Prop} {path : String}

/-- Whether what a path is resolved to is filled, or else a problem that names the whole path. -/
inductive IsResolved (filled : α → Prop) (path : String) : Except Fault α → Prop
  | value {a} (h : filled a) : IsResolved filled path (.ok a)
  | problem {p : Problem} (category : p.category = .resolution) (names : p.path? = some path) :
      IsResolved filled path (.error (.ofProblem p))

/-- Whether resolving a path ends as it should, or else, if the path misleads, with a mishap. -/
structure Resolves (filled : α → Prop) (path : String) (misled : Prop) (x : Except Fault α) :
    Prop where
  resolved : ¬ misled → IsResolved filled path x
  mishap : misled → ∃ e, x = .error (.mishap (.badInteger e))

variable (r : Resolver)

theorem resolve_of_isPath {t : Token} (h : t.IsPath) :
    r.resolve t = r.values.lookup .value t.text := by
  simp [resolve, h.bare, h.undelimited, h.unnumeric]

theorem resolve_of_not_isPath {t : Token} (h : ¬ t.IsPath) :
    ∃ s, r.resolve t = .ok (.text s) := by
  unfold resolve
  split
  · exact ⟨_, rfl⟩
  · split
    · exact ⟨_, rfl⟩
    · split
      · exact ⟨_, rfl⟩
      · next hq hd hn =>
        exact absurd ⟨by simpa using hq, by simpa using hd, by simpa using hn⟩ h

section Argument

variable {r} {t : Token} {v : Value}

theorem argument_of_resolve (h : r.resolve t = .ok v) (hv : ¬v.IsUnwritable) :
    r.argument t = .ok v := by
  obtain ⟨s, hs⟩ := v.written_cases.resolve_right fun h => hv h.1
  rw [argument, h]
  exact bind_eq_ok.mpr ⟨v, rfl, bind_eq_ok.mpr ⟨s, hs, rfl⟩⟩

theorem argument_of_unwritable (h : r.resolve t = .ok v) (hv : v.IsUnwritable) :
    r.argument t = .error (.mishap (.badInteger .tooLarge)) := by
  rw [argument, h]
  exact bind_eq_error.mpr (.inr ⟨v, rfl, bind_eq_error.mpr (.inl (Value.written_eq_error hv))⟩)

theorem argument_of_error {f : Fault} (h : r.resolve t = .error f) : r.argument t = .error f := by
  rw [argument, h]
  rfl

/-- An argument is what its token stands for, if that has a text. -/
theorem argument_eq_ok_iff : r.argument t = .ok v ↔ r.resolve t = .ok v ∧ ¬v.IsUnwritable := by
  refine ⟨fun h => ?_, fun h => argument_of_resolve h.1 h.2⟩
  obtain ⟨w, hw, h'⟩ := bind_eq_ok.mp h
  obtain ⟨s, -, ⟨⟩⟩ := bind_eq_ok.mp h'
  refine ⟨hw, fun hv => ?_⟩
  cases h.symm.trans (argument_of_unwritable hw hv)

end Argument

/-- The arguments of a command can be shown. -/
theorem displayed_of_arguments {ts : List Token} {vs : List Value}
    (h : r.arguments ts = .ok vs) : ∃ ss, Value.displayed vs = .ok ss := by
  obtain ⟨us, hus, ⟨⟩⟩ := bind_eq_ok.mp h
  refine Value.exists_displayed_iff.mpr (List.forall_mem_cons.mpr ⟨nofun, fun v hv => ?_⟩)
  obtain ⟨t, -, ht⟩ := mem_of_mapM hus v hv
  exact (argument_eq_ok_iff.mp ht).2

theorem argument_resolves (t : Token) : Resolves (fun v : Value => v.isNone = false) t.text
    (t.IsPath ∧ (r.values.Misleads t.text ∨ r.values.LeadsToUnwritable t.text))
    (r.argument t) where
  resolved h := by
    by_cases hp : t.IsPath
    · obtain ⟨v, hv, hn⟩ | ⟨walked, hw⟩ | hm := r.values.lookup_cases .value t.text
      · have hwritable : ¬v.IsUnwritable := fun hu =>
          h ⟨hp, .inr ⟨v, Value.leads_of_lookup hv, hu⟩⟩
        rw [argument_of_resolve ((r.resolve_of_isPath hp).trans hv) hwritable]
        exact .value hn
      · rw [argument_of_error ((r.resolve_of_isPath hp).trans hw)]
        exact .problem rfl rfl
      · exact absurd ⟨hp, .inl hm⟩ h
    · obtain ⟨s, hs⟩ := r.resolve_of_not_isPath hp
      rw [argument_of_resolve hs nofun]
      exact .value rfl
  mishap := by
    rintro ⟨hp, hm | ⟨v, hv, hu⟩⟩
    · obtain ⟨e, he⟩ := Value.lookup_of_misleads hm .value
      exact ⟨e, argument_of_error ((r.resolve_of_isPath hp).trans he)⟩
    · have hr := (r.resolve_of_isPath hp).trans (Value.lookup_of_leads hv .value)
      exact ⟨.tooLarge, argument_of_unwritable hr hu⟩

theorem locator_resolves (path : String) : Resolves (fun _ => True) path
    (r.locators.Misleads path) (r.locator path) where
  resolved h := by
    unfold locator
    obtain ⟨v, hv, -⟩ | ⟨walked, hw⟩ | hm := r.locators.lookup_cases .element path
    · rw [hv]
      cases v with
      | text s => exact .value trivial
      | _ => exact .problem rfl rfl
    · rw [hw]
      exact .problem rfl rfl
    · exact absurd hm h
  mishap h := by
    obtain ⟨e, he⟩ := Value.lookup_of_misleads h .element
    exact ⟨e, by rw [locator, he]; rfl⟩

/-- An argument or an element resolves to a value that is not nothing, or the problem names its
whole text. There is a mishap only where the text leads to a sequence with a false index, or where
an argument is too large to be written. -/
theorem resolves_or_blames (t : Token) :
    Resolves (fun v : Value => v.isNone = false) t.text
      (t.IsPath ∧ (r.values.Misleads t.text ∨ r.values.LeadsToUnwritable t.text))
      (r.argument t) ∧
    Resolves (fun _ : String => True) t.text (r.locators.Misleads t.text) (r.locator t.text) :=
  ⟨r.argument_resolves t, r.locator_resolves t.text⟩

/-- An index with two signs is such a mishap. -/
theorem argument_misled : ¬ IsResolved (fun v : Value => v.isNone = false) "xs.--1"
    ((ofData (.ofPairs [("xs", .list [.text "a"])]) .none).argument ⟨"xs.--1", false⟩) := by
  have h : (ofData (.ofPairs [("xs", .list [.text "a"])]) .none).argument ⟨"xs.--1", false⟩ =
      .error (.mishap (.badInteger (.misspelled "--1"))) := rfl
  rw [h]
  rintro ⟨⟩

end Resolver

end TapScript
