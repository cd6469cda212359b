import TapScript.Proofs.Driver.Operations

/-! # Selecting by a label

The selector of a label holds the label as a string between double quotes. Read back, the string is
the label as a whole and nothing but the closing bracket follows it, whatever the label holds. So a
selector gives back what it was made of, and finding an element looks for that element alone.
-/

namespace TapScript

namespace Selector

variable {cs more value rest body : List Char} {s s' : Strategy}
  {locator locator' label label' : String}

/-- The string that some characters write up to the double quote that ends it, and what follows that
quote. A backslash makes the next character literal. -/
def takeString : List Char → Option (List Char × List Char)
  | [] => none
  | ['\\'] => none
  | '\\' :: c :: cs => (takeString cs).map fun (value, rest) => (c :: value, rest)
  | c :: cs =>
    if c = '"' then some ([], cs)
    else (takeString cs).map fun (value, rest) => (c :: value, rest)

/-- What the selector of a label begins with. -/
def opening : String :=
  "[aria-label=\""

/-- Whether a selector holds a label: its string is the label as a whole, a closing bracket is all
that follows the string, and no part of the string ends it earlier. -/
structure Encloses (label selector : String) (body : List Char) : Prop where
  written : selector = opening ++ String.ofList body ++ "\"]"
  value : takeString (body ++ ['"', ']']) = some (label.toList, [']'])
  unbroken : ∀ part, part <+: body → takeString part = none

theorem takeString_plain {c : Char} (hq : c ≠ '"') (hb : c ≠ '\\') :
    takeString (c :: cs) = (takeString cs).map fun (value, rest) => (c :: value, rest) := by
  rw [takeString]
  · exact if_neg hq
  · simp_all
  · simp_all

/-- What neither ends with a backslash nor has one before a character does not begin with one. -/
theorem ne_backslash {c : Char} (hcut : c = '\\' → cs = [] → False)
    (hpair : ∀ d ds, c = '\\' → cs = d :: ds → False) : c ≠ '\\' := by
  rintro rfl
  cases cs with
  | nil => exact hcut rfl rfl
  | cons d ds => exact hpair d ds rfl rfl

/-- The characters of a label, between double quotes, are the string that is taken. -/
theorem takeString_of_unescape (h : unescape body = some value) (rest : List Char) :
    takeString (body ++ '"' :: rest) = some (value, rest) := by
  fun_induction unescape body generalizing value with
  | case1 =>
    cases h
    rfl
  | case2 => cases h
  | case3 c cs ih =>
    obtain ⟨v, hv, rfl⟩ := Option.map_eq_some_iff.mp h
    simp only [List.cons_append, takeString, ih hv, Option.map_some]
  | case4 cs => cases h
  | case5 c cs hcut hpair hq ih =>
    obtain ⟨v, hv, rfl⟩ := Option.map_eq_some_iff.mp h
    rw [List.cons_append, takeString_plain hq (ne_backslash hcut hpair), ih hv]
    rfl

/-- A string that has ended is the same whatever comes after it. -/
theorem takeString_append (h : takeString cs = some (value, rest)) (more : List Char) :
    takeString (cs ++ more) = some (value, rest ++ more) := by
  fun_induction takeString cs generalizing value with
  | case1 => cases h
  | case2 => cases h
  | case3 c cs ih =>
    obtain ⟨⟨v, r⟩, hv, hr⟩ := Option.map_eq_some_iff.mp h
    cases hr
    simp only [List.cons_append, takeString, ih hv, Option.map_some]
  | case4 cs =>
    cases h
    rfl
  | case5 c cs hcut hpair hq ih =>
    obtain ⟨⟨v, r⟩, hv, hr⟩ := Option.map_eq_some_iff.mp h
    cases hr
    rw [List.cons_append, takeString_plain hq (ne_backslash hcut hpair), ih hv]
    rfl

theorem encloses_ofLocator (label : String) :
    Encloses label (ofLocator .accessibilityId label) (escape label.toList) := by
  have hvalue : takeString (escape label.toList ++ ['"', ']']) =
      some (label.toList, [']']) :=
    takeString_of_unescape (unescape_escape label.toList) [']']
  refine ⟨rfl, hvalue, ?_⟩
  rintro part ⟨left, hpart⟩
  rw [Option.eq_none_iff_forall_ne_some]
  rintro ⟨v, r⟩ htaken
  -- A part that ended the string would leave what is left of it before the ending quote.
  have hwhole := takeString_append htaken (left ++ ['"', ']'])
  rw [← List.append_assoc, hpart, hvalue] at hwhole
  have hrest : [']'] = r ++ (left ++ ['"', ']']) := (Prod.ext_iff.mp (Option.some.inj hwhole)).2
  have hlength := congrArg List.length hrest
  simp only [List.length_append, List.length_cons, List.length_nil] at hlength
  omega

theorem Encloses.inj {selector : String} {body' : List Char} (h : Encloses label selector body)
    (h' : Encloses label' selector body') : label = label' := by
  have hchars := congrArg String.toList (h.written.symm.trans h'.written)
  simp only [String.toList_append, String.toList_ofList, List.append_cancel_left_eq,
    List.append_cancel_right_eq] at hchars
  have hvalues := h.value.symm.trans (hchars ▸ h'.value)
  exact String.toList_inj.mp (Prod.ext_iff.mp (Option.some.inj hvalues)).1

/-- A selector gives back the strategy and the locator that it was made of. -/
theorem ofLocator_inj (h : ofLocator s locator = ofLocator s' locator') :
    s = s' ∧ locator = locator' := by
  have hchars := congrArg String.toList h
  cases s <;> cases s'
  · exact ⟨rfl, String.toList_inj.mp (by simpa [ofLocator] using hchars)⟩
  · simp [ofLocator] at hchars
  · simp [ofLocator] at hchars
  · exact ⟨rfl, (encloses_ofLocator locator).inj (h ▸ encloses_ofLocator locator')⟩

end Selector

/-- The selector that a call on a page is about. -/
def PageCall.selector? : PageCall → Option String
  | .locate s | .count s | .click s | .tap s .. | .bounds s | .press s _ | .focus s | .fill s _
  | .readAttribute s _ => some s
  | .moveMouse .. | .lowerMouse | .raiseMouse | .typeKeys _ | .wait _ | .visit _ | .close
  | .closeContext => none

/-- Whether an entry is a call on a page that is about a selector. -/
def LogEntry.IsAbout (selector : String) (x : LogEntry) : Prop :=
  ∃ c, x.call = .page c ∧ c.selector? = some selector

namespace Page

variable {σ : Type} (p : Page σ)

/-- Whether the driver of a page looks for an element by a selector: it makes calls about that
selector alone, at least one, and an element that it finds is that of the selector. -/
def FindsBy (closesContext : Bool) (s : Strategy) (locator selector : String) : Prop :=
  ∀ w : World σ, ∃ more r w',
    Act.Enters ((p.driver closesContext).find s locator)
      ((p.logged.driver closesContext).find s locator) w more r w' ∧
    more ≠ [] ∧ (∀ x ∈ more, x.IsAbout selector) ∧ ∀ e, r = .ok e → e = selector

theorem findsBy_ofLocator (closesContext : Bool) (s : Strategy) (locator : String) :
    p.FindsBy closesContext s locator (Selector.ofLocator s locator) := by
  have hlocate (f : Option Fault) : LogEntry.IsAbout (Selector.ofLocator s locator)
      ⟨.page (.locate (Selector.ofLocator s locator)), f⟩ := ⟨_, rfl, rfl⟩
  have hcount (f : Option Fault) : LogEntry.IsAbout (Selector.ofLocator s locator)
      ⟨.page (.count (Selector.ofLocator s locator)), f⟩ := ⟨_, rfl, rfl⟩
  intro w
  change ∃ more r w', Act.Enters (p.find s locator) (p.logged.find s locator) w more r w' ∧ _
  rw [find_eq, find_eq]
  rcases h₁ : (p.respond (.locate (Selector.ofLocator s locator))).run w with ⟨f | ⟨⟩, w₁⟩
  · exact ⟨_, _, _, (enters_respond h₁).bind_error, by simp, by simp [hlocate], nofun⟩
  rcases h₂ : (p.respond (.count (Selector.ofLocator s locator))).run w₁ with ⟨f | n, w₂⟩
  · exact ⟨_, _, _, (enters_respond h₁).bind (enters_respond h₂).bind_error, by simp,
      by simp [hlocate, hcount], nofun⟩
  · refine ⟨_, _, _, (enters_respond h₁).bind ((enters_respond h₂).bind (.lift _)), by simp,
      by simp [hlocate, hcount], fun e he => ?_⟩
    unfold found at he
    split at he <;> cases he
    rfl

/-- Labels are selected without loss, and no label adds to its selector: the driver of a page looks
for an element by the selector of its locator, which holds a label as a whole and nothing more, and
different locators have different selectors. -/
theorem selects_exactly (closesContext : Bool) :
    (∀ s locator, p.FindsBy closesContext s locator (Selector.ofLocator s locator)) ∧
      (∀ label, ∃ body,
        Selector.Encloses label (Selector.ofLocator .accessibilityId label) body) ∧
      Function.Injective (Function.uncurry Selector.ofLocator) := by
  refine ⟨p.findsBy_ofLocator closesContext, fun label => ?_, ?_⟩
  · exact ⟨_, Selector.encloses_ofLocator label⟩
  · rintro ⟨s, locator⟩ ⟨s', locator'⟩ h
    obtain ⟨hs, hlocator⟩ := Selector.ofLocator_inj h
    exact Prod.ext hs hlocator

/-- A label of a quote and a backslash is read back from its selector. -/
example : Selector.takeString ['\\', '"', '\\', '\\', '"', ']'] = some (['"', '\\'], [']']) := by
  rfl

end Page

end TapScript
