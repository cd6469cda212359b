import TapScript.Proofs.Run.Calling
import TapScript.Proofs.Run.Foresight
import TapScript.Proofs.Script.Words

/-! # Literals in a run

A text between quotes reaches what it is meant for as it stands: the driver that enters it, the
output, the check that compares with it, and the routine that is called with it. Neither what it
looks like nor the dictionaries of the run make a difference.
-/

namespace TapScript

open Outcome

/-- A text written between two quotes of a kind that it lacks, on one line. -/
structure Literal where
  quote : Char
  text : String
  isQuote : Token.isQuote quote = true
  lacks : quote ∉ text.toList
  single : '\n' ∉ text.toList

namespace Literal

/-- The word that a literal is in a line. -/
def word (l : Literal) : String :=
  Text.between l.quote l.text

/-- The token that a literal is read as. -/
def token (l : Literal) : Token :=
  ⟨l.text, true⟩

theorem spells (l : Literal) : l.token.Spells l.word :=
  .quoted l.text l.quote l.isQuote l.lacks l.single

theorem isTight (l : Literal) : Text.IsTight l.word.toList :=
  Token.isTight_between l.isQuote l.text

theorem spells_map (ls : List Literal) :
    List.Forall₂ Token.Spells (ls.map token) (ls.map word) := by
  rw [List.forall₂_map_left_iff, List.forall₂_map_right_iff, List.forall₂_same]
  exact fun l _ => l.spells

end Literal

theorem Resolver.arguments_literals (r : Resolver) (ls : List Literal) :
    r.arguments (ls.map Literal.token) = .ok (.none :: ls.map fun l => .text l.text) := by
  have h : (ls.map Literal.token).mapM r.argument = .ok (ls.map fun l => .text l.text) := by
    rw [Outcome.mapM_eq_ok, List.forall₂_map_left_iff, List.forall₂_map_right_iff,
      List.forall₂_same]
    exact fun _ _ => rfl
  rw [arguments, h]
  rfl

open Procedure

variable {σ ε : Type}

namespace Setup

open Engine

variable (e : Setup σ ε) (nested : Nested σ ε) (s : RunState σ ε)

/-- The ways to ask for a text to be entered into an element: the names between the element and
the text, and the call that enters it. -/
def entries : List (List String × (ε → String → Call ε)) :=
  [([], .type), (["type"], .type), (["keys"], .keys), (["setValue"], .setValue)]

/-- Whether a command finds the element of a path, then makes one call on it, and ends as the
call does. -/
def Calls (path : String) (call : ε → Call ε) (c : Command) : Prop :=
  ∀ locator element w, e.resolver.locator path = .ok locator →
    (e.driver.find (.ofLocator locator) locator).run s.world = (.ok element, w) →
    (e.dispatch nested c).run s =
      (act (e.driver.perform (call element))).run { s with world := w } ∧
    ∀ nested' calls, (e.journaled.dispatch nested' c).run (s.journaled calls) =
      (((e.dispatch nested c).run s).1, ((e.dispatch nested c).run s).2.journaled
        (calls ++ [.find (.ofLocator locator) locator, call element]))

/-- Whether a command compares the label of an element with a text, by the check of a name. -/
def Compares (name path text : String) (c : Command) : Prop :=
  ∀ check locator element label w₁ w₂, Check.ofName? name = some check →
    e.resolver.locator path = .ok locator →
    (e.driver.find (.ofLocator locator) locator).run s.world = (.ok element, w₁) →
    (e.driver.readAttribute element e.execution.labelName).run w₁ = (.ok label, w₂) →
    (e.dispatch nested c).run s =
      (check.run e.host.patterns [label, .text text], { s with world := w₂ })

/-- Whether a command calls a routine of a library with some texts, after its pause. -/
def Invokes (library : List String) (verb : String) (texts : List String) (c : Command) : Prop :=
  ∀ l g r w, s.registry.load s.world.files library = (.ok l, g) → l.routine verb = .ok r →
    (e.driver.sleep (Float.ofInt e.execution.commandDelay)).run s.world = (.ok (), w) →
    (e.dispatch nested c).run s =
      (act (r.call e.host s.current l.origin (texts.map .text)) >>= fun _ => pure ()).run
        { s with world := w, registry := g }

variable {e nested s} {c : Command} {path name : Token} {rest : List Token} {text : String}

theorem run_act_outcome {α : Type} {a : Act σ α} {r : Except Fault α} {w : World σ}
    (h : a.run s.world = (r, w)) : (act a >>= fun _ => pure () : Engine σ ε Unit).run s =
      (r.map fun _ => (), { s with world := w }) := by
  rw [run_bind, run_act, h]
  cases r <;> rfl

section Element

variable {w w₁ w₂ : World σ} {locator : String} {element : ε} {call : ε → Call ε}
  {wait : Option Polling} {check : Check} {label : Value}

/-- An element command whose arguments ask for a call makes it once its element is found. -/
theorem runElement_entering (hc : c.args = path :: rest)
    (hlack : (Gesture.ofArgs rest).lack? = none)
    (hcall : (Gesture.ofArgs rest).call? element = .ok (some (call element)))
    (hl : e.resolver.locator path.text = .ok locator)
    (hf : (e.driver.locate locator wait).run w = (.ok element, w₁)) :
    (e.driver.runElement e.resolver wait c).run w =
      (((e.driver.perform (call element)).run w₁).1.map fun _ => element,
        ((e.driver.perform (call element)).run w₁).2) := by
  rw [Driver.runElement, hc]
  simp only [run_bind, run_lift, hl, hf, hlack, hcall]
  rcases (e.driver.perform (call element)).run w₁ with ⟨x | u, w'⟩
  · rfl
  · rfl

/-- An assert command runs its check on the label of its element and its literal. -/
theorem runAssert_literal {l : Literal} (hc : c.args = [name, path, l.token])
    (hk : Check.ofName? name.text = some check)
    (hl : e.resolver.locator path.text = .ok locator)
    (hf : (e.driver.find (.ofLocator locator) locator).run w = (.ok element, w₁))
    (hr : (e.driver.readAttribute element e.execution.labelName).run w₁ = (.ok label, w₂)) :
    (e.driver.runAssert e.host.patterns e.resolver e.execution.labelName c).run w =
      ((check.run e.host.patterns [label, .text l.text]).map fun _ => label, w₂) := by
  have hargs : Driver.checkArgs label [l.token] = [label, .text l.text] := rfl
  rw [Driver.runAssert, hc]
  simp only [run_bind, run_lift, hl, hk, hf, hr, hargs]
  cases check.run e.host.patterns [label, .text l.text] <;> rfl

theorem dispatch_entering (hb : c.builtin? = some .element) (hc : c.args = path :: rest)
    (hlack : (Gesture.ofArgs rest).lack? = none)
    (hcall : (Gesture.ofArgs rest).call? element = .ok (some (call element)))
    (hl : e.resolver.locator path.text = .ok locator)
    (hf : (e.driver.find (.ofLocator locator) locator).run s.world = (.ok element, w)) :
    (e.dispatch nested c).run s =
      (act (e.driver.perform (call element))).run { s with world := w } := by
  have hlocate : (e.driver.locate locator none).run s.world = (.ok element, w) := hf
  simp only [dispatch, hb]
  rw [run_act_outcome (runElement_entering hc hlack hcall hl hlocate), run_act]
  rcases (e.driver.perform (call element)).run w with ⟨x | u, w'⟩
  · rfl
  · rfl

/-- The calls that such a command makes, in the order in which it makes them. -/
theorem calls_of_entering (hb : c.builtin? = some .element)
    (hc : c.args = path :: rest) (hlack : (Gesture.ofArgs rest).lack? = none)
    (hcall : ∀ element : ε, (Gesture.ofArgs rest).call? element = .ok (some (call element))) :
    e.Calls nested s path.text call c := by
  intro locator element w hl hf
  have hplain : (e.dispatch nested c).run s =
      (act (e.driver.perform (call element))).run { s with world := w } :=
    dispatch_entering hb hc hlack (hcall element) hl hf
  refine ⟨hplain, fun nested' calls => ?_⟩
  -- The setup with a journal is a setup too, so that what has been shown holds for its driver.
  have hfound := e.driver.run_find_journaled hf calls
  have hjournaled : (e.journaled.dispatch nested' c).run (s.journaled calls) =
      (act (e.driver.journaled.perform (call element))).run { s.journaled calls with
        world := w.journaled (calls ++ [.find (.ofLocator locator) locator]) } :=
    dispatch_entering hb hc hlack (hcall element) hl hfound
  rw [hjournaled, hplain, run_act, run_act, Driver.run_perform_journaled, List.append_assoc]
  rfl

/-- Whatever a literal looks like, it is what the ways to enter a text enter. -/
theorem call?_entry {entry : List String × (ε → String → Call ε)} (h : entry ∈ entries)
    (text : String) :
    (Gesture.ofArgs (entry.1.map (⟨·, false⟩) ++ [⟨text, true⟩])).lack? = none ∧
      ∀ element, (Gesture.ofArgs (entry.1.map (⟨·, false⟩) ++ [⟨text, true⟩])).call? element =
        .ok (some (entry.2 element text)) := by
  simp only [entries, List.mem_cons, List.not_mem_nil, or_false] at h
  rcases h with rfl | rfl | rfl | rfl
  · exact ⟨rfl, fun _ => rfl⟩
  · exact ⟨rfl, fun _ => rfl⟩
  · exact ⟨rfl, fun _ => rfl⟩
  · exact ⟨rfl, fun _ => rfl⟩

theorem runLog_single (t : Token) (hc : c.args = [t]) :
    (runLog c : Engine σ ε Unit).run s =
      (.ok (), { s with notices := s.notices ++ [.said t.text] }) := by
  unfold runLog
  rw [hc]
  rfl

theorem compares_of_args {l : Literal} (hb : c.builtin? = some .assert)
    (hc : c.args = [name, path, l.token]) :
    e.Compares nested s name.text path.text l.text c := by
  intro check locator element label w₁ w₂ hk hl hf hr
  simp only [dispatch, hb]
  rw [run_act_outcome (runAssert_literal hc hk hl hf hr)]
  cases check.run e.host.patterns [label, .text l.text] <;> rfl

end Element

theorem invokes_of_args {ls : List Literal} (hb : c.builtin? = none)
    (hc : c.args = ls.map Literal.token) :
    e.Invokes nested s c.library c.verb (ls.map Literal.text) c := by
  intro l g r w hl hr hp
  have hargs : e.resolver.arguments c.args = .ok (.none :: ls.map fun l => .text l.text) := by
    rw [hc, e.resolver.arguments_literals]
  rw [dispatch_library hb, run_bind_ok (invocation_ready hl hr hargs hp), invoke,
    Library.invoke_unbound hr, List.map_map]
  rfl

end Setup

namespace Setup

variable (e : Setup σ ε) (nested : Nested σ ε) (s : RunState σ ε)

/-- Whether literals reach what they are meant for: the element that they are entered into, the
output, the check that compares with them, and the routine that is called with them. -/
structure DeliversLiterals : Prop where
  entered : ∀ {path w quoted}, Token.Spells ⟨path, quoted⟩ w →
    ∀ entry ∈ entries, ∀ l : Literal, Script.Yields ("element" :: w :: (entry.1 ++ [l.word]))
      (e.Calls nested s path fun element => entry.2 element l.text)
  said : ∀ l : Literal, Script.Yields ["log", l.word] fun c =>
    (e.dispatch nested c).run s = (.ok (), { s with notices := s.notices ++ [.said l.text] })
  compared : ∀ {name path v w quoted quoted'}, Token.Spells ⟨name, quoted⟩ v →
    Token.Spells ⟨path, quoted'⟩ w → ∀ l : Literal,
      Script.Yields ["assert", v, w, l.word] (e.Compares nested s name path l.text)
  called : ∀ {library verb w quoted}, library ≠ [] → Registry.IsPlain (library ++ [verb]) →
    Builtin.ofName? verb = none →
    Token.Spells ⟨Registry.dotted (library ++ [verb]), quoted⟩ w → Text.IsTight w.toList →
    ¬ ['/', '/'] <+: w.toList → ∀ ls : List Literal,
      Script.Yields (w :: ls.map Literal.word)
        (e.Invokes nested s library verb (ls.map Literal.text))

/-- A text between quotes reaches what it is meant for unchanged, whatever it looks like and
whatever the dictionaries of the run hold. -/
theorem literals_delivered : e.DeliversLiterals nested s where
  entered {path w quoted} hw entry hentry l := by
    have hnames : List.Forall₂ Token.Spells (entry.1.map (⟨·, false⟩)) entry.1 := by
      simp only [entries, List.mem_cons, List.not_mem_nil, or_false] at hentry
      rcases hentry with rfl | rfl | rfl | rfl
      · exact .nil
      all_goals exact .cons (Token.IsRepresentable.spells_bare (by decide)) .nil
    have hwords : List.Forall₂ Token.Spells
        (⟨path, quoted⟩ :: (entry.1.map (⟨·, false⟩) ++ [l.token])) (w :: (entry.1 ++ [l.word])) :=
      .cons hw (List.rel_append hnames (.cons l.spells .nil))
    refine Script.yields_builtin .element hwords ?_ fun c hb hc => ?_
    · intro v hv
      rw [← List.cons_append, List.getLast?_concat] at hv
      cases hv
      exact l.isTight
    · obtain ⟨hlack, hcall⟩ := call?_entry hentry l.text
      exact calls_of_entering hb hc hlack hcall
  said l := by
    refine Script.yields_builtin .log (.cons l.spells .nil) ?_ fun c hb hc => ?_
    · rintro v ⟨⟩
      exact l.isTight
    · simp only [dispatch, hb]
      exact runLog_single l.token hc
  compared hv hw l := by
    refine Script.yields_builtin .assert (.cons hv (.cons hw (.cons l.spells .nil))) ?_
      fun c hb hc => compares_of_args hb hc
    rintro v ⟨⟩
    exact l.isTight
  called hn hp hb hw htight hcomment ls := by
    refine Script.yields_library hn hp hw htight hcomment (Literal.spells_map ls) ?_
      fun c hlibrary hverb hc => ?_
    · intro v hv
      rw [List.getLast?_map] at hv
      obtain ⟨l, -, rfl⟩ := Option.map_eq_some_iff.mp hv
      exact l.isTight
    · subst hlibrary hverb
      exact invokes_of_args hb hc

end Setup

namespace Simulation

/-- A text that looks like a quoted name of an action. -/
def quotedAction : Literal :=
  ⟨'\'', "\"type\"", by decide, by decide, by decide⟩

/-- Such a text is typed with its quotes. -/
theorem literals_delivered_typing : ∃ script c,
    Script.parse "log x\nelement x '\"type\"'" none = .ok script ∧ c ∈ script.commands ∧
      c.line = 2 ∧ (serving.journaled.dispatch none c).run (idle.journaled []) =
        (.ok (), idle.journaled [.find (.ofLocator "#x") "#x", .type () "\"type\""]) := by
  have hx : Token.Spells ⟨"x", false⟩ "x" := Token.IsRepresentable.spells_bare (by decide)
  have delivered :=
    (serving.literals_delivered none idle).entered hx _ List.mem_cons_self quotedAction
  obtain ⟨script, hparse⟩ : ∃ script,
      Script.parse "log x\nelement x '\"type\"'" none = .ok script := by
    have h : (Script.parse "log x\nelement x '\"type\"'" none).isOk := by decide +kernel
    cases hs : Script.parse "log x\nelement x '\"type\"'" none with
    | ok script => exact ⟨script, rfl⟩
    | error e => simp [hs, Except.isOk, Except.toBool] at h
  have hlines : Text.pieces '\n' "log x\nelement x '\"type\"'" =
      ["log x"] ++ Token.lineOf ["element", "x", quotedAction.word] :: [] := by decide
  obtain ⟨c, hc, hline, hcalls⟩ := delivered.command hparse hlines
  obtain ⟨hdispatch, hjournal⟩ := hcalls "#x" () idle.world rfl rfl
  refine ⟨script, c, hparse, hc, hline, ?_⟩
  rw [hjournal none [], hdispatch]
  rfl

end Simulation

end TapScript
