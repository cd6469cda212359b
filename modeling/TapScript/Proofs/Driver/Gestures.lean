import TapScript.Proofs.Driver.Polling
import TapScript.Proofs.Run.Foresight

/-! # Element commands, all or nothing

An element command either finds its element and then does all that it asks for, in one last call on
that element, or it ends with a fault and makes no call on any element.
-/

namespace TapScript

/-- The call on an element that arguments ask for. -/
inductive Asks {ε : Type} (e : ε) : List Token → Call ε → Prop
  | quoted {s rest} : Asks e (⟨s, true⟩ :: rest) (.type e s)
  | delimited {s rest} (h : Token.isDelimited s = true) :
      Asks e (⟨s, false⟩ :: rest) (.type e (Token.inner s))
  | click {rest} : Asks e (⟨"click", false⟩ :: rest) (.click e)
  | tap {x y : Token} {a b : Numeral} {rest} (hx : Numeral.ofText? x.text = some a)
      (hy : Numeral.ofText? y.text = some b) :
      Asks e (⟨"tap", false⟩ :: x :: y :: rest) (.tap e a.toFloat b.toFloat)
  | swipe {x y x' y' ms : Token} {a b a' b' n : Numeral} {rest}
      (hx : Numeral.ofText? x.text = some a) (hy : Numeral.ofText? y.text = some b)
      (hx' : Numeral.ofText? x'.text = some a') (hy' : Numeral.ofText? y'.text = some b')
      (hms : Numeral.ofText? ms.text = some n) :
      Asks e (⟨"swipe", false⟩ :: x :: y :: x' :: y' :: ms :: rest)
        (.swipe e a.toFloat b.toFloat a'.toFloat b'.toFloat n.toFloat)
  | type {t rest} : Asks e (⟨"type", false⟩ :: t :: rest) (.type e t.text)
  | keys {t rest} : Asks e (⟨"keys", false⟩ :: t :: rest) (.keys e t.text)
  | setValue {t rest} : Asks e (⟨"setValue", false⟩ :: t :: rest) (.setValue e t.text)

/-- The names of the actions on an element. -/
def Action.names : List String :=
  ["click", "tap", "swipe", "type", "keys", "setValue"]

/-- Whether arguments ask for no action: there are none, or the first is a name of no action. -/
inductive AsksNothing : List Token → Prop
  | nil : AsksNothing []
  | unknown {s rest} (hd : Token.isDelimited s = false) (hs : s ∉ Action.names) :
      AsksNothing (⟨s, false⟩ :: rest)

/-- Whether arguments ask for an action but lack what it needs, or do not write its numbers. -/
def AsksInVain {ε : Type} (e : ε) (ts : List Token) : Prop :=
  ¬ AsksNothing ts ∧ ∀ call, ¬ Asks e ts call

/-- Whether a problem is that arguments are missing, or that they do not write numbers. -/
def Problem.IsOfArguments (p : Problem) : Prop :=
  p.category = .missingArgument ∨ p.category = .parse

namespace Gesture

variable {ε : Type} {g : Gesture} {e : ε} {p : Problem} {ts : List Token}

theorem numbers_eq_ok {ss : List String} {xs : List Float} : g.numbers ss = .ok xs ↔
    List.Forall₂ (fun s x => ∃ n, Numeral.ofText? s = some n ∧ n.toFloat = x) ss xs := by
  unfold numbers
  rw [Outcome.mapM_eq_ok]
  refine iff_of_eq (congrArg (List.Forall₂ · ss xs) (funext₂ fun s x => ?_))
  cases Numeral.ofText? s <;> simp

theorem ofName_of_not_mem {s : String} (h : s ∉ Action.names) : Action.ofName s = .locate := by
  unfold Action.ofName
  split
  all_goals first | rfl | exact absurd (by decide) h

theorem isOfArguments_lack? (h : g.lack? = some p) : p.IsOfArguments :=
  .inl (lack?_category h)

theorem isOfArguments_call? (h : g.call? e = .error p) : p.IsOfArguments := by
  obtain ⟨text, rfl⟩ := call?_error h
  exact .inr rfl

/-- What a gesture leads to: a problem with its arguments, nothing, or the call that they ask
for. -/
def Leads (g : Gesture) (e : ε) (ts : List Token) : Prop :=
  (∃ p, g.call? e = .error p) ∨ (g.call? e = .ok none ∧ AsksNothing ts) ∨
    ∃ call, g.call? e = .ok (some call) ∧ Asks e ts call

theorem leads_tap (h : 2 ≤ ts.length) :
    Leads ⟨.tap, "tap", ts.map (·.text)⟩ e (⟨"tap", false⟩ :: ts) := by
  obtain ⟨x, y, rest, rfl⟩ : ∃ x y rest, ts = x :: y :: rest := by
    match ts, h with
    | x :: y :: rest, _ => exact ⟨x, y, rest, rfl⟩
  unfold Leads call?
  cases hn : numbers ⟨.tap, "tap", (x :: y :: rest).map (·.text)⟩ [x.text, y.text] with
  | error p => exact .inl ⟨p, congrArg (· >>= _) hn⟩
  | ok xs =>
    obtain _ | ⟨⟨a, ha, rfl⟩, _ | ⟨⟨b, hb, rfl⟩, ⟨⟩⟩⟩ := numbers_eq_ok.mp hn
    exact .inr (.inr ⟨_, congrArg (· >>= _) hn, .tap ha hb⟩)

theorem leads_swipe (h : 5 ≤ ts.length) :
    Leads ⟨.swipe, "swipe", ts.map (·.text)⟩ e (⟨"swipe", false⟩ :: ts) := by
  obtain ⟨x, y, x', y', ms, rest, rfl⟩ :
      ∃ x y x' y' ms rest, ts = x :: y :: x' :: y' :: ms :: rest := by
    match ts, h with
    | x :: y :: x' :: y' :: ms :: rest, _ => exact ⟨x, y, x', y', ms, rest, rfl⟩
  unfold Leads call?
  cases hn : numbers ⟨.swipe, "swipe", (x :: y :: x' :: y' :: ms :: rest).map (·.text)⟩
      [x.text, y.text, x'.text, y'.text, ms.text] with
  | error p => exact .inl ⟨p, congrArg (· >>= _) hn⟩
  | ok xs =>
    obtain _ | ⟨⟨a, ha, rfl⟩, _ | ⟨⟨b, hb, rfl⟩, _ | ⟨⟨a', ha', rfl⟩, _ | ⟨⟨b', hb', rfl⟩,
      _ | ⟨⟨n, hn', rfl⟩, ⟨⟩⟩⟩⟩⟩⟩ := numbers_eq_ok.mp hn
    exact .inr (.inr ⟨_, congrArg (· >>= _) hn, .swipe ha hb ha' hb' hn'⟩)

theorem ofArgs_unquoted {s : String} (h : Token.isDelimited s = false) :
    ofArgs (⟨s, false⟩ :: ts) = ⟨.ofName s, s, ts.map (·.text)⟩ := by
  simp [ofArgs, h]

theorem leads_ofArgs (h : (ofArgs ts).lack? = none) : (ofArgs ts).Leads e ts := by
  cases ts with
  | nil => exact .inr (.inl ⟨rfl, .nil⟩)
  | cons t ts =>
    obtain ⟨s, _ | _⟩ := t
    swap
    · exact .inr (.inr ⟨_, rfl, .quoted⟩)
    rw [lack?_ofArgs] at h
    have hl := h rfl
    cases hd : Token.isDelimited s with
    | true =>
      have hg : ofArgs (⟨s, false⟩ :: ts) = typing (Token.inner s) := by simp [ofArgs, hd]
      rw [hg]
      exact .inr (.inr ⟨_, rfl, .delimited hd⟩)
    | false =>
      rw [ofArgs_unquoted hd]
      by_cases hs : s ∈ Action.names
      · simp only [Action.names, List.mem_cons, List.not_mem_nil, or_false] at hs
        rcases hs with rfl | rfl | rfl | rfl | rfl | rfl
        · exact .inr (.inr ⟨_, rfl, .click⟩)
        · exact leads_tap hl
        · exact leads_swipe hl
        all_goals
          cases ts with
          | nil => cases hl
          | cons t ts => exact .inr (.inr ⟨_, rfl, by constructor⟩)
      · rw [ofName_of_not_mem hs]
        exact .inr (.inl ⟨rfl, .unknown hd hs⟩)

/-- A gesture makes the call that its arguments ask for. -/
theorem call?_of_asks {call : Call ε} (h : Asks e ts call) :
    (ofArgs ts).lack? = none ∧ (ofArgs ts).call? e = .ok (some call) := by
  cases h with
  | quoted => exact ⟨rfl, rfl⟩
  | @delimited s rest h =>
    have hg : ofArgs (⟨s, false⟩ :: rest) = typing (Token.inner s) := by simp [ofArgs, h]
    rw [hg]
    exact ⟨rfl, rfl⟩
  | @tap x y a b rest hx hy =>
    rw [ofArgs_unquoted (by decide)]
    have hn : numbers ⟨.tap, "tap", (x :: y :: rest).map (·.text)⟩ [x.text, y.text] =
        .ok [a.toFloat, b.toFloat] :=
      numbers_eq_ok.mpr (.cons ⟨a, hx, rfl⟩ (.cons ⟨b, hy, rfl⟩ .nil))
    exact ⟨rfl, congrArg (· >>= _) hn⟩
  | @swipe x y x' y' ms a b a' b' n rest hx hy hx' hy' hms =>
    rw [ofArgs_unquoted (by decide)]
    have hn : numbers ⟨.swipe, "swipe", (x :: y :: x' :: y' :: ms :: rest).map (·.text)⟩
        [x.text, y.text, x'.text, y'.text, ms.text] =
          .ok [a.toFloat, b.toFloat, a'.toFloat, b'.toFloat, n.toFloat] :=
      numbers_eq_ok.mpr (.cons ⟨a, hx, rfl⟩ (.cons ⟨b, hy, rfl⟩ (.cons ⟨a', hx', rfl⟩
        (.cons ⟨b', hy', rfl⟩ (.cons ⟨n, hms, rfl⟩ .nil)))))
    exact ⟨rfl, congrArg (· >>= _) hn⟩
  | click => exact ⟨rfl, rfl⟩
  | type => exact ⟨rfl, rfl⟩
  | keys => exact ⟨rfl, rfl⟩
  | setValue => exact ⟨rfl, rfl⟩

theorem call?_of_asksNothing (h : AsksNothing ts) :
    (ofArgs ts).lack? = none ∧ (ofArgs ts).call? e = .ok none := by
  cases h with
  | nil => exact ⟨rfl, rfl⟩
  | unknown hd hs =>
    rw [ofArgs_unquoted hd, ofName_of_not_mem hs]
    exact ⟨rfl, rfl⟩

theorem asksInVain_of_lack? (h : (ofArgs ts).lack? = some p) : AsksInVain e ts where
  left ha := by cases h.symm.trans (call?_of_asksNothing (e := e) ha).1
  right _ ha := by cases h.symm.trans (call?_of_asks ha).1

theorem asksInVain_of_call? (h : (ofArgs ts).call? e = .error p) : AsksInVain e ts where
  left ha := by cases h.symm.trans (call?_of_asksNothing ha).2
  right _ ha := by cases h.symm.trans (call?_of_asks ha).2

end Gesture

namespace Driver

open Procedure

variable {σ ε : Type} (d : Driver σ ε) (r : Resolver) (wait : Option Polling) (c : Command)
  (w : World σ)

/-- The calls that look for an element: one attempt, or the attempts of a polling with the pauses
between them. A polling that a pause breaks off ends with that pause. -/
def IsSearch (locator : String) (found : Except Fault ε) : Option Polling → List (Call ε) → Prop
  | none, calls => calls = [.find (.ofLocator locator) locator]
  | some p, calls => (∃ n ≤ p.last, calls = p.calls (.ofLocator locator) locator n) ∨
      (∃ f, found = .error f) ∧ ∃ n < p.last, calls = p.waits (.ofLocator locator) locator (n + 1)

/-- How the search for an element goes: its calls, none of which is on an element, its outcome, and
the world that it leaves. -/
structure Searches (locator : String) (calls : List (Call ε)) (found : Except Fault ε)
    (w' : World σ) : Prop where
  traced : Act.Traced (d.locate locator wait) (d.journaled.locate locator wait) w calls found w'
  isSearch : IsSearch locator found wait calls
  untouched : ∀ call ∈ calls, call.isOnElement = false

/-- An element command that does all that it asks for. Its last call is the one that it asks for,
on the element that it found, and its outcome is that of the call; if it asks for no action, the
search is all. -/
inductive DoesAll : List (Call ε) → Except Fault ε → World σ → Prop
  | acted {name rest locator search e w₁ call u w'} (args : c.args = name :: rest)
      (resolved : r.locator name.text = .ok locator)
      (found : d.Searches wait w locator search (.ok e) w₁) (asks : Asks e rest call)
      (ends : (d.perform call).run w₁ = (u, w')) :
      DoesAll (search ++ [call]) (u.map fun _ => e) w'
  | idle {name rest locator search e w'} (args : c.args = name :: rest)
      (resolved : r.locator name.text = .ok locator)
      (found : d.Searches wait w locator search (.ok e) w') (asks : AsksNothing rest) :
      DoesAll search (.ok e) w'

/-- An element command that fails before it does anything to an element, with no call at all if it
has no element path or if that does not lead to a locator. -/
inductive DoesNothing : List (Call ε) → Fault → World σ → Prop
  | unnamed (args : c.args = []) : DoesNothing [] (c.fault (.noElement c.verb)) w
  | unresolved {name rest f} (args : c.args = name :: rest)
      (unresolved : r.locator name.text = .error f) : DoesNothing [] f w
  | lost {name rest locator search f w'} (args : c.args = name :: rest)
      (resolved : r.locator name.text = .ok locator)
      (lost : d.Searches wait w locator search (.error f) w') : DoesNothing search f w'
  | refused {name rest locator search e p w'} (args : c.args = name :: rest)
      (resolved : r.locator name.text = .ok locator)
      (found : d.Searches wait w locator search (.ok e) w') (asks : AsksInVain e rest)
      (wrong : p.IsOfArguments) : DoesNothing search (c.fault p) w'

variable {d r wait c w}

theorem isOnElement_waits {p : Polling} {s : Strategy} {locator : String} {n : Nat} :
    ∀ call ∈ p.waits (ε := ε) s locator n, call.isOnElement = false := by
  induction n with
  | zero => nofun
  | succ n ih => exact List.forall_mem_append.mpr ⟨ih, by simp [Call.isOnElement]⟩

theorem isOnElement_search {locator : String} {found : Except Fault ε} {calls : List (Call ε)}
    (h : IsSearch locator found wait calls) : ∀ call ∈ calls, call.isOnElement = false := by
  cases wait with
  | none =>
    cases h
    simp [Call.isOnElement]
  | some p =>
    obtain ⟨n, -, rfl⟩ | ⟨-, n, -, rfl⟩ := h
    · exact List.forall_mem_append.mpr ⟨isOnElement_waits, by simp [Call.isOnElement]⟩
    · exact isOnElement_waits

variable (d wait w) in
theorem locate_searches (locator : String) :
    ∃ calls found w', d.Searches wait w locator calls found w' := by
  cases wait with
  | none =>
    have hs : IsSearch locator ((d.find (.ofLocator locator) locator).run w).1 none
        [.find (.ofLocator locator) locator] := rfl
    exact ⟨_, _, _, .respond rfl, hs, isOnElement_search hs⟩
  | some p =>
    obtain ⟨calls, found, w', hp, ht⟩ := d.await_polled (.ofLocator locator) locator p w
    have hs : IsSearch locator found (some p) calls := by
      cases hp with
      | attempted hn => exact .inl ⟨_, hn, rfl⟩
      | disturbed hn => exact .inr ⟨⟨_, rfl⟩, _, hn, rfl⟩
    exact ⟨calls, found, w', ht, hs, isOnElement_search hs⟩

variable (d c) in
/-- What an element command does with its element. -/
def follow (g : Gesture) (e : ε) : Act σ ε :=
  match g.lack?, g.call? e with
  | some p, _ => throw (c.fault p)
  | none, .error p => throw (c.fault p)
  | none, .ok none => pure e
  | none, .ok (some call) => do
    d.perform call
    return e

theorem runElement_cons {name : Token} {rest : List Token} (h : c.args = name :: rest) :
    d.runElement r wait c = liftM (r.locator name.text) >>= fun locator =>
      d.locate locator wait >>= d.follow c (Gesture.ofArgs rest) := by
  rw [runElement, h]
  refine bind_congr fun locator => bind_congr fun e => ?_
  unfold follow
  cases (Gesture.ofArgs rest).lack? with
  | some p => rfl
  | none => cases (Gesture.ofArgs rest).call? e with
    | error p => rfl
    | ok call? => cases call? <;> rfl

theorem traced_perform {call : Call ε} {u : Except Fault Unit} {w' : World σ} {e : ε}
    (h : (d.perform call).run w = (u, w')) :
    Act.Traced (d.perform call >>= fun _ => pure e) (d.journaled.perform call >>= fun _ => pure e) w
      [call] (u.map fun _ => e) w' := by
  have hj := fun log => d.run_perform_journaled call w log
  rw [h] at hj
  cases u with
  | ok u => exact Act.Traced.bind ⟨h, hj⟩ (.pure e)
  | error f => exact Act.Traced.bind_error ⟨h, hj⟩

/-- What follows once the element is found: nothing but a fault, nothing at all, or one call. -/
theorem follow_traced (d : Driver σ ε) (c : Command) (rest : List Token) (e : ε) (w : World σ) :
    ∃ calls res w', Act.Traced (d.follow c (Gesture.ofArgs rest) e)
        (d.journaled.follow c (Gesture.ofArgs rest) e) w calls res w' ∧
      ((∃ p : Problem, AsksInVain e rest ∧ p.IsOfArguments ∧ calls = [] ∧
          res = .error (c.fault p) ∧ w' = w) ∨
        (AsksNothing rest ∧ calls = [] ∧ res = .ok e ∧ w' = w) ∨
        ∃ call u, Asks e rest call ∧ (d.perform call).run w = (u, w') ∧ calls = [call] ∧
          res = u.map fun _ => e) := by
  unfold follow
  cases hk : (Gesture.ofArgs rest).lack? with
  | some p =>
    exact ⟨_, _, _, .throw _, .inl ⟨p, Gesture.asksInVain_of_lack? hk,
      Gesture.isOfArguments_lack? hk, rfl, rfl, rfl⟩⟩
  | none =>
    obtain ⟨p, hp⟩ | ⟨hn, ha⟩ | ⟨call, hcall, ha⟩ := Gesture.leads_ofArgs (e := e) hk
    · rw [hp]
      exact ⟨_, _, _, .throw _, .inl ⟨p, Gesture.asksInVain_of_call? hp,
        Gesture.isOfArguments_call? hp, rfl, rfl, rfl⟩⟩
    · rw [hn]
      exact ⟨_, _, _, .pure e, .inr (.inl ⟨ha, rfl, rfl, rfl⟩)⟩
    · rw [hcall]
      exact ⟨_, _, _, traced_perform rfl, .inr (.inr ⟨call, _, ha, rfl, rfl, rfl⟩)⟩

/-- An element command does all that it asks for, or it fails and does nothing to any element. -/
theorem runElement_all_or_nothing (d : Driver σ ε) (r : Resolver) (wait : Option Polling)
    (c : Command) (w : World σ) : ∃ calls res w',
      Act.Traced (d.runElement r wait c) (d.journaled.runElement r wait c) w calls res w' ∧
      (d.DoesAll r wait c w calls res w' ∨
        ∃ f, res = .error f ∧ d.DoesNothing r wait c w calls f w' ∧
          ∀ call ∈ calls, call.isOnElement = false) := by
  match hc : c.args with
  | [] =>
    refine ⟨_, _, _, ?_, .inr ⟨_, rfl, .unnamed hc, nofun⟩⟩
    rw [runElement, runElement, hc]
    exact .throw _
  | name :: rest =>
    rw [runElement_cons hc, runElement_cons hc]
    cases hl : r.locator name.text with
    | error f => exact ⟨_, _, _, .lift_bind_error rfl, .inr ⟨_, rfl, .unresolved hc hl, nofun⟩⟩
    | ok locator =>
      obtain ⟨search, found, w₁, hs⟩ := d.locate_searches wait w locator
      cases found with
      | error f =>
        exact ⟨_, _, _, .lift_bind rfl hs.traced.bind_error,
          .inr ⟨_, rfl, .lost hc hl hs, hs.untouched⟩⟩
      | ok e =>
        obtain ⟨calls, res, w', ht, h⟩ := d.follow_traced c rest e w₁
        refine ⟨_, _, _, .lift_bind rfl (hs.traced.bind ht), ?_⟩
        obtain ⟨p, ha, hp, rfl, rfl, rfl⟩ | ⟨ha, rfl, rfl, rfl⟩ | ⟨call, u, ha, hu, rfl, rfl⟩ := h
        · rw [List.append_nil]
          exact .inr ⟨_, rfl, .refused hc hl hs ha hp, hs.untouched⟩
        · rw [List.append_nil]
          exact .inl (.idle hc hl hs ha)
        · exact .inl (.acted hc hl hs ha hu)

end Driver

end TapScript
