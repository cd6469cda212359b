import TapScript.Proofs.Driver.Gestures
import TapScript.Proofs.Driver.Operations
import TapScript.Proofs.Number.Range

/-! # Numbers that reach a page

The numbers that commands hand to a driver are the doubles of the numerals that their texts write.
These are finite only for numerals below the overflow. A drag is told its number of steps, which an
infinite duration does not have.
-/

namespace TapScript

variable {σ ε : Type}

/-- Whether the double of a numeral is finite, seen from what the numeral stands for. -/
def Numeral.IsInRange (n : Numeral) : Prop :=
  n.magnitude < Double.overflow

/-- The numbers that a call hands over. -/
def Call.numbers : Call ε → List Float
  | .tap _ x y => [x, y]
  | .swipe _ startX startY endX endY ms => [startX, startY, endX, endY, ms]
  | .sleep ms => [ms]
  | .find .. | .click _ | .type .. | .keys .. | .setValue .. | .readAttribute .. | .quit => []

/-- Whether texts write numerals of which some numbers are the doubles. -/
def WriteNumbers (texts : List String) (xs : List Float) : Prop :=
  List.Forall₂ (fun s x => ∃ n, Numeral.ofText? s = some n ∧ n.toFloat = x) texts xs

/-- The numbers of a call are those that the arguments after the name of the action write. -/
theorem Asks.writeNumbers {e : ε} {ts : List Token} {call : Call ε} (h : Asks e ts call) :
    ∃ texts rest, (ts.drop 1).map (·.text) = texts ++ rest ∧ WriteNumbers texts call.numbers := by
  cases h with
  | @tap x y a b rest hx hy =>
    refine ⟨[x.text, y.text], rest.map (·.text), rfl, ?_⟩
    exact .cons ⟨a, hx, rfl⟩ (.cons ⟨b, hy, rfl⟩ .nil)
  | @swipe x y x' y' ms a b a' b' n rest hx hy hx' hy' hms =>
    refine ⟨[x.text, y.text, x'.text, y'.text, ms.text], rest.map (·.text), rfl, ?_⟩
    exact .cons ⟨a, hx, rfl⟩ (.cons ⟨b, hy, rfl⟩ (.cons ⟨a', hx', rfl⟩
      (.cons ⟨b', hy', rfl⟩ (.cons ⟨n, hms, rfl⟩ .nil))))
  | _ => exact ⟨[], _, rfl, .nil⟩

theorem Driver.follow_of_asks (d : Driver σ ε) (c : Command) {element : ε} {ts : List Token}
    {call : Call ε} (h : Asks element ts call) : d.follow c (Gesture.ofArgs ts) element =
      d.perform call >>= fun _ => pure element := by
  obtain ⟨hlack, hcall⟩ := Gesture.call?_of_asks h
  unfold follow
  rw [hlack, hcall]

namespace Page

variable {p : Page σ} {w : World σ}

/-- Whether a page carries out all calls that are made on it. -/
def Succeeds (p : Page σ) : Prop :=
  ∀ c w, ∃ x w', (p.respond c).run w = (.ok x, w')

theorem isSome_floor?_step (ms : Float) :
    (Decimal.floor? (ms / stepTime)).isSome = ms.isFinite :=
  (Double.isSome_floor? _).trans (Double.isFinite_div_sixteen ms)

theorem dragSteps_of_finite {ms : Float} (h : ms.isFinite = true) :
    ∃ n, 1 ≤ n ∧ dragSteps ms = .ok n := by
  rw [← isSome_floor?_step, Option.isSome_iff_exists] at h
  obtain ⟨n, hn⟩ := h
  refine ⟨max 1 n, le_max_left _ _, ?_⟩
  rw [dragSteps, hn]

theorem dragSteps_of_infinite {ms : Float} (h : ms.isFinite = false) :
    dragSteps ms = .error (.mishap .notFinite) := by
  rw [← isSome_floor?_step, Option.isSome_eq_false_iff, Option.isNone_iff_eq_none] at h
  rw [dragSteps, h]

/-- What a drag enters in the log, and how it ends: with the mouse moved to the start, lowered,
moved to the end in some steps and raised, or at once. -/
inductive IsDrag (element : String) (left top startX startY endX endY ms : Float) :
    List PageCall → Except Fault Unit → Prop
  | made {n : Int} (finite : ms.isFinite = true) (steps : 1 ≤ n) :
      IsDrag element left top startX startY endX endY ms
        [.bounds element, .moveMouse (left + startX) (top + startY) none, .lowerMouse,
          .moveMouse (left + endX) (top + endY) (some n), .raiseMouse] (.ok ())
  | refused (infinite : ms.isFinite = false) :
      IsDrag element left top startX startY endX endY ms [.bounds element]
        (.error (.mishap .notFinite))

/-- What calls enter in the log that a page carries out. -/
def carriedOut (calls : List PageCall) : List LogEntry :=
  calls.map fun c => ⟨.page c, none⟩

theorem Succeeds.enters (hp : p.Succeeds) (c : PageCall) (w : World σ) : ∃ x w',
    (p.respond c).Enters (p.logged.respond c) w (carriedOut [c]) (.ok x) w' := by
  obtain ⟨x, w', h⟩ := hp c w
  exact ⟨x, w', enters_respond h⟩

theorem enters_swipe (hp : p.Succeeds) {element : String} {left top : Float}
    (boxed : ((p.respond (.bounds element)).run w).1 = .ok (some (left, top)))
    (startX startY endX endY ms : Float) : ∃ calls u w',
      IsDrag element left top startX startY endX endY ms calls u ∧
      (p.swipe element startX startY endX endY ms).Enters
        (p.logged.swipe element startX startY endX endY ms) w (carriedOut calls) u w' := by
  obtain ⟨x, w₁, hbox⟩ := hp.enters (.bounds element) w
  obtain rfl : x = some (left, top) := by
    rw [hbox.plain] at boxed
    exact Except.ok.inj boxed
  unfold swipe
  cases hf : ms.isFinite with
  | false =>
    refine ⟨_, _, w₁, .refused hf, ?_⟩
    exact hbox.bind (.lift_bind_error (dragSteps_of_infinite hf))
  | true =>
    obtain ⟨n, hn, hsteps⟩ := dragSteps_of_finite hf
    obtain ⟨⟨⟩, w₂, hstart⟩ := hp.enters (.moveMouse (left + startX) (top + startY) none) w₁
    obtain ⟨⟨⟩, w₃, hlower⟩ := hp.enters .lowerMouse w₂
    obtain ⟨⟨⟩, w₄, hend⟩ := hp.enters (.moveMouse (left + endX) (top + endY) (some n)) w₃
    obtain ⟨⟨⟩, w₅, hraise⟩ := hp.enters .raiseMouse w₄
    refine ⟨_, _, w₅, .made hf hn, ?_⟩
    exact hbox.bind (.lift_bind hsteps (hstart.bind (hlower.bind (hend.bind hraise))))

variable {element : String} {left top startX startY endX endY ms : Float} {ts : List Token}

theorem enters_follow (closesContext : Bool) (hp : p.Succeeds)
    (boxed : ((p.respond (.bounds element)).run w).1 = .ok (some (left, top)))
    (asks : Asks element ts (.swipe element startX startY endX endY ms)) (c : Command) :
    ∃ calls u w', IsDrag element left top startX startY endX endY ms calls u ∧
      Act.Enters ((p.driver closesContext).follow c (Gesture.ofArgs ts) element)
        ((p.logged.driver closesContext).follow c (Gesture.ofArgs ts) element) w
        (carriedOut calls) (u.map fun _ => element) w' := by
  obtain ⟨calls, u, w', hdrag, hswipe⟩ := enters_swipe hp boxed startX startY endX endY ms
  refine ⟨calls, u, w', hdrag, ?_⟩
  rw [Driver.follow_of_asks _ c asks, Driver.follow_of_asks _ c asks]
  cases u with
  | ok _ =>
    have hperform : Act.Enters
        ((p.driver closesContext).perform (.swipe element startX startY endX endY ms))
        ((p.logged.driver closesContext).perform (.swipe element startX startY endX endY ms)) w
        (carriedOut calls ++ []) (.ok ()) w' :=
      hswipe.bind (.pure ())
    rw [List.append_nil] at hperform
    rw [← List.append_nil (carriedOut calls)]
    exact hperform.bind (.pure element)
  | error f => exact hswipe.bind_error.bind_error

/-- The numbers that commands hand over are the doubles of what their texts write, and finite if
that is below the overflow. On a page that carries out all calls, a drag of an element that is found
and has bounds moves the mouse to its start, lowers it, moves it to its end in at least one step,
and raises it, if its duration is finite. Otherwise it does nothing and fails. -/
theorem numbers_reach (p : Page σ) (closesContext : Bool) (e : Setup σ ε) :
    (∀ n : Numeral, n.toFloat.isFinite = true ↔ n.IsInRange) ∧
    (∀ (c : Command) t rest value text n, c.args = t :: rest →
      e.resolver.argument t = .ok value → value.plain = .ok text →
      Numeral.ofText? text = some n → e.runSleep c = Engine.act (e.driver.sleep n.toFloat)) ∧
    (∀ (c : Command) (element : ε) ts call, Asks element ts call →
      e.driver.follow c (Gesture.ofArgs ts) element =
        e.driver.perform call >>= (fun _ => pure element) ∧
      ∃ texts rest, (ts.drop 1).map (·.text) = texts ++ rest ∧
        WriteNumbers texts call.numbers) ∧
    ∀ (r : Resolver) wait (c : Command) name ts locator element left top startX startY endX endY
      ms (w w₁ : World σ) search, p.Succeeds → c.args = name :: ts →
      r.locator name.text = .ok locator →
      Act.Enters ((p.driver closesContext).locate locator wait)
        ((p.logged.driver closesContext).locate locator wait) w search (.ok element) w₁ →
      ((p.respond (.bounds element)).run w₁).1 = .ok (some (left, top)) →
      Asks element ts (.swipe element startX startY endX endY ms) →
      ∃ calls u w', IsDrag element left top startX startY endX endY ms calls u ∧
        Act.Enters ((p.driver closesContext).runElement r wait c)
          ((p.logged.driver closesContext).runElement r wait c) w
          (search ++ carriedOut calls) (u.map fun _ => element) w' := by
  refine ⟨Numeral.isFinite_toFloat_iff, ?_, ?_, ?_⟩
  · intro c t rest value text n hc hv ht hn
    rw [Setup.runSleep_of_plain hc hv ht, hn]
  · intro c element ts call asks
    exact ⟨e.driver.follow_of_asks c asks, asks.writeNumbers⟩
  · intro r wait c name ts locator element left top startX startY endX endY ms w w₁ search hp hc
      resolved found boxed asks
    obtain ⟨calls, u, w', hdrag, hfollow⟩ := enters_follow closesContext hp boxed asks c
    refine ⟨calls, u, w', hdrag, ?_⟩
    rw [Driver.runElement_cons hc, Driver.runElement_cons hc]
    exact .lift_bind resolved (found.bind hfollow)

end Page

namespace Simulation

/-- A page on which everything is there and nothing happens. -/
def stillPage : Page Unit where
  respond
    | .locate _ | .click _ | .tap .. | .press .. | .focus _ | .fill .. | .moveMouse .. | .lowerMouse
    | .raiseMouse | .typeKeys _ | .wait _ | .visit _ | .close | .closeContext => pure ()
    | .count _ => pure (1 : Nat)
    | .bounds _ => pure (some ((0 : Float), (0 : Float)))
    | .readAttribute .. => pure Value.none

/-- A numeral of digits alone. -/
def digits (cs : List Char) : Numeral :=
  ⟨false, cs, [], 0⟩

/-- A command that drags the mouse across an element for the time of two steps. -/
def dragging : Command :=
  ⟨"element x swipe 0 0 1 1 32", "element", [], "element", [⟨"x", false⟩, ⟨"swipe", false⟩,
    ⟨"0", false⟩, ⟨"0", false⟩, ⟨"1", false⟩, ⟨"1", false⟩, ⟨"32", false⟩], 1, none⟩

/-- The selector of that element. -/
def dragged : String :=
  Selector.ofLocator .accessibilityId "#x"

/-- A drag of 32 milliseconds is carried out. -/
theorem numbers_reach_dragging :
    let start := (digits ['0']).toFloat
    let stop := (digits ['1']).toFloat
    ∃ n w', 1 ≤ n ∧
      Act.Enters ((stillPage.driver true).runElement serving.resolver none dragging)
        ((stillPage.logged.driver true).runElement serving.resolver none dragging) idle.world
        (Page.carriedOut [.locate dragged, .count dragged, .bounds dragged,
          .moveMouse (0 + start) (0 + start) none, .lowerMouse,
          .moveMouse (0 + stop) (0 + stop) (some n), .raiseMouse]) (.ok dragged) w' := by
  intro start stop
  have hp : stillPage.Succeeds := by
    intro c w
    cases c <;> exact ⟨_, w, rfl⟩
  have located : Act.Enters (stillPage.respond (.locate dragged))
      (stillPage.logged.respond (.locate dragged)) idle.world (Page.carriedOut [.locate dragged])
      (.ok ()) idle.world := Page.enters_respond rfl
  have counted : Act.Enters (stillPage.respond (.count dragged))
      (stillPage.logged.respond (.count dragged)) idle.world (Page.carriedOut [.count dragged])
      (.ok (1 : Nat)) idle.world := Page.enters_respond rfl
  have found : Act.Enters (stillPage.find .accessibilityId "#x")
      (stillPage.logged.find .accessibilityId "#x") idle.world
      (Page.carriedOut [.locate dragged, .count dragged]) (.ok dragged) idle.world := by
    rw [Page.find_eq, Page.find_eq]
    exact located.bind (counted.bind (.lift (Page.found .accessibilityId "#x" 1)))
  obtain ⟨-, -, -, hdrag⟩ := stillPage.numbers_reach true serving
  obtain ⟨calls, u, w', hcalls, h⟩ := hdrag serving.resolver none dragging _ _ "#x" dragged 0 0
    start start stop stop (digits ['3', '2']).toFloat idle.world idle.world _ hp rfl rfl found rfl
    (.swipe rfl rfl rfl rfl rfl)
  cases hcalls with
  | refused infinite => cases infinite
  | made _ steps => exact ⟨_, w', steps, h⟩

/-- A numeral that is greater than all doubles. -/
def endless : Numeral :=
  ⟨false, ['1'], [], 999⟩

/-- A numeral that is accepted has an infinite double. A drag for such a time fails before the mouse
is moved, with an error that is not about the number. -/
theorem numbers_reach_endless :
    let start := (digits ['0']).toFloat
    let stop := (digits ['1']).toFloat
    let drag := Call.swipe dragged start start stop stop endless.toFloat
    Numeral.ofText? "1e999" = some endless ∧ endless.toFloat.isFinite = false ∧
      Asks dragged [⟨"swipe", false⟩, ⟨"0", false⟩, ⟨"0", false⟩, ⟨"1", false⟩, ⟨"1", false⟩,
        ⟨"1e999", false⟩] drag ∧
      ((stillPage.driver true).respond drag).run idle.world =
        (.error (.mishap .notFinite), idle.world) := by
  refine ⟨by decide, by decide, .swipe rfl rfl rfl rfl rfl, ?_⟩
  rfl

end Simulation

end TapScript
