import TapScript.Proofs.Check.Reports
import TapScript.Proofs.Driver.Operations
import TapScript.Proofs.Driver.Polling

/-! # Refusals by a page

A page can refuse any call. A refusal ends the operation that made the call, be it in the middle of
a polling. It is reported as the failure of an action if the call belongs to one, and escapes as it
is from the operations that look for an element, drag the mouse, or wait.
-/

namespace TapScript

/-- The action that a call on a page belongs to, by the name that its failure is reported under. -/
def PageCall.action? : PageCall → Option String
  | .click _ => some "click"
  | .tap .. => some "tap"
  | .press .. => some "type"
  | .focus _ => some "focus"
  | .typeKeys _ => some "keys"
  | .fill .. => some "setValue"
  | .readAttribute .. => some "getAttribute"
  | .locate _ | .count _ | .bounds _ | .moveMouse .. | .lowerMouse | .raiseMouse | .wait _
  | .visit _ | .close | .closeContext => none

/-- What the refusal of a call ends an operation with. -/
def PageCall.surfaced (c : PageCall) (m : String) : Fault :=
  match c.action? with
  | some action => .ofProblem (.callFailed action m)
  | none => .mishap (.page m)

/-- Whether the calls that an operation makes on a page belong to actions. -/
def Call.isReported {ε : Type} : Call ε → Bool
  | .click _ | .tap .. | .type .. | .keys .. | .setValue .. | .readAttribute .. => true
  | .find .. | .swipe .. | .sleep _ | .quit => false

variable {σ α β : Type}

/-- Whether an act makes calls on a page alone, all of which belong to actions or none of which do,
and ends with what the refusal of any of them surfaces as. -/
def Act.Surfaces (reported : Bool) (a : Act σ α) (a' : Act (Logged σ) α) : Prop :=
  ∀ w : World σ, ∃ more r w', a.Enters a' w more r w' ∧ ∀ x ∈ more, ∃ c, x.call = .page c ∧
    c.action?.isSome = reported ∧
      ∀ m, x.fault = some (.mishap (.page m)) → r = .error (c.surfaced m)

theorem PageCall.isNotFound_surfaced (c : PageCall) (m : String) :
    (c.surfaced m).isNotFound = false := by
  unfold surfaced
  split <;> rfl

namespace Act.Surfaces

variable {b : Bool} {a : Act σ α} {a' : Act (Logged σ) α}

theorem lift (v : Except Fault α) : Surfaces b (liftM v : Act σ α) (liftM v) := by
  intro w
  refine ⟨[], v, w, .lift v, ?_⟩
  simp

theorem throw (f : Fault) :
    Surfaces b (MonadExcept.throw f : Act σ α) (MonadExcept.throw f) := by
  intro w
  refine ⟨[], .error f, w, .throw f, ?_⟩
  simp

/-- After a refusal there is nothing more to do. -/
theorem bind {f : α → Act σ β} {f' : α → Act (Logged σ) β} (ha : a.Surfaces b a')
    (hf : ∀ x, (f x).Surfaces b (f' x)) : (a >>= f).Surfaces b (a' >>= f') := by
  intro w
  obtain ⟨more, r, w₁, he, hm⟩ := ha w
  cases r with
  | error y =>
    refine ⟨more, .error y, w₁, he.bind_error, fun x hx => ?_⟩
    obtain ⟨c, hc, hb, hs⟩ := hm x hx
    exact ⟨c, hc, hb, fun m hf => congrArg Except.error (Except.error.inj (hs m hf))⟩
  | ok y =>
    obtain ⟨more', r', w₂, he', hm'⟩ := hf y w₁
    refine ⟨more ++ more', r', w₂, he.bind he', List.forall_mem_append.mpr ⟨fun x hx => ?_, hm'⟩⟩
    obtain ⟨c, hc, hb, hs⟩ := hm x hx
    exact ⟨c, hc, hb, fun m hf => by cases hs m hf⟩

/-- What deals with a fault has to pass on what a refusal surfaces as. -/
theorem tryCatch {g : Fault → Act σ α} {g' : Fault → Act (Logged σ) α} (ha : a.Surfaces b a')
    (hg : ∀ f, (g f).Surfaces b (g' f))
    (hpass : ∀ c : PageCall, ∀ m, g (c.surfaced m) = MonadExcept.throw (c.surfaced m) ∧
      g' (c.surfaced m) = MonadExcept.throw (c.surfaced m)) :
    (MonadExcept.tryCatch a g).Surfaces b (MonadExcept.tryCatch a' g') := by
  intro w
  obtain ⟨more, r, w₁, he, hm⟩ := ha w
  cases r with
  | ok y => exact ⟨more, .ok y, w₁, he.tryCatch, hm⟩
  | error y =>
    by_cases hy : ∃ (c : PageCall) (m : String), y = c.surfaced m
    · obtain ⟨c, m, rfl⟩ := hy
      refine ⟨more ++ [], _, w₁, he.tryCatch_error ?_, by rwa [List.append_nil]⟩
      rw [(hpass c m).1, (hpass c m).2]
      exact .throw _
    · obtain ⟨more', r', w₂, he', hm'⟩ := hg y w₁
      refine ⟨more ++ more', r', w₂, he.tryCatch_error he',
        List.forall_mem_append.mpr ⟨fun x hx => ?_, hm'⟩⟩
      obtain ⟨c, hc, hb, hs⟩ := hm x hx
      exact ⟨c, hc, hb, fun m hf => absurd ⟨c, m, Except.error.inj (hs m hf)⟩ hy⟩

end Act.Surfaces

namespace Page

variable (p : Page σ) {c : PageCall} {action : String}

theorem surfaces_respond (h : c.action? = none) :
    Act.Surfaces false (p.respond c) (p.logged.respond c) := by
  intro w
  rcases hr : (p.respond c).run w with ⟨r, w'⟩
  refine ⟨_, r, w', enters_respond hr, List.forall_mem_singleton.mpr ⟨c, rfl, by rw [h]; rfl, ?_⟩⟩
  rintro m hm
  rw [PageCall.surfaced, h]
  cases r with
  | ok x => cases hm
  | error f => exact congrArg Except.error (Option.some.inj hm)

theorem surfaces_during (h : c.action? = some action) :
    Act.Surfaces true (p.during action c) (p.logged.during action c) := by
  intro w
  rcases hr : (p.respond c).run w with ⟨r, w'⟩
  refine ⟨_, _, w', enters_during hr, List.forall_mem_singleton.mpr ⟨c, rfl, by rw [h]; rfl, ?_⟩⟩
  rintro m hm
  rw [PageCall.surfaced, h]
  cases r with
  | ok x => cases hm
  | error f =>
    rw [Option.some.inj hm]
    rfl

theorem surfaces_find (s : Strategy) (locator : String) :
    Act.Surfaces false (p.find s locator) (p.logged.find s locator) := by
  rw [find_eq, find_eq]
  refine (p.surfaces_respond rfl).bind fun _ => ?_
  exact (p.surfaces_respond rfl).bind fun n => .lift _

theorem surfaces_swipe (selector : String) (startX startY endX endY duration : Float) :
    Act.Surfaces false (p.swipe selector startX startY endX endY duration)
      (p.logged.swipe selector startX startY endX endY duration) := by
  unfold swipe
  refine (p.surfaces_respond rfl).bind fun box => ?_
  split
  · exact .throw _
  · refine (Act.Surfaces.lift _).bind fun steps => ?_
    refine (p.surfaces_respond rfl).bind fun _ => ?_
    refine (p.surfaces_respond rfl).bind fun _ => ?_
    refine (p.surfaces_respond rfl).bind fun _ => ?_
    exact p.surfaces_respond rfl

theorem surfaces_driver (closesContext : Bool) (c : Call String) :
    Act.Surfaces c.isReported ((p.driver closesContext).respond c)
      ((p.logged.driver closesContext).respond c) := by
  cases c with
  | find s l => exact p.surfaces_find s l
  | click e => exact p.surfaces_during rfl
  | tap e x y => exact p.surfaces_during rfl
  | swipe e sx sy ex ey ms => exact p.surfaces_swipe e sx sy ex ey ms
  | type e s => exact p.surfaces_during rfl
  | keys e s => exact (p.surfaces_during rfl).bind fun _ => p.surfaces_during rfl
  | setValue e s => exact p.surfaces_during rfl
  | readAttribute e n => exact p.surfaces_during rfl
  | sleep ms => exact p.surfaces_respond rfl
  | quit =>
    cases closesContext with
    | false => exact p.surfaces_respond rfl
    | true => exact p.surfaces_respond rfl

/-- A polling waits out absences only, so a refusal ends it. -/
theorem surfaces_poll (closesContext : Bool) (s : Strategy) (locator : String) (q : Polling)
    (remaining : Nat) : Act.Surfaces false ((p.driver closesContext).poll s locator q remaining)
      ((p.logged.driver closesContext).poll s locator q remaining) := by
  induction remaining using Nat.strong_induction_on with
  | _ remaining ih =>
    rw [Driver.poll_eq, Driver.poll_eq]
    refine (p.surfaces_driver closesContext (.find s locator)).tryCatch (fun f => ?_) fun c m => ?_
    · unfold Driver.retry
      split
      · exact .throw f
      split
      · exact .throw _
      · next hpositive =>
        refine (p.surfaces_driver closesContext (.sleep _)).bind fun _ => ih _ ?_
        have := q.interval_pos
        omega
    · have h := c.isNotFound_surfaced m
      exact ⟨Driver.retry_present h, Driver.retry_present h⟩

/-- A refusal by the page ends the operation that met it. All operations but those that look for an
element, drag the mouse, or wait, report it as a problem of the driver, which gets the place of the
command that was running. From the others it escapes, and has no place. -/
theorem refusals_surface (closesContext : Bool) :
    (∀ c : Call String, Act.Surfaces c.isReported ((p.driver closesContext).respond c)
      ((p.logged.driver closesContext).respond c)) ∧
    (∀ s locator q, Act.Surfaces false ((p.driver closesContext).await s locator q)
      ((p.logged.driver closesContext).await s locator q)) ∧
    ∀ (c : PageCall) m place,
      (c.action?.isSome → ((c.surfaced m).placed place).IsOfDriver ∧
        ((c.surfaced m).placed place).place? = some place) ∧
      (c.action? = none → (c.surfaced m).placed place = .mishap (.page m)) := by
  refine ⟨p.surfaces_driver closesContext, fun s locator q => ?_,
    fun c m place => ⟨fun h => ?_, fun h => ?_⟩⟩
  · exact p.surfaces_poll closesContext s locator q q.timeout.toNat
  · obtain ⟨action, ha⟩ := Option.isSome_iff_exists.mp h
    rw [PageCall.surfaced, ha]
    exact ⟨.inl rfl, rfl⟩
  · rw [PageCall.surfaced, h]
    rfl

end Page

namespace Simulation

/-- A page that refuses all calls. -/
def lostPage : Page Unit where
  respond _ := throw (.mishap (.page "Target closed"))

/-- Whether an operation on the page that is lost ends at its first call, with a fault that is not
one of the driver. -/
def EscapesUnreported (c : Call String) : Prop :=
  ∃ x f, Act.Enters ((lostPage.driver true).respond c) ((lostPage.logged.driver true).respond c)
    bareWorld [x] (.error f) bareWorld ∧ x.fault = some (.mishap (.page "Target closed")) ∧
    ¬ f.IsOfDriver

/-- The driver does not report that a page is lost when it pauses, looks for an element or drags
one. -/
theorem lostPage_unreported :
    EscapesUnreported (.sleep 5) ∧ EscapesUnreported (.find .xpath "//*") ∧
      EscapesUnreported (.swipe "a" 0 0 1 1 16) := by
  have hf : ¬ (Fault.mishap (.page "Target closed")).IsOfDriver := id
  have he (c : PageCall) : (lostPage.respond c).Enters (lostPage.logged.respond c) bareWorld
      [⟨.page c, some (.mishap (.page "Target closed"))⟩]
      (.error (.mishap (.page "Target closed"))) bareWorld :=
    Page.enters_respond rfl
  refine ⟨?sleep, ?find, ?swipe⟩
  case sleep => exact ⟨_, _, he (.wait 5), rfl, hf⟩
  case find => exact ⟨_, _, (he (.locate _)).bind_error, rfl, hf⟩
  case swipe => exact ⟨_, _, (he (.bounds "a")).bind_error, rfl, hf⟩

end Simulation

end TapScript
