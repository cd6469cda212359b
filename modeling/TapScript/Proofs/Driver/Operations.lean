import TapScript.Proofs.Browser.Log

/-! # Operations on a page

The operations of the driver of a page are made of few calls on the page. How an operation goes is
seen from what it enters in a log: each call that it makes, with the fault that the call ends with.
-/

namespace TapScript

variable {σ α : Type}

/-- How an act goes from a world, without a log and with one: what it enters, how it ends, and the
world that it leaves. -/
abbrev Act.Enters (a : Act σ α) (a' : Act (Logged σ) α) (w : World σ) (more : List LogEntry)
    (r : Except Fault α) (w' : World σ) : Prop :=
  Procedure.Goes World.logged a a' w more r w'

namespace Page

variable {p : Page σ} {c : PageCall} {w w' : World σ} {action : String}

theorem enters_respond {r : Except Fault c.Reply} (h : (p.respond c).run w = (r, w')) :
    (p.respond c).Enters (p.logged.respond c) w [⟨.page c, fault? r⟩] r w' :=
  ⟨h, fun log => Act.run_logged h (.page c) log⟩

theorem enters_during {r : Except Fault c.Reply} (h : (p.respond c).run w = (r, w')) :
    (p.during action c).Enters (p.logged.during action c) w [⟨.page c, fault? r⟩]
      (r.mapError (refusal action)) w' := by
  cases r with
  | ok x => exact (enters_respond h).tryCatch
  | error f => exact (enters_respond h).tryCatch_error (.throw _)

variable (p)

/-- What a locator finds, by the number of elements of its selector. -/
def found (s : Strategy) (locator : String) (n : Nat) : Except Fault String :=
  if n = 0 then .error (.ofProblem (.elementAbsent locator s.name))
  else .ok (Selector.ofLocator s locator)

/-- An element is found by two calls on the page. -/
theorem find_eq (s : Strategy) (locator : String) : p.find s locator =
    p.respond (.locate (Selector.ofLocator s locator)) >>= fun _ =>
      p.respond (.count (Selector.ofLocator s locator)) >>= fun n => liftM (found s locator n) := by
  unfold find found
  refine bind_congr fun _ => bind_congr fun n => ?_
  split <;> rfl

end Page

end TapScript
