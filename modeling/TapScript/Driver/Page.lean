import TapScript.Decimal.Binary
import TapScript.Driver.Basic
import TapScript.Driver.Selector

/-! # Pages

A page of a browser is driven by smaller calls than those of a driver: elements are counted and
acted on by their selectors, and a swipe is a drag of the mouse.
-/

namespace TapScript

/-- A call on a page. -/
inductive PageCall
  | locate (selector : String)
  | count (selector : String)
  | click (selector : String)
  | tap (selector : String) (x y : Float)
  | bounds (selector : String)
  | press (selector text : String)
  | focus (selector : String)
  | fill (selector text : String)
  | readAttribute (selector name : String)
  | moveMouse (x y : Float) (steps : Option Int)
  | lowerMouse
  | raiseMouse
  | typeKeys (text : String)
  | wait (ms : Float)
  | visit (url : String)
  | close
  | closeContext

/-- What a call returns: the bounds of an element are those of its corner, if it is visible. -/
@[reducible] def PageCall.Reply : PageCall → Type
  | .count _ => Nat
  | .bounds _ => Option (Float × Float)
  | .readAttribute .. => Value
  | .locate _ | .click _ | .tap .. | .press .. | .focus _ | .fill .. | .moveMouse .. | .lowerMouse
  | .raiseMouse | .typeKeys _ | .wait _ | .visit _ | .close | .closeContext => Unit

/-- A page of a browser. -/
structure Page (σ : Type) where
  respond : (c : PageCall) → Act σ c.Reply

namespace Page

variable {σ : Type} (p : Page σ)

/-- A refusal by the page, reported as the failure of an action. -/
def refusal (action : String) : Fault → Fault
  | .mishap (.page m) => .ofProblem (.callFailed action m)
  | f => f

/-- A call that belongs to an action. -/
def during (action : String) (c : PageCall) : Act σ c.Reply :=
  tryCatch (p.respond c) fun f => throw (refusal action f)

/-- The element of a selector, if there is one. -/
def find (s : Strategy) (locator : String) : Act σ String := do
  let selector := Selector.ofLocator s locator
  p.respond (.locate selector)
  let n ← p.respond (.count selector)
  if n = 0 then throw (.ofProblem (.elementAbsent locator s.name))
  return selector

/-- The time that one step of a drag stands for, in milliseconds. -/
def stepTime : Float := 16

/-- The number of steps of a drag, at least one. -/
def dragSteps (duration : Float) : Except Fault Int :=
  match Decimal.floor? (duration / stepTime) with
  | some n => .ok (max 1 n)
  | none => .error (.mishap .notFinite)

/-- A drag of the mouse from a point to another, both given from the corner of an element. -/
def swipe (selector : String) (startX startY endX endY duration : Float) : Act σ Unit := do
  match ← p.respond (.bounds selector) with
  | none => throw (.ofProblem .elementHidden)
  | some (x, y) =>
    let steps ← dragSteps duration
    p.respond (.moveMouse (x + startX) (y + startY) none)
    p.respond .lowerMouse
    p.respond (.moveMouse (x + endX) (y + endY) (some steps))
    p.respond .raiseMouse

/-- The driver of a page. It ends the session by closing the page, or all that the page shares
its data with. -/
def driver (closesContext : Bool) : Driver σ String where
  respond
    | .find s l => p.find s l
    | .click e => p.during "click" (.click e)
    | .tap e x y => p.during "tap" (.tap e x y)
    | .swipe e sx sy ex ey ms => p.swipe e sx sy ex ey ms
    | .type e s => p.during "type" (.press e s)
    | .keys e s => do
      p.during "focus" (.focus e)
      p.during "keys" (.typeKeys s)
    | .setValue e s => p.during "setValue" (.fill e s)
    | .readAttribute e n => p.during "getAttribute" (.readAttribute e n)
    | .sleep ms => p.respond (.wait ms)
    | .quit => if closesContext then p.respond .closeContext else p.respond .close

end Page

end TapScript
