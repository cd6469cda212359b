import TapScript.Simulation.Basic

/-! # Simulated devices

A simulated device has elements under their locators. Its driver does nothing but enter each call
in the journal.
-/

namespace TapScript

namespace Simulation

/-- An element of a device: the strategy and the locator that found it. -/
structure Handle where
  strategy : Strategy
  locator : String

/-- The driver of a simulated device. -/
def device : Driver Simulation Handle where
  respond
    | .find s l => do
      record "find" [.text s.name, .text l]
      match ← present? l with
      | some _ => return ⟨s, l⟩
      | none => throw (.ofProblem (.reported .notFound s!"Element '{l}' not found" none))
    | .click h => record "click" [.text h.locator]
    | .tap h x y => record "tap" [.text h.locator, .float x, .float y]
    | .swipe h sx sy ex ey ms =>
      record "swipe" (.text h.locator :: [sx, sy, ex, ey, ms].map .float)
    | .type h s => record "type" [.text h.locator, .text s]
    | .keys h s => record "keys" [.text h.locator, .text s]
    | .setValue h s => record "setValue" [.text h.locator, .text s]
    | .readAttribute h name => do
      record "getAttribute" [.text h.locator, .text name]
      let s := (← get).devices
      return ((s.elements.lookup h.locator).bind (·.attributes.lookup name)).getD .none
    | .sleep ms => do
      record "sleep" [.float ms]
      pass ms
    | .quit => record "quit" []

end Simulation

end TapScript
