import TapScript.Driver.Browser
import TapScript.Driver.Page
import TapScript.Simulation.Basic

/-! # Simulated pages

A simulated page has elements under their selectors, and a simulated launcher reaches a browser at
once. Both enter each call in the journal.
-/

namespace TapScript

namespace Simulation

/-- The element of a selector, whether it is there already or not. -/
def element? (selector : String) : Act Simulation (Option Element) := do
  return (← get).devices.elements.lookup selector

/-- A page of a simulated browser. -/
def page : Page Simulation where
  respond
    | .locate s => record "locator" [.text s]
    | .count s => do
      record "count" [.text s]
      match ← present? s with
      | some e => return e.count
      | none => return 0
    | .click s => record "click" [.text s]
    | .tap s x y => record "tap" [.text s, .ofPairs [("x", .float x), ("y", .float y)]]
    | .bounds s => do
      record "bounding_box" [.text s]
      return (← element? s).bind (·.box)
    | .press s t => record "press_sequentially" [.text s, .text t]
    | .focus s => record "focus" [.text s]
    | .fill s t => record "fill" [.text s, .text t]
    | .readAttribute s n => do
      record "get_attribute" [.text s, .text n]
      return ((← element? s).bind (·.attributes.lookup n)).getD .none
    | .moveMouse x y none => record "mouse.move" [.float x, .float y]
    | .moveMouse x y (some n) =>
      record "mouse.move" [.float x, .float y, .ofPairs [("steps", .int n)]]
    | .lowerMouse => record "mouse.down" []
    | .raiseMouse => record "mouse.up" []
    | .typeKeys t => record "keyboard.type" [.text t]
    | .wait ms => do
      record "wait_for_timeout" [.float ms]
      pass ms
    | .visit url => record "goto" [.text url]
    | .close => record "page.close" []
    | .closeContext => record "context.close" []

/-- The launcher of simulated browsers. -/
def launcher : Launcher Simulation where
  respond
    | .start => record "start" []
    | .choose k => record "browser_type" [.text k.name]
    | .connect url => record "connect" [.text url]
    | .launch headless => record "launch" [.bool headless]
    | .newContext w h =>
      record "new_context" [.ofPairs [
        ("viewport", .ofPairs [("width", .int w), ("height", .int h)]),
        ("has_touch", .bool true)]]
    | .newPage => record "new_page" []
    | .close => record "browser.close" []
    | .stop => record "stop" []

end Simulation

end TapScript
