import TapScript.Check
import TapScript.ElementCommand

/-! # Assert commands

An assert command names a check and an element, and runs the check on the label of the element.
Only the first argument after the element is used.
-/

namespace TapScript

namespace Driver

variable {σ ε : Type}

/-- The arguments of a check: the label, and what the command asks for. -/
def checkArgs (label : Value) : List Token → List Value
  | [] => [label]
  | t :: _ => [label, .text t.text]

/-- Runs an assert command and returns the label. -/
def runAssert (d : Driver σ ε) (h : Regex.Host) (r : Resolver) (labelName : String)
    (c : Command) : Act σ Value := do
  match c.args with
  | name :: path :: rest =>
    let locator ← r.locator path.text
    match Check.ofName? name.text with
    | none => throw (c.fault (.unknownCheck name.text))
    | some check =>
      let element ← d.find (.ofLocator locator) locator
      let label ← d.readAttribute element labelName
      check.run h (checkArgs label rest)
      return label
  | _ => throw (c.fault .noCheck)

end Driver

end TapScript
