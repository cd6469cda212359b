import TapScript.Driver.Polling
import TapScript.Lookup
import TapScript.Script.Command

/-! # Element commands

An element command names an element and, optionally, one action on it. A quoted text in the place
of the action is text to type. The element is found before the arguments of the action are looked
at, and the action is the last call on the driver.
-/

namespace TapScript

/-- An action as a command asks for it: under the name it was given, with its parameters. -/
structure Gesture where
  action : Action
  name : String
  params : List String

namespace Gesture

/-- The gesture that typing a text is. -/
def typing (text : String) : Gesture :=
  ⟨.type, "type", [text]⟩

/-- The gesture that the arguments after the element ask for. -/
def ofArgs : List Token → Gesture
  | [] => ⟨.locate, "none", []⟩
  | t :: ts =>
    if t.quoted then typing t.text
    else if Token.isDelimited t.text then typing (Token.inner t.text)
    else ⟨.ofName t.text, t.text, ts.map (·.text)⟩

/-- The problem with a gesture that has too few parameters. -/
def lack? (g : Gesture) : Option Problem :=
  if g.params.length < g.action.params.length then
    some (if g.action.entersText then .noText g.name else .noCoordinates g.name g.action.params)
  else none

/-- The numbers that some parameters write. -/
def numbers (g : Gesture) (texts : List String) : Except Problem (List Float) :=
  texts.mapM fun s =>
    match Numeral.ofText? s with
    | some n => .ok n.toFloat
    | none => .error (.badNumber g.name s)

variable {ε : Type}

/-- The call that a gesture makes on an element, if it makes one. -/
def call? (g : Gesture) (e : ε) : Except Problem (Option (Call ε)) := do
  match g.action with
  | .click => return some (.click e)
  | .tap =>
    match ← g.numbers (g.params.take 2) with
    | [x, y] => return some (.tap e x y)
    | _ => return none
  | .swipe =>
    match ← g.numbers (g.params.take 5) with
    | [sx, sy, ex, ey, duration] => return some (.swipe e sx sy ex ey duration)
    | _ => return none
  | .type => return g.params.head?.map (.type e)
  | .keys => return g.params.head?.map (.keys e)
  | .setValue => return g.params.head?.map (.setValue e)
  | .locate => return none

end Gesture

namespace Driver

variable {σ ε : Type}

/-- The element of a locator, waited for if a polling is given. -/
def locate (d : Driver σ ε) (locator : String) : Option Polling → Act σ ε
  | some p => d.await (.ofLocator locator) locator p
  | none => d.find (.ofLocator locator) locator

/-- Makes a call for what it does. -/
def perform (d : Driver σ ε) (c : Call ε) : Act σ Unit := do
  let _ ← d.respond c

/-- Runs an element command and returns the element. -/
def runElement (d : Driver σ ε) (r : Resolver) (wait : Option Polling) (c : Command) :
    Act σ ε := do
  match c.args with
  | [] => throw (c.fault (.noElement c.verb))
  | name :: rest =>
    let g := Gesture.ofArgs rest
    let locator ← r.locator name.text
    let element ← d.locate locator wait
    if let some p := g.lack? then throw (c.fault p)
    match g.call? element with
    | .error p => throw (c.fault p)
    | .ok none => return element
    | .ok (some call) =>
      d.perform call
      return element

end Driver

end TapScript
