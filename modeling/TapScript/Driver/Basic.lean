import TapScript.FileTree
import TapScript.Locator

/-! # Drivers

A driver carries out calls on an automation session: it finds elements, performs gestures on them,
reads their attributes, waits, and ends the session. A call may change the world in any way, the
files included, and may end with a fault.
-/

namespace TapScript

/-- What a run acts on: the files, and the devices beyond them. -/
structure World (σ : Type) where
  files : FileTree
  devices : σ

/-- A computation on the world that may end with a fault. What it did before the fault stays. -/
abbrev Act (σ α : Type) := ExceptT Fault (StateM (World σ)) α

/-- A call on an automation session, for elements of type `ε`. -/
inductive Call (ε : Type)
  | find (strategy : Strategy) (locator : String)
  | click (element : ε)
  | tap (element : ε) (x y : Float)
  | swipe (element : ε) (startX startY endX endY duration : Float)
  | type (element : ε) (text : String)
  | keys (element : ε) (text : String)
  | setValue (element : ε) (text : String)
  | readAttribute (element : ε) (name : String)
  | sleep (ms : Float)
  | quit

/-- What a call returns. -/
@[reducible] def Call.Reply {ε : Type} : Call ε → Type
  | .find .. => ε
  | .readAttribute .. => Value
  | .click _ | .tap .. | .swipe .. | .type .. | .keys .. | .setValue .. | .sleep _ | .quit => Unit

/-- An automation session. -/
structure Driver (σ ε : Type) where
  respond : (c : Call ε) → Act σ c.Reply

namespace Driver

variable {σ ε : Type}

/-- One attempt at finding an element. -/
def find (d : Driver σ ε) (s : Strategy) (locator : String) : Act σ ε :=
  d.respond (.find s locator)

/-- The value of an attribute of an element. -/
def readAttribute (d : Driver σ ε) (e : ε) (name : String) : Act σ Value :=
  d.respond (.readAttribute e name)

/-- A pause. -/
def sleep (d : Driver σ ε) (ms : Float) : Act σ Unit :=
  d.respond (.sleep ms)

/-- The end of the session. -/
def quit (d : Driver σ ε) : Act σ Unit :=
  d.respond .quit

end Driver

namespace Fault

/-- Whether a fault says that an element is not there. -/
def isNotFound : Fault → Bool
  | problem p _ => p.category == .notFound
  | _ => false

end Fault

end TapScript
