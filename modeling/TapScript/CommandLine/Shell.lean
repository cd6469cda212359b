import TapScript.CommandLine.Display
import TapScript.CommandLine.Switch
import TapScript.Run.Launch

/-! # Shells

A command works in a shell: it prints, acts on the world, and may stop before its end.
-/

namespace TapScript.CommandLine

/-- Why a command stops before its end. -/
inductive Stop
  | exit (code : Nat)
  | misuse (e : Misuse)
  | fault (f : Fault)

namespace Stop

/-- The code that the program ends with. -/
def code : Stop → Nat
  | exit n => n
  | misuse _ => 2
  | fault _ => 1

end Stop

/-- The world as a command sees it, what has been printed, and whether details are logged. -/
structure Terminal (σ : Type) where
  world : World σ
  printed : String := ""
  detailed : Bool := false

/-- What a command does in a shell. -/
abbrev Shell (σ α : Type) := ExceptT Stop (StateM (Terminal σ)) α

namespace Shell

variable {σ α : Type}

/-- Prints a text as it is. -/
def print (text : String) : Shell σ Unit :=
  modify fun t => { t with printed := t.printed ++ text }

/-- What may fail with a fault. -/
def trying (r : Except Fault α) : Shell σ α :=
  match r with
  | .ok a => return a
  | .error f => throw (.fault f)

/-- Prints a text with markup on a display. -/
def say (d : Display) (text : String) (ending : String := "\n") : Shell σ Unit := do
  let seen ← trying ((d.render text).mapError fun e => .mishap (.markup e))
  print (d.flow seen ++ ending)

/-- Prints a table on a display. -/
def showTable (d : Display) (t : Table) : Shell σ Unit := do
  let seen ← trying ((d.renderTable t).mapError fun e => .mishap (.markup e))
  print (d.layout seen)

/-- The files as they are. -/
def files : Shell σ FileTree :=
  return (← get).world.files

/-- Turns the logging of details on. -/
def logDetails : Shell σ Unit :=
  modify fun t => { t with detailed := true }

end Shell

end TapScript.CommandLine
