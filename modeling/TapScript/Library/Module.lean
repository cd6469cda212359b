import TapScript.Fault

/-! # Modules

A module is a program file that defines names when it is loaded: values, and routines that take
arguments and may act through the driver of the running script. Its commands are the routines
that it lists, or else its own public routines. A module may list something that cannot be read as
a list of commands.
-/

namespace TapScript

/-- What a routine does with the driver of the running script. -/
inductive Routine.Step
  | askDriver
  | sleep (ms : Float)

/-- A function of a module: what it accepts, what it does, and how it ends. -/
structure Routine where
  signature : Signature
  steps : List Routine.Step
  outcome : Except Fault Value

/-- What a name of a module stands for: a value, which may be a routine that the module defines. -/
structure Member where
  value : Value
  routine? : Option Routine := none

/-- A program file: the names it defines, or the fault that loading it ends with. If it lists its
commands, then either they are there, or the mishap that reading the list ends with. -/
structure Module where
  fault : Option Fault
  members : List (String × Member)
  explicit : Option (Except Mishap (List (String × Option Routine)))

namespace Module

/-- A name that a module keeps to itself. -/
def isPrivate (name : String) : Bool :=
  name.toList.head? == some '_'

/-- The public routines that a module defines. -/
def publicRoutines (m : Module) : List (String × Option Routine) :=
  (m.members.filter fun d => !isPrivate d.1).filterMap fun d =>
    d.2.routine?.map fun r => (d.1, some r)

/-- The commands of a module; one that is listed without a routine cannot be called. -/
def commands (m : Module) : Except Fault (List (String × Option Routine)) :=
  (m.explicit.getD (.ok m.publicRoutines)).mapError .mishap

/-- Whether the module lists a command. -/
def provides (m : Module) (command : String) : Except Fault Bool := do
  return (← m.commands).any (·.1 == command)

/-- The routine of a command. -/
def routine? (m : Module) (command : String) : Except Fault (Option Routine) := do
  return ((← m.commands).lookup command).join

end Module

end TapScript
