import TapScript.AssertCommand
import TapScript.Run.Engine

/-! # Dispatch

Each command goes to its handler: the built-in verbs to their own, whatever library they name, and
every other command to the library that its namespace names, after a pause.
-/

namespace TapScript

/-- The path that a script name leads to: as it is, if that is absolute or exists or there is no
including script, else beside the including script if it exists there. -/
def scriptPath (t : FileTree) (name : String) (parent : Option Path) : Except Fault Path := do
  let path ← (t.expandHome name).mapError .mishap
  if path.isAbsolute then return path
  if ← (t.exists? path).mapError .ofFile then return path
  match parent with
  | none => return path
  | some p =>
    let sibling := p.parent.join path
    return if ← (t.exists? sibling).mapError .ofFile then sibling else path

/-- How a command runs another script; nothing at the deepest level. -/
abbrev Nested (σ ε : Type) := Option (Path → Engine σ ε Unit)

namespace Setup

open Engine

variable {σ ε : Type} (e : Setup σ ε)

/-- Pauses for the time that the first argument gives. -/
def runSleep (c : Command) : Engine σ ε Unit := do
  match c.args with
  | [] => throw (c.fault .noDuration)
  | t :: _ =>
    let value ← e.resolver.argument t
    match Numeral.ofText? (← value.written) with
    | some n => act (e.driver.sleep n.toFloat)
    | none => throw (c.fault (.badDuration t.text))

/-- Says each argument on a line. -/
def runLog (c : Command) : Engine σ ε Unit :=
  c.args.forM fun t => note (.said t.text)

/-- Runs the script that the first argument names. -/
def runScript (nested : Nested σ ε) (c : Command) : Engine σ ε Unit := do
  match c.args, nested with
  | [], _ => throw (c.fault .noScript)
  | _, none => throw (c.fault (.nestedTooDeep e.execution.maxDepth))
  | name :: _, some run =>
    let files := (← get).world.files
    let path ← scriptPath files name.text c.source
    if ← (files.isFile path).mapError Fault.ofFile then run path
    else throw (c.fault (.scriptNotFound path.text))

/-- What the library command gives, called once its library, routine and arguments are all there.
The arguments are reported in their shown forms. -/
def callLibrary (c : Command) : Engine σ ε Value := do
  if c.library = [] then throw (c.fault (.unknownCommand c.verb))
  let l ← loadLibrary c.library
  let _ ← l.routine c.verb
  let args ← e.resolver.arguments c.args
  let _ ← Value.displayed args
  act (e.driver.sleep (Float.ofInt e.execution.commandDelay))
  let current := (← get).current
  act (l.invoke e.host current c.verb args)

/-- Runs a command to its end. -/
def dispatch (nested : Nested σ ε) (c : Command) : Engine σ ε Unit := do
  match c.builtin? with
  | some .sleep => e.runSleep c
  | some .log => runLog c
  | some .runScript => e.runScript nested c
  | some .assert =>
    let _ ← act (e.driver.runAssert e.host.patterns e.resolver e.execution.labelName c)
  | some .element =>
    let _ ← act (e.driver.runElement e.resolver none c)
  | some .waitForElement =>
    let _ ← act (e.driver.runElement e.resolver (some e.execution.polling) c)
  | none =>
    let _ ← e.callLibrary c

end Setup

end TapScript
