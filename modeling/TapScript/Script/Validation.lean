import TapScript.Library.Registry

/-! # Validation

A script can be checked without running it: every built-in command must have the arguments that
it needs, and every library command a library that provides it. A bare verb with no needs is only
warned about, since no library is asked for it; `log`, which takes any arguments, is one of these.
-/

namespace TapScript

/-- What validation found. -/
structure Report where
  errors : List String := []
  warnings : List String := []
  deriving DecidableEq, Repr

namespace Report

def isValid (r : Report) : Bool :=
  r.errors.isEmpty

/-- Two reports, one after the other. -/
def append (r s : Report) : Report :=
  ⟨r.errors ++ s.errors, r.warnings ++ s.warnings⟩

instance : Append Report := ⟨append⟩

def error (text : String) : Report := ⟨[text], []⟩

def warning (text : String) : Report := ⟨[], [text]⟩

end Report

namespace Command

/-- What a built-in command lacks. -/
def lack? (c : Command) : Builtin → Option String
  | .sleep => if c.args = [] then some "sleep requires a duration in ms" else none
  | .runScript => if c.args = [] then some "runScript requires a script path" else none
  | .assert =>
    if c.args.length < 2 then some "assert requires a check name and an element path" else none
  | .log => none
  | .element | .waitForElement =>
    match c.args with
    | [] => some s!"{c.verb} requires an element path"
    | _ :: action :: params =>
      let needed := (Action.ofName action.text).params
      if !action.quoted && params.length < needed.length then
        some (action.text ++ " requires " ++ ", ".intercalate needed)
      else none
    | _ => none

/-- A finding at the line of the command. -/
def atLine (c : Command) (text : String) : String :=
  s!"line {c.line}: {text}"

/-- What is found about a command in its library. -/
def checkListed (c : Command) (l : Library) : Except Fault Report := do
  if ← l.module.provides c.verb then return {}
  else return .error (c.atLine s!"{l.name} has no command '{c.verb}'")

/-- What is found about a command that is not built in, loading its library. -/
def checkLibrary (t : FileTree) (c : Command) (r : Registry) : Except Fault Report × Registry :=
  match r.load t c.library with
  | (.ok l, r) => (c.checkListed l, r)
  | (.error (.problem p q), r) =>
    if p.category = .libraryLoad then (.ok (.error (c.atLine p.message)), r)
    else (.error (.problem p q), r)
  | (.error f, r) => (.error f, r)

/-- What is found about a command. Without a registry no library is looked for. -/
def check (t : FileTree) (c : Command) :
    Option Registry → Except Fault Report × Option Registry
  | r? =>
    match c.builtin? with
    | some .sleep | some .runScript | some .assert | some .element | some .waitForElement =>
      match c.builtin?.bind c.lack? with
      | some text => (.ok (.error (c.atLine text)), r?)
      | none => (.ok {}, r?)
    | some .log | none =>
      if c.library = [] then (.ok (.warning (c.atLine s!"unknown built-in '{c.verb}'")), r?)
      else
        match r? with
        | none => (.ok {}, none)
        | some r =>
          let (found, r) := c.checkLibrary t r
          (found, some r)

end Command

namespace Script

/-- What is found about some commands, one after the other. -/
def checkAll (t : FileTree) : List Command → Option Registry → Except Fault Report
  | [], _ => .ok {}
  | c :: cs, r =>
    match c.check t r with
    | (.error f, _) => .error f
    | (.ok found, r) => (checkAll t cs r).map (found ++ ·)

/-- The report on a script. -/
def validate (s : Script) (t : FileTree) (r : Option Registry) : Except Fault Report :=
  checkAll t s.commands r

end Script

end TapScript
