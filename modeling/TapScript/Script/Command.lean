import TapScript.Script.Line
import TapScript.Script.Token

/-! # Commands and scripts

A command line names a command, as a path of library segments and a verb joined by dots, and
gives its arguments. A few verbs are built in, whatever library is named before them.
-/

namespace TapScript

/-- The verbs that need no library. -/
inductive Builtin
  | sleep
  | log
  | assert
  | runScript
  | element
  | waitForElement
  deriving DecidableEq, Repr

namespace Builtin

def name : Builtin → String
  | sleep => "sleep"
  | log => "log"
  | assert => "assert"
  | runScript => "runScript"
  | element => "element"
  | waitForElement => "waitForElement"

def all : List Builtin :=
  [sleep, log, assert, runScript, element, waitForElement]

/-- The built-in verb of a name. -/
def ofName? (s : String) : Option Builtin :=
  all.find? (·.name == s)

end Builtin

/-- What an element command does with the element that it finds. -/
inductive Action
  | click
  | tap
  | swipe
  | type
  | keys
  | setValue
  | locate
  deriving DecidableEq, Repr

namespace Action

/-- The action of a name; a name of no action stands for finding the element alone. -/
def ofName : String → Action
  | "click" => click
  | "tap" => tap
  | "swipe" => swipe
  | "type" => type
  | "keys" => keys
  | "setValue" => setValue
  | _ => locate

/-- The arguments that an action needs. -/
def params : Action → List String
  | tap => ["x", "y"]
  | swipe => ["startX", "startY", "endX", "endY", "duration"]
  | type | keys | setValue => ["text"]
  | click | locate => []

/-- Whether the action enters text. -/
def entersText : Action → Bool
  | type | keys | setValue => true
  | _ => false

end Action

/-- A command of a script. -/
structure Command where
  text : String
  name : String
  library : List String
  verb : String
  args : List Token
  line : Int
  source : Option Path
  deriving DecidableEq, Repr

namespace Command

/-- The built-in verb of a command. -/
def builtin? (c : Command) : Option Builtin :=
  Builtin.ofName? c.verb

/-- Where the command stands. -/
def place (c : Command) : Place :=
  ⟨some c.line, c.source⟩

/-- A problem at the place of the command. -/
def fault (c : Command) (p : Problem) : Fault :=
  .problem p c.place

/-- The command that the tokens of a line write. -/
def ofTokens (tokens : List Token) (line : Int) (text : String) (source : Option Path) :
    Except Fault Command :=
  match tokens with
  | [] => .error (.problem .noCommandName ⟨some line, source⟩)
  | t :: args =>
    if t.text = "" then .error (.problem .noCommandName ⟨some line, source⟩)
    else
      let segments := Text.pieces '.' t.text
      .ok {
        text, line, source, args
        name := t.text
        library := segments.dropLast
        verb := segments.getLastD "" }

/-- The command of a line. -/
def ofLine (source : Option Path) (l : Line) : Except Fault Command :=
  ofTokens (Token.scan (Text.trimmed l.text)) l.number l.text source

end Command

/-- The commands of a file or text, in order. -/
structure Script where
  commands : List Command
  source : Option Path
  deriving DecidableEq, Repr

namespace Script

/-- The name of the script's file. -/
def name (s : Script) : String :=
  match s.source with
  | some p => p.name
  | none => "<string>"

/-- The libraries that the commands name, each once, in the order of first use. -/
def libraries (s : Script) : List (List String) :=
  s.commands.foldl (fun seen c =>
    if c.library = [] ∨ c.library ∈ seen then seen else seen ++ [c.library]) []

/-- The script that a text writes. -/
def parse (contents : String) (source : Option Path) : Except Fault Script := do
  return ⟨← (Line.scan contents).mapM (Command.ofLine source), source⟩

/-- The script in a file. -/
def load (t : FileTree) (p : Path) : Except Fault Script := do
  parse (← (t.readScript p).mapError .mishap) (some p)

end Script

end TapScript
