/-! # Switches

The words of a command line are switches, which start with a dash, and operands. A switch has a
long name and may have a letter; letters can be run together, and a value follows as the next word,
after an equality sign, or right after the letter. Two dashes end the switches.
-/

namespace TapScript.CommandLine

/-- A switch that a command knows. -/
structure Switch where
  name : String
  letter : Option Char := none
  takesValue : Bool := false
  deriving DecidableEq, Repr

/-- What is wrong with a command line. -/
inductive Misuse
  | unknownSwitch (name : String)
  | valueMissing (name : String)
  | valueUnexpected (name : String)
  | commandMissing
  | unknownCommand (name : String)
  | extraOperand (text : String)
  | noFile (path : String)
  deriving DecidableEq, Repr

namespace Misuse

def message : Misuse → String
  | unknownSwitch n => s!"No such option: {n}"
  | valueMissing n => s!"Option '{n}' requires an argument."
  | valueUnexpected n => s!"Option '{n}' does not take a value."
  | commandMissing => "Missing command."
  | unknownCommand n => s!"No such command '{n}'."
  | extraOperand t => s!"Got unexpected extra argument ({t})"
  | noFile p => s!"File '{p}' does not exist or is a directory."

end Misuse

/-- The switches given, by their names and with their values in order, and the operands. -/
structure Given where
  switches : List (String × String) := []
  operands : List String := []
  deriving DecidableEq, Repr

namespace Given

/-- Whether a switch is given. -/
def has (g : Given) (name : String) : Bool :=
  g.switches.any (·.1 == name)

/-- The last value of a switch. -/
def value? (g : Given) (name : String) : Option String :=
  (g.switches.reverse.find? (·.1 == name)).map (·.2)

end Given

/-- Whether a word is a switch; a single dash is none. -/
def isSwitch (word : String) : Bool :=
  match word.toList with
  | '-' :: _ :: _ => true
  | _ => false

/-- The switches that a run of letters gives, and the last one if its value is still to come. -/
def readLetters (known : List Switch) :
    List Char → Except Misuse (List (String × String) × Option Switch)
  | [] => .ok ([], none)
  | c :: cs =>
    match known.find? (·.letter == some c) with
    | none => .error (.unknownSwitch (String.ofList ['-', c]))
    | some s =>
      if s.takesValue then
        if cs = [] then .ok ([], some s) else .ok ([(s.name, String.ofList cs)], none)
      else (readLetters known cs).map fun (given, open_) => ((s.name, "") :: given, open_)

/-- The switches that a word gives, and the last one if its value is still to come. -/
def readSwitch (known : List Switch) (word : String) :
    Except Misuse (List (String × String) × Option Switch) :=
  match word.toList with
  | '-' :: '-' :: cs =>
    let name := String.ofList (cs.takeWhile (· != '='))
    let value := cs.dropWhile (· != '=')
    match known.find? (·.name == name) with
    | none => .error (.unknownSwitch ("--" ++ name))
    | some s =>
      if s.takesValue then
        if value = [] then .ok ([], some s)
        else .ok ([(name, String.ofList (value.drop 1))], none)
      else if value = [] then .ok ([(name, "")], none)
      else .error (.valueUnexpected ("--" ++ name))
  | _ => readLetters known (word.toList.drop 1)

/-- Reads words. If they are not mixed, everything after the first operand is an operand. -/
def readWords (known : List Switch) (mixed : Bool) : List String → Except Misuse Given
  | [] => .ok {}
  | word :: rest =>
    if word = "--" then .ok { operands := rest }
    else if isSwitch word then
      match readSwitch known word with
      | .error e => .error e
      | .ok (given, none) =>
        (readWords known mixed rest).map fun g => { g with switches := given ++ g.switches }
      | .ok (given, some s) =>
        match rest with
        | [] => .error (.valueMissing ("--" ++ s.name))
        | value :: rest =>
          (readWords known mixed rest).map fun g =>
            { g with switches := given ++ (s.name, value) :: g.switches }
    else if mixed then
      (readWords known mixed rest).map fun g => { g with operands := word :: g.operands }
    else .ok { operands := word :: rest }

end TapScript.CommandLine
