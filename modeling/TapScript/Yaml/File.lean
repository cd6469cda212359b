import TapScript.Script.Line
import TapScript.Yaml.Node

/-! # Data files

A data file holds one document. A file that is not there, or whose document is empty, holds an
empty mapping.
-/

namespace TapScript

namespace Value

/-- The empty mapping. -/
def emptyMap : Value :=
  .map false []

/-- The value that a document writes, nothing for an empty one. -/
def ofDocument (cs : List Char) : Except Mishap Value :=
  match Yaml.Node.read? cs with
  | Option.none => .error .document
  | some Option.none => .ok .none
  | some (some n) =>
    match n.toValue with
    | .ok v => .ok v
    | .error .malformed => .error .document
    | .error (.noSuchValue r) => .error (.noSuchValue r)

end Value

namespace Text

/-- The text of a data file. Bytes that break off are placed from where the break starts. -/
def ofDataBytes (bs : List UInt8) : Except DecodeError (List Char) :=
  match decode bs with
  | .ok cs => .ok (unifyLineEnds cs)
  | .error e => .error (if e.reason = .unfinished then { e with position := 0 } else e)

end Text

namespace FileTree

/-- The value in a data file. -/
def readData (t : FileTree) (p : Path) : Except Mishap Value := do
  if ← (t.exists? p).mapError Mishap.file then
    let cs ← (Text.ofDataBytes (← t.readBytes p)).mapError Mishap.decoding
    let v ← Value.ofDocument cs
    return if v.isTruthy then v else .emptyMap
  else return .emptyMap

end FileTree

end TapScript
