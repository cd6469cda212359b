import TapScript.Day

/-! # Values

The data of lookup files: scalars, sequences, mappings in the order of their keys, and the
modules of lookup files that are programs. A sealed mapping or a tuple is read-only.
-/

namespace TapScript

/-- A value of a lookup dictionary. A module has a text of its own. What is of no other kind is an
object, of which the name of its type is known, and what its plain text and its shown form are. -/
inductive Value
  | none
  | bool (b : Bool)
  | int (n : Int)
  | float (x : Float)
  | text (s : String)
  | date (d : Day)
  | list (items : List Value)
  | tuple (items : List Value)
  | map (isSealed : Bool) (entries : List (Value × Value))
  | module (name shown : String) (members : List (String × Value))
  | object (typeName plain shown : String)
  deriving Inhabited

namespace Value

/-- The name by which messages call the type of a value. -/
def typeName : Value → String
  | none => "NoneType"
  | bool _ => "bool"
  | int _ => "int"
  | float _ => "float"
  | text _ => "str"
  | date _ => "date"
  | list _ => "list"
  | tuple _ => "tuple"
  | map true _ => "mappingproxy"
  | map false _ => "dict"
  | module .. => "module"
  | object t .. => t

def isNone : Value → Bool
  | none => true
  | _ => false

def isMap : Value → Bool
  | map .. => true
  | _ => false

/-- The value under a text key, in a list of entries. -/
def bound? (es : List (Value × Value)) (key : String) : Option Value :=
  (es.find? fun e => match e.1 with | text k => k == key | _ => false).map (·.2)

/-- A mapping with text keys. -/
def ofPairs (ps : List (String × Value)) : Value :=
  map false (ps.map fun p => (text p.1, p.2))

/-- A value counts as true unless it is nothing, false, zero or empty. -/
def isTruthy : Value → Bool
  | none => false
  | bool b => b
  | int n => n != 0
  | float x => x != 0
  | text s => s != ""
  | list vs | tuple vs => !vs.isEmpty
  | map _ es => !es.isEmpty
  | date _ | module .. | object .. => true

mutual

/-- The read-only copy of a value: mappings are sealed and lists become tuples, at every depth
down to the first value that is neither. -/
def freeze : Value → Value
  | list vs => tuple (freezeAll vs)
  | map _ es => map true (freezeEntries es)
  | v => v

/-- The read-only copies of several values. -/
def freezeAll : List Value → List Value
  | [] => []
  | v :: vs => v.freeze :: freezeAll vs

/-- Entries with read-only copies of their values. -/
def freezeEntries : List (Value × Value) → List (Value × Value)
  | [] => []
  | (k, v) :: es => (k, v.freeze) :: freezeEntries es

end

end Value

end TapScript
