import TapScript.Text.Quoted

/-! # JSON documents

The documents in which results are saved: indented by two spaces a level, with all characters as
themselves but quotes, backslashes and controls.
-/

namespace TapScript

/-- A document. -/
inductive JsonValue
  | null
  | int (n : Int)
  | text (s : String)
  | list (items : List JsonValue)
  | object (fields : List (String × JsonValue))

namespace JsonValue

/-- A text, or nothing. -/
def ofOption : Option String → JsonValue
  | some s => text s
  | none => null

/-- One character of a text in a document. -/
def escaped (c : Char) : List Char :=
  if c = '"' ∨ c = '\\' then ['\\', c]
  else if c = '\n' then ['\\', 'n']
  else if c = '\r' then ['\\', 'r']
  else if c = '\t' then ['\\', 't']
  else if c = '\x08' then ['\\', 'b']
  else if c = '\x0c' then ['\\', 'f']
  else if c.toNat < 0x20 then '\\' :: 'u' :: Text.hex 4 c.toNat
  else [c]

/-- A text between double quotes. -/
def quoted (s : String) : String :=
  String.ofList ('"' :: s.toList.flatMap escaped ++ ['"'])

/-- The start of a line at a level. -/
def newline (level : Nat) : String :=
  "\n" ++ String.ofList (List.replicate (2 * level) ' ')

/-- Items on lines of their own between brackets; brackets around nothing stay together. -/
def block (opening closing : String) (level : Nat) : List String → String
  | [] => opening ++ closing
  | items =>
    opening ++ newline (level + 1) ++ ("," ++ newline (level + 1)).intercalate items
      ++ newline level ++ closing

mutual

/-- A document that starts at a level. -/
def render (level : Nat) : JsonValue → String
  | null => "null"
  | int n => toString n
  | text s => quoted s
  | list items => block "[" "]" level (renderAll (level + 1) items)
  | object fields => block "\x7b" "\x7d" level (renderFields (level + 1) fields)

/-- Several documents. -/
def renderAll (level : Nat) : List JsonValue → List String
  | [] => []
  | v :: vs => v.render level :: renderAll level vs

/-- Documents after their names. -/
def renderFields (level : Nat) : List (String × JsonValue) → List String
  | [] => []
  | (k, v) :: fs => (quoted k ++ ": " ++ v.render level) :: renderFields level fs

end

/-- The written form of a document. -/
def written (v : JsonValue) : String :=
  v.render 0

end JsonValue

end TapScript
