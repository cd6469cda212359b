import TapScript.Decimal.Style
import TapScript.Integer
import TapScript.Value.Basic

/-! # Values as text

A value has a plain text, which substitutions and comparisons use, and a shown form, which
messages use and which quotes texts. It has neither if an integer in it is too large to be written.
-/

namespace TapScript

namespace Value

/-- Items between brackets. -/
def bracketed (opening closing : String) (items : List String) : String :=
  opening ++ ", ".intercalate items ++ closing

/-- The items of a tuple; a single one keeps its comma. -/
def parenthesised : List String → String
  | [s] => "(" ++ s ++ ",)"
  | ss => bracketed "(" ")" ss

mutual

/-- The form of a value in messages. -/
def shown : Value → Except IntegerError String
  | none => .ok "None"
  | bool b => .ok (if b then "True" else "False")
  | int n => Text.ofInteger n
  | float x => .ok (Decimal.text x)
  | text s => .ok (Text.quoted s)
  | date d => .ok s!"datetime.date({d.year}, {d.month}, {d.day})"
  | list vs => (shownAll vs).map (bracketed "[" "]")
  | tuple vs => (shownAll vs).map parenthesised
  | map false es => (shownEntries es).map (bracketed "\x7b" "\x7d")
  | map true es => (shownEntries es).map (bracketed "mappingproxy(\x7b" "\x7d)")
  | module _ shown _ => .ok shown
  | object _ _ shown => .ok shown

/-- The forms of several values. -/
def shownAll : List Value → Except IntegerError (List String)
  | [] => .ok []
  | v :: vs => do return (← v.shown) :: (← shownAll vs)

/-- The forms of entries, with a colon between key and value. -/
def shownEntries : List (Value × Value) → Except IntegerError (List String)
  | [] => .ok []
  | (k, v) :: es => do return ((← k.shown) ++ ": " ++ (← v.shown)) :: (← shownEntries es)

end

/-- The plain text of a value. -/
def plain : Value → Except IntegerError String
  | text s => .ok s
  | date d => .ok d.text
  | map _ es => (shownEntries es).map (bracketed "\x7b" "\x7d")
  | object _ plain _ => .ok plain
  | v => v.shown

end Value

end TapScript
