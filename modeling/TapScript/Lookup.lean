import TapScript.Library.Module
import TapScript.Numeral
import TapScript.Script.Token
import TapScript.Text.Split

/-! # Lookup

A dotted path leads from a dictionary through mappings, sequences and modules to a value, segment
by segment. The first segment that leads to nothing is an undefined prefix of the path.
-/

namespace TapScript

namespace Value

/-- The plain text of a value, or the mishap that it has none. -/
def written (v : Value) : Except Fault String :=
  v.plain.mapError fun e => .mishap (.badInteger e)

/-- The shown forms of some values, or the mishap that one of them has none. -/
def displayed (vs : List Value) : Except Fault (List String) :=
  (shownAll vs).mapError fun e => .mishap (.badInteger e)

/-- Whether a segment counts as an index: digits of any kind after any number of minus signs. -/
def isIndex (segment : List Char) : Bool :=
  let digits := segment.dropWhile (· == '-')
  !digits.isEmpty && digits.all Text.isDigitLike

/-- The item at an index, counted from the end if it is negative. -/
def item? (items : List Value) (i : Int) : Option Value :=
  if 0 ≤ i then items[i.toNat]?
  else if -i ≤ items.length then items[(items.length + i).toNat]?
  else .none

/-- The item of a sequence that a segment names. -/
def itemAt (items : List Value) (segment : String) : Except Fault (Option Value) :=
  if isIndex segment.toList then
    match Text.integer segment with
    | .ok i => .ok (item? items i)
    | .error e => .error (.mishap (.badInteger e))
  else .ok .none

/-- The part of a value that a segment names; a leaf has no parts. -/
def child : Value → String → Except Fault (Option Value)
  | map _ es, s => .ok (bound? es s)
  | list items, s | tuple items, s => itemAt items s
  | module _ _ members, s => .ok (if Module.isPrivate s then .none else members.lookup s)
  | _, _ => .ok .none

/-- The value that some segments lead to from a value, below the segments walked already. -/
def walk (kind : Dictionary) (path : String) : (walked : List String) → List String → Value →
    Except Fault Value
  | _, [], v => .ok v
  | walked, s :: ss, v => do
    match ← v.child s with
    | some w =>
      if w.isNone then
        throw (.ofProblem (.undefined kind path (".".intercalate (walked ++ [s]))))
      walk kind path (walked ++ [s]) ss w
    | .none => throw (.ofProblem (.undefined kind path (".".intercalate (walked ++ [s]))))

/-- The value under a dotted path. -/
def lookup (root : Value) (kind : Dictionary) (path : String) : Except Fault Value :=
  walk kind path [] (Text.pieces '.' path) root

end Value

/-- The dictionaries of a run: values for arguments and locators for elements, both read-only. -/
structure Resolver where
  values : Value
  locators : Value

namespace Resolver

/-- A dictionary as the resolver keeps it. -/
def keep (data : Value) : Value :=
  if data.isTruthy then data.freeze else .map true []

/-- The resolver of two dictionaries. -/
def ofData (values locators : Value) : Resolver :=
  ⟨keep values, keep locators⟩

/-- What an argument stands for: the text itself if it is quoted or a numeral, else the value under
the path that it writes. -/
def resolve (r : Resolver) (t : Token) : Except Fault Value :=
  if t.quoted then .ok (.text t.text)
  else if Token.isDelimited t.text then .ok (.text (Token.inner t.text))
  else if isNumeric t.text then .ok (.text t.text)
  else r.values.lookup .value t.text

/-- The value of an argument. It is reported as a text, which it must have for that. -/
def argument (r : Resolver) (t : Token) : Except Fault Value := do
  let v ← r.resolve t
  let _ ← v.written
  return v

/-- The arguments of a library command, after the empty place of the receiver. -/
def arguments (r : Resolver) (ts : List Token) : Except Fault (List Value) := do
  return .none :: (← ts.mapM r.argument)

/-- The locator under an element path. -/
def locator (r : Resolver) (path : String) : Except Fault String := do
  match ← r.locators.lookup .element path with
  | .text s => return s
  | v => throw (.ofProblem (.notLocator path v.typeName))

end Resolver

end TapScript
