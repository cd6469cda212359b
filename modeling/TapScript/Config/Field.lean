import TapScript.Config.Issue
import TapScript.Decimal.Binary
import TapScript.Text.Blank
import TapScript.Value.Basic

/-! # Single settings

A setting is read leniently from a value: whole numbers also from their text, and truth values
also from the usual words for them. A text, though, is read only from a text.
-/

namespace TapScript

/-- How a setting is read from a value. -/
abbrev Field (α : Type) := Value → Except Rule α

namespace Field

/-- The most digits that a whole number may be written with. -/
def digitLimit : Nat := 4300

/-- A whole number written in digits, without zeros that could be left out. -/
def plainInteger (cs : List Char) : Except Rule Int :=
  let (negative, ds) := match cs with
    | '-' :: ds => (true, ds)
    | ds => (false, ds)
  if ds = [] ∨ ds.any (!·.isDigit) ∨ (ds.head? = some '0' ∧ ds ≠ ['0']) then .error .intParsing
  else if digitLimit < ds.length then .error .intParsingSize
  else
    let n : Int := Nat.ofDigitChars 10 ds 0
    .ok (if negative then -n else n)

/-- A zero of a number that may be left out, or a mark between its digits. -/
def isPadding (c : Char) : Bool :=
  c = '0' || c = '_'

/-- A number without the padding in front of its first digit. -/
def dropPadding? : List Char → Option (List Char)
  | '0' :: cs =>
    let last := ('0' :: cs.takeWhile isPadding).getLastD '0'
    match cs.dropWhile isPadding with
    | [] => some [last]
    | '.' :: rest => some (last :: '.' :: rest)
    | c :: rest => if c.isDigit then some (c :: rest) else none
  | c :: cs => if c.isDigit || c = '-' then some (c :: cs) else none
  | [] => none

/-- A number without a fraction of zeros. -/
def dropFraction (cs : List Char) : List Char :=
  let fraction := cs.dropWhile (· != '.')
  if fraction ≠ [] ∧ (fraction.drop 1).all (· == '0') then cs.takeWhile (· != '.') else cs

/-- Whether marks stand only between digits, and never two together. -/
def hasSingleMarks : List Char → Bool
  | [] => true
  | '_' :: [] => false
  | '_' :: '_' :: _ => false
  | _ :: cs => hasSingleMarks cs

/-- A number without the marks between its digits, if all of them stand there properly. -/
def dropMarks (cs : List Char) : List Char :=
  if cs.head? ≠ some '_' ∧ hasSingleMarks cs then cs.filter (· != '_') else cs

/-- A number in its plain form: no plus sign, no padding, no empty fraction, no marks. -/
def tidied? (cs : List Char) : Option (List Char) :=
  let unsigned := match cs with
    | '+' :: '-' :: _ => none
    | '+' :: cs => some cs
    | cs => some cs
  (unsigned.bind dropPadding?).map fun cs => dropMarks (dropFraction cs)

/-- The separators of information, which do not count as blanks around numbers. -/
def isSeparator (c : Char) : Bool :=
  '\x1c' ≤ c && c ≤ '\x1f'

/-- A text without the blanks around it. -/
def stripped (s : String) : List Char :=
  let isSpace (c : Char) : Bool := Text.isBlank c && !isSeparator c
  ((s.toList.dropWhile isSpace).reverse.dropWhile isSpace).reverse

/-- A whole number from its text. -/
def integerOfText (s : String) : Except Rule Int :=
  let cs := stripped s
  match plainInteger cs, tidied? cs with
  | .error .intParsing, some ds => (plainInteger ds).mapError fun _ => .intParsing
  | r, _ => r

/-- The size from which on a whole double is not taken for a whole number. -/
def integerLimit : Nat := Nat.pow 2 63

/-- A whole number from a double. -/
def integerOfFloat (x : Float) : Except Rule Int :=
  match Decimal.truncate? x with
  | none => .error .finiteNumber
  | some n =>
    if !Decimal.isWhole x then .error .intFromFloat
    else if n.natAbs < integerLimit then .ok n
    else .error .intParsingSize

/-- A whole number. -/
def integer : Field Int
  | .bool b => .ok (if b then 1 else 0)
  | .int n => .ok n
  | .float x => integerOfFloat x
  | .text s => integerOfText s
  | _ => .error .intType

/-- A whole number above zero. -/
def positive : Field { n : Nat // 0 < n } := fun v => do
  let n ← integer v
  if h : 0 < n.toNat then return ⟨n.toNat, h⟩ else throw .greaterThan

/-- A whole number that is not below zero. -/
def natural : Field Int := fun v => do
  let n ← integer v
  if 0 ≤ n then return n else throw .greaterThanEqual

/-- The words for truth values, in lower case. -/
def truthWords : List (String × Bool) :=
  (["1", "on", "t", "true", "y", "yes"].map fun w => (w, true))
    ++ (["0", "off", "f", "false", "n", "no"].map fun w => (w, false))

/-- A truth value from a whole number. -/
def truthOfInteger (n : Int) : Except Rule Bool :=
  if n = 0 then .ok false else if n = 1 then .ok true else .error .boolParsing

/-- A truth value. -/
def truth : Field Bool
  | .bool b => .ok b
  | .int n => truthOfInteger n
  | .text s =>
    match truthWords.lookup s.toLower with
    | some b => .ok b
    | none => .error .boolParsing
  | .float x =>
    match integerOfFloat x with
    | .ok n => truthOfInteger n
    | .error _ => .error .boolType
  | _ => .error .boolType

/-- A text. -/
def text : Field String
  | .text s => .ok s
  | _ => .error .stringType

/-- A setting that may also be nothing. -/
def optional {α : Type} (f : Field α) : Field (Option α)
  | .none => .ok none
  | v => (f v).map some

/-- One of some choices, by its name. -/
def choice {α : Type} (all : List α) (name : α → String) : Field α
  | .text s =>
    match all.find? (name · == s) with
    | some a => .ok a
    | none => .error .literal
  | _ => .error .literal

end Field

end TapScript
