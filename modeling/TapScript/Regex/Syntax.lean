import TapScript.Regex.Error
import TapScript.Text.Blank
import TapScript.Text.Case
import TapScript.Text.Digit
import TapScript.Text.Word

/-! # Patterns

The syntax of regular expressions: characters, sets, edges, groups, alternatives, repetitions,
references and looks around.
-/

namespace TapScript.Regex

/-- The options under which a part of a pattern is matched. -/
structure Flags where
  ignoreCase : Bool := false
  multiLine : Bool := false
  dotAll : Bool := false
  verbose : Bool := false
  ascii : Bool := false
  unicode : Bool := false
  locale : Bool := false
  template : Bool := false
  deriving DecidableEq, Repr

namespace Flags

/-- The options in either of two sets. -/
def union (a b : Flags) : Flags :=
  ⟨a.ignoreCase || b.ignoreCase, a.multiLine || b.multiLine, a.dotAll || b.dotAll,
    a.verbose || b.verbose, a.ascii || b.ascii, a.unicode || b.unicode, a.locale || b.locale,
    a.template || b.template⟩

/-- Whether two sets have an option in common. -/
def meets (a b : Flags) : Bool :=
  a.ignoreCase && b.ignoreCase || a.multiLine && b.multiLine || a.dotAll && b.dotAll ||
    a.verbose && b.verbose || a.ascii && b.ascii || a.unicode && b.unicode ||
    a.locale && b.locale || a.template && b.template

/-- Whether an option that chooses the character set is in the set. -/
def choosesSet (a : Flags) : Bool :=
  a.ascii || a.unicode || a.locale

/-- The options inside a group that turns some on and some off. -/
def within (outer on off : Flags) : Flags :=
  let ascii := if on.choosesSet then on.ascii else outer.ascii
  let f := { outer.union on with ascii }
  { f with
    ignoreCase := f.ignoreCase && !off.ignoreCase
    multiLine := f.multiLine && !off.multiLine
    dotAll := f.dotAll && !off.dotAll
    verbose := f.verbose && !off.verbose }

/-- The option of a letter. -/
def ofLetter? : Char → Option Flags
  | 'i' => some { ignoreCase := true }
  | 'm' => some { multiLine := true }
  | 's' => some { dotAll := true }
  | 'x' => some { verbose := true }
  | 'a' => some { ascii := true }
  | 'u' => some { unicode := true }
  | 'L' => some { locale := true }
  | 't' => some { template := true }
  | _ => none

end Flags

/-- The classes of characters with an escape of their own. -/
inductive CharClass
  | digit
  | space
  | word
  deriving DecidableEq, Repr

/-- A member of a set of characters. -/
inductive Item
  | code (n : Nat)
  | range (low high : Nat)
  | kind (k : CharClass) (negated : Bool)
  deriving DecidableEq, Repr

/-- The places in a text that take up no character. -/
inductive Edge
  | lineStart
  | lineEnd
  | textStart
  | textEnd
  | wordEdge
  | noWordEdge
  deriving DecidableEq, Repr

/-- How a repetition chooses its count. -/
inductive Greed
  | most
  | least
  | keep
  deriving DecidableEq, Repr

namespace Greed

/-- The name of a kind of repetition in messages. -/
def name : Greed → String
  | most => "MAX_REPEAT"
  | least => "MIN_REPEAT"
  | keep => "POSSESSIVE_REPEAT"

end Greed

/-- A part of a pattern. -/
inductive Node
  | code (n : Nat)
  | any
  | set (negated : Bool) (items : List Item)
  | edge (e : Edge)
  | seq (parts : List Node)
  | branch (parts : List Node)
  | group (number : Option Nat) (on off : Flags) (body : Node)
  | reference (number : Nat)
  | conditional (number : Nat) (yes no : Node)
  | look (ahead negated : Bool) (body : Node)
  | atomic (body : Node)
  | repeated (greed : Greed) (least : Nat) (most : Option Nat) (body : Node)

/-- A whole pattern, with the widths of its groups. -/
structure Pattern where
  body : Node
  flags : Flags
  widths : List (Nat × Nat)

/-- A width beyond that of any text. -/
def boundless : Nat := Nat.pow 2 64

namespace Node

mutual

/-- The least and the greatest number of characters that a part matches. -/
def width (groups : List (Nat × Nat)) : Node → Nat × Nat
  | code _ | any | set .. => (1, 1)
  | edge _ | look .. => (0, 0)
  | seq ps => seqWidth groups ps
  | branch ps => branchWidth groups ps
  | group _ _ _ b | atomic b => width groups b
  | reference n => groups.getD n (0, 0)
  | conditional _ y n =>
    let (a, b) := width groups y
    let (c, d) := width groups n
    (min a c, max b d)
  | repeated _ least most b =>
    let (lo, hi) := width groups b
    match most with
    | some m => (min (lo * least) boundless, min (hi * m) boundless)
    | none => (min (lo * least) boundless, if hi = 0 then 0 else boundless)

/-- The widths of parts in a row. -/
def seqWidth (groups : List (Nat × Nat)) : List Node → Nat × Nat
  | [] => (0, 0)
  | p :: ps =>
    let (a, b) := width groups p
    let (c, d) := seqWidth groups ps
    (min (a + c) boundless, min (b + d) boundless)

/-- The widths of parts of which one is chosen. -/
def branchWidth (groups : List (Nat × Nat)) : List Node → Nat × Nat
  | [] => (boundless, 0)
  | p :: ps =>
    let (a, b) := width groups p
    let (c, d) := branchWidth groups ps
    (min a c, max b d)

end

/-- What is wrong with a look behind of given widths, which must be one width and not too great. -/
def lookObjection? : Nat × Nat → Option Complaint
  | (least, most) =>
    if 4294967295 < least then some .distantLookBehind
    else if least ≠ most then some .variableLookBehind
    else none

mutual

/-- The first thing in a part that keeps it from being used: a look behind, or in a template a
repetition. -/
def objection? (groups : List (Nat × Nat)) (template : Bool) : Node → Option Complaint
  | code _ | any | set .. | edge _ | reference _ => none
  | seq ps | branch ps => firstObjection? groups template ps
  | group _ _ _ b | atomic b => objection? groups template b
  | repeated greed _ _ b =>
    if template then some (.repeatInTemplate greed.name) else objection? groups template b
  | conditional _ y n =>
    match objection? groups template y with
    | some c => some c
    | none => objection? groups template n
  | look true _ b => objection? groups template b
  | look false _ b =>
    match lookObjection? (width groups b) with
    | some c => some c
    | none => objection? groups template b

/-- The first of the objections to some parts. -/
def firstObjection? (groups : List (Nat × Nat)) (template : Bool) : List Node → Option Complaint
  | [] => none
  | p :: ps =>
    match objection? groups template p with
    | some c => some c
    | none => firstObjection? groups template ps

end

/-- Whether the part is a place without width, which cannot be repeated. -/
def isEdge : Node → Bool
  | edge _ => true
  | _ => false

/-- Whether the part is a repetition, which cannot be repeated again. -/
def isRepeated : Node → Bool
  | repeated .. => true
  | _ => false

end Node

namespace CharClass

/-- Whether a character is in the class. -/
def holds (k : CharClass) (ascii : Bool) (c : Char) : Bool :=
  match k with
  | digit => if ascii then c.isDigit else Text.isDigit c
  | space => if ascii then c.isWhitespace || c == '\x0b' || c == '\x0c' else Text.isBlank c
  | word => if ascii then c.isAlphanum || c == '_' else Text.isWord c

end CharClass

end TapScript.Regex
