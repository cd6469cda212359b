import TapScript.Fault
import TapScript.Numeral
import TapScript.Regex.Match
import TapScript.Value.Equality

/-! # Checks

A check compares what was found with what was asked for, or judges it alone. Each opposite pair
decides one condition: the one check passes exactly where the other fails.
-/

namespace TapScript

/-- Whether a text holds another. -/
def Text.holds (part : List Char) : List Char → Bool
  | [] => part.isEmpty
  | c :: cs => part.isPrefixOf (c :: cs) || holds part cs

/-- Whether two texts are the same or are numerals of the same number. -/
def Text.looselyEqual (s t : String) : Bool :=
  match Numeral.ofText? s, Numeral.ofText? t with
  | some m, some n => m.toFloat == n.toFloat
  | _, _ => s == t

/-- Equality up to the writing of numbers: equal values, or values whose texts are so. -/
def Value.looselyEqual (a b : Value) : Except IntegerError Bool :=
  if a.same b then .ok true
  else if a.isNone || b.isNone then .ok false
  else do return Text.looselyEqual (← a.plain) (← b.plain)

/-- The checks. -/
inductive Check
  | equal
  | notEqual
  | strictEqual
  | notStrictEqual
  | truthy
  | falsy
  | isTrue
  | isFalse
  | isNull
  | isNotNull
  | isEmpty
  | isNotEmpty
  | includes
  | excludes
  | fits
  | fitsNot
  deriving DecidableEq, Repr

namespace Check

/-- The names of the checks, of which some have two. -/
def names : List (String × Check) :=
  [("equal", equal), ("notEqual", notEqual), ("strictEqual", strictEqual),
    ("notStrictEqual", notStrictEqual), ("ok", truthy), ("isOk", truthy), ("notOk", falsy),
    ("isNotOk", falsy), ("isTrue", isTrue), ("isFalse", isFalse), ("isNull", isNull),
    ("isNotNull", isNotNull), ("exists", isNotNull), ("notExists", isNull),
    ("isEmpty", isEmpty), ("isNotEmpty", isNotEmpty), ("include", includes),
    ("notInclude", excludes), ("match", fits), ("notMatch", fitsNot)]

/-- The check of a name. -/
def ofName? (s : String) : Option Check :=
  names.lookup s

/-- What a check accepts. -/
def signature : Check → Signature
  | equal => ⟨"equal", ["actual", "expected"], 0, false⟩
  | notEqual => ⟨"not_equal", ["actual", "expected"], 0, false⟩
  | strictEqual => ⟨"strict_equal", ["actual", "expected"], 0, false⟩
  | notStrictEqual => ⟨"not_strict_equal", ["actual", "expected"], 0, false⟩
  | truthy => ⟨"ok", ["actual"], 0, false⟩
  | falsy => ⟨"not_ok", ["actual"], 0, false⟩
  | isTrue => ⟨"is_true", ["actual"], 0, false⟩
  | isFalse => ⟨"is_false", ["actual"], 0, false⟩
  | isNull => ⟨"is_null", ["actual"], 0, false⟩
  | isNotNull => ⟨"is_not_null", ["actual"], 0, false⟩
  | isEmpty => ⟨"is_empty", ["actual"], 0, false⟩
  | isNotEmpty => ⟨"is_not_empty", ["actual"], 0, false⟩
  | includes => ⟨"include", ["actual", "expected"], 0, false⟩
  | excludes => ⟨"not_include", ["actual", "expected"], 0, false⟩
  | fits => ⟨"match", ["actual", "pattern"], 0, false⟩
  | fitsNot => ⟨"not_match", ["actual", "pattern"], 0, false⟩

/-- Whether a check compares with something asked for. -/
def isBinary (c : Check) : Bool :=
  c.signature.params.length == 2

/-- Whether the pattern occurs in what was found; nothing holds no pattern. -/
def occurs (h : Regex.Host) (actual pattern : Value) : Except Mishap Bool :=
  if actual.isNone then .ok false
  else do
    let p ← pattern.plain.mapError .badInteger
    let s ← actual.plain.mapError .badInteger
    (Regex.search h p s).mapError .pattern

/-- Whether what was found includes a text; nothing includes none. -/
def included (actual expected : Value) : Except IntegerError Bool :=
  if actual.isNone then .ok false
  else do
    let part ← expected.plain
    let whole ← actual.plain
    return Text.holds part.toList whole.toList

/-- Whether a check passes. -/
def passes (h : Regex.Host) (c : Check) (actual expected : Value) : Except Mishap Bool :=
  match c with
  | equal => (actual.looselyEqual expected).mapError .badInteger
  | notEqual => ((actual.looselyEqual expected).mapError .badInteger).map (!·)
  | strictEqual => .ok (actual.same expected)
  | notStrictEqual => .ok !(actual.same expected)
  | truthy | isNotEmpty => .ok actual.isTruthy
  | falsy | isEmpty => .ok !actual.isTruthy
  | isTrue => .ok (actual.same (.bool true) || actual.same (.text "true"))
  | isFalse => .ok (actual.same (.bool false) || actual.same (.text "false"))
  | isNull => .ok actual.isNone
  | isNotNull => .ok !actual.isNone
  | includes => (included actual expected).mapError .badInteger
  | excludes => ((included actual expected).mapError .badInteger).map (!·)
  | fits => occurs h actual expected
  | fitsNot => (occurs h actual expected).map (!·)

/-- What a failed check reports as asked for. -/
def wanted (c : Check) (expected : Value) : Value :=
  match c with
  | isTrue => .bool true
  | isFalse => .bool false
  | isEmpty => .text ""
  | _ => if c.isBinary then expected else .none

/-- The message that something was found which should be otherwise. -/
def unwished (actual : Value) (wish : String) : Except IntegerError String := do
  let a ← actual.shown
  return s!"expected {a} {wish}"

/-- The message that something was found which should be otherwise in regard to something else. -/
def uncompared (actual expected : Value) (wish : String) : Except IntegerError String := do
  let a ← actual.shown
  let e ← expected.shown
  return s!"expected {a} {wish} {e}"

/-- The message that something was found which should be otherwise in regard to a pattern. -/
def unmatched (actual pattern : Value) (wish : String) : Except IntegerError String := do
  let a ← actual.shown
  let p ← pattern.plain
  return s!"expected {a} {wish} /{p}/"

/-- The message of a failed check. -/
def complaint (c : Check) (actual expected : Value) : Except IntegerError String :=
  match c with
  | equal => uncompared actual expected "to equal"
  | notEqual => uncompared actual expected "to not equal"
  | strictEqual => uncompared actual expected "to strictly equal"
  | notStrictEqual => uncompared actual expected "to not strictly equal"
  | truthy => unwished actual "to be truthy"
  | falsy => unwished actual "to be falsy"
  | isTrue => unwished actual "to be true"
  | isFalse => unwished actual "to be false"
  | isNull => unwished actual "to be null"
  | isNotNull => .ok "expected value to not be null"
  | isEmpty => unwished actual "to be empty"
  | isNotEmpty => unwished actual "to not be empty"
  | includes => uncompared actual expected "to include"
  | excludes => uncompared actual expected "to not include"
  | fits => unmatched actual expected "to match"
  | fitsNot => unmatched actual expected "not to match"

/-- The mismatch that a failed check reports. -/
def mismatch (c : Check) (actual expected : Value) : Except IntegerError Mismatch :=
  (c.complaint actual expected).map fun message => ⟨message, actual, c.wanted expected⟩

/-- What a failed check ends with: a mismatch, if there are texts for its message. -/
def failure (c : Check) (actual expected : Value) : Fault :=
  match c.mismatch actual expected with
  | .ok m => .mismatch m {}
  | .error e => .mishap (.badInteger e)

/-- Runs a check on what was found and what was asked for. -/
def judge (h : Regex.Host) (c : Check) (actual expected : Value) : Except Fault Unit :=
  match c.passes h actual expected with
  | .ok true => .ok ()
  | .ok false => .error (c.failure actual expected)
  | .error m => .error (.mishap m)

/-- Runs a check on a list of arguments, which must be as many as it accepts. -/
def run (h : Regex.Host) (c : Check) (args : List Value) : Except Fault Unit :=
  match c.signature.mismatch? args.length with
  | some e => .error (.mishap (.arity e))
  | none => c.judge h (args.headD .none) ((args.drop 1).headD .none)

end Check

end TapScript
