import TapScript.Text.Quoted

/-! # Argument counts

A function takes a fixed list of named parameters, of which the last few may have defaults, and
possibly any number of further arguments.
-/

namespace TapScript

/-- What a function accepts. -/
structure Signature where
  name : String
  params : List String
  defaults : Nat := 0
  variadic : Bool := false
  deriving DecidableEq, Repr

/-- A call with too few or too many arguments. -/
inductive ArityError
  | missing (name : String) (params : List String)
  | surplus (name : String) (least most given : Nat)
  deriving DecidableEq, Repr

namespace ArityError

/-- Quoted names as an enumeration. -/
def enumeration : List String → String
  | [] => ""
  | [a] => a
  | [a, b] => s!"{a} and {b}"
  | names => ", ".intercalate names.dropLast ++ ", and " ++ names.getLastD ""

/-- A noun with an `s` unless there is exactly one. -/
def plural (n : Nat) (noun : String) : String :=
  if n = 1 then noun else noun ++ "s"

def message : ArityError → String
  | missing f ps =>
    let count := plural ps.length "argument"
    s!"{f}() missing {ps.length} required positional {count}: {enumeration (ps.map Text.quoted)}"
  | surplus f least most given =>
    let takes :=
      if least = most then s!"{most} positional " ++ plural most "argument"
      else s!"from {least} to {most} positional arguments"
    let verb := if given = 1 then "was" else "were"
    s!"{f}() takes {takes} but {given} {verb} given"

end ArityError

namespace Signature

/-- The number of parameters without a default. -/
def required (s : Signature) : Nat :=
  s.params.length - s.defaults

/-- What is wrong with a call of `n` arguments; a surplus is reported before a lack. -/
def mismatch? (s : Signature) (n : Nat) : Option ArityError :=
  if s.params.length < n ∧ ¬ s.variadic then some (.surplus s.name s.required s.params.length n)
  else if n < s.required then some (.missing s.name ((s.params.take s.required).drop n))
  else none

theorem mismatch?_eq_none_iff {s : Signature} {n : Nat} :
    s.mismatch? n = none ↔ s.required ≤ n ∧ (n ≤ s.params.length ∨ s.variadic = true) := by
  unfold mismatch?
  split
  · next h => simp only [reduceCtorEq, false_iff]; intro ⟨_, h'⟩; grind
  · split <;> grind

end Signature

end TapScript
