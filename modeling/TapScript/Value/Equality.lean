import TapScript.Value.Basic

/-! # Equality of values

Numbers are equal when they have the same numeric value, a truth value counting as zero or one.
Sequences of one kind are equal item by item, and mappings when they bind the same keys to
equal values in any order. Keys of a mapping are told apart by this equality.
-/

namespace TapScript

namespace Value

/-- The integer that a whole value stands for. -/
def integer? : Value → Option Int
  | bool b => some (if b then 1 else 0)
  | int n => some n
  | _ => .none

/-- Equality of values that are neither sequences nor mappings. -/
def sameScalar (a b : Value) : Bool :=
  match a, b with
  | float x, float y => x == y
  | float x, b => b.integer?.any fun n => Decimal.compareInt n x == some .eq
  | a, float y => a.integer?.any fun n => Decimal.compareInt n y == some .eq
  | none, none => true
  | text s, text t => s == t
  | date d, date e => d == e
  | a, b => a.integer?.any fun m => b.integer?.any fun n => m == n

mutual

/-- Whether two values are equal. -/
def same : Value → Value → Bool
  | list vs, list ws => sameAll vs ws
  | tuple vs, tuple ws => sameAll vs ws
  | map _ es, map _ fs => es.length == fs.length && boundIn es fs
  | a, b => sameScalar a b

/-- Whether two sequences are equal item by item. -/
def sameAll : List Value → List Value → Bool
  | [], [] => true
  | v :: vs, w :: ws => same v w && sameAll vs ws
  | _, _ => false

/-- Whether every entry is equal to some entry of the second list. -/
def boundIn : List (Value × Value) → List (Value × Value) → Bool
  | [], _ => true
  | (k, v) :: es, fs => (fs.any fun f => same k f.1 && same v f.2) && boundIn es fs

end

instance : BEq Value := ⟨same⟩

/-- The value bound to a key. -/
def under? (es : List (Value × Value)) (k : Value) : Option Value :=
  (es.find? (·.1.same k)).map (·.2)

/-- Entries with a key bound to a value, in its old place if it has one. -/
def bindTo (es : List (Value × Value)) (k v : Value) : List (Value × Value) :=
  if es.any (·.1.same k) then es.map fun e => if e.1.same k then (e.1, v) else e
  else es ++ [(k, v)]

end Value

end TapScript
