import TapScript.Fault
import TapScript.Value.Equality

/-! # Merging settings

The settings of one source override those of another key by key. Where both bind a key to a
mapping, the mappings are merged; otherwise the overriding value stands as it is.
-/

namespace TapScript

namespace Value

mutual

/-- The value that overrides another. -/
def overriding : (base : Option Value) → Value → Value
  | some (map _ es), map _ fs => map false (mergeEntries es fs)
  | _, v => v

/-- Entries overridden by others, one after the other. -/
def mergeEntries : List (Value × Value) → List (Value × Value) → List (Value × Value)
  | es, [] => es
  | es, (k, v) :: fs => mergeEntries (bindTo es k (overriding (under? es k) v)) fs

end

/-- A mapping overridden by another value, which must be a mapping too. -/
def mergeInto (base : List (Value × Value)) (v : Value) :
    Except Mishap (List (Value × Value)) :=
  match v with
  | map _ es => .ok (mergeEntries base es)
  | v => .error (.notMapping v.typeName)

end Value

end TapScript
