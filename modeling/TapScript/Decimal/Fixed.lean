import TapScript.Decimal.Binary

/-! # Doubles with fixed places

A double rounded to a number of places after the point, a half going to the even digit.
-/

namespace TapScript.Decimal

/-- A number of units of the last of some places, with a point before the places. -/
def placed (places n : Nat) : String :=
  let ds := (toString n).toList
  let ds := List.replicate (places + 1 - ds.length) '0' ++ ds
  let whole := ds.take (ds.length - places)
  String.ofList whole ++
    if places = 0 then "" else "." ++ String.ofList (ds.drop (ds.length - places))

/-- A finite double with a number of places. -/
def fixed? (places : Nat) (x : Float) : Option String :=
  match Binary.ofFloat x with
  | .finite negative m e =>
    let units := (Binary.scaleNearest (m * Nat.pow 10 places : Nat) e).toNat
    some ((if negative then "-" else "") ++ placed places units)
  | _ => none

end TapScript.Decimal
