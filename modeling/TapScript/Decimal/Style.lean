import TapScript.Decimal.Shortest

/-! # Written doubles

Doubles are written with their shortest digits: positionally when the leading digit stands
between the fourth place after the point and the sixteenth before it, else with an exponent of
at least two digits.
-/

namespace TapScript.Decimal

/-- The choices of a written form for doubles. -/
structure Style where
  leastExponent : Int
  endExponent : Int
  exponentWidth : Nat
  infinity : String
  nan : String

/-- The written form of doubles in messages and results. -/
def plain : Style :=
  ⟨-4, 16, 2, "inf", "nan"⟩

/-- Digits as text. -/
def digitText (ds : List Nat) : String :=
  String.ofList (ds.map Nat.digitChar)

/-- A number with zeros before it up to a width. -/
def padded (width n : Nat) : String :=
  let s := toString n
  String.ofList (List.replicate (width - s.length) '0') ++ s

/-- Digits written with a point and at least one digit on either side. -/
def positional (d : Digits) : String :=
  if d.point ≤ 0 then
    "0." ++ digitText (List.replicate (-d.point).toNat 0 ++ d.digits)
  else
    let whole := d.digits.take d.point.toNat
    let filled := whole ++ List.replicate (d.point.toNat - whole.length) 0
    let rest := d.digits.drop d.point.toNat
    digitText filled ++ "." ++ (if rest.isEmpty then "0" else digitText rest)

/-- Digits written with one digit before the point and an exponent. -/
def scientific (n : Style) (d : Digits) : String :=
  let e := d.point - 1
  let rest := d.digits.drop 1
  digitText (d.digits.take 1) ++ (if rest.isEmpty then "" else "." ++ digitText rest)
    ++ "e" ++ (if e < 0 then "-" else "+") ++ padded n.exponentWidth e.natAbs

/-- A double in a given style. -/
def Style.render (n : Style) (x : Float) : String :=
  match Binary.ofFloat x with
  | .nan => n.nan
  | .infinite negative => (if negative then "-" else "") ++ n.infinity
  | .finite negative m e =>
    (if negative then "-" else "") ++
      if m = 0 then "0.0"
      else
        let d := shortest m e
        if n.leastExponent ≤ d.point - 1 ∧ d.point - 1 < n.endExponent then positional d
        else scientific n d

/-- The written form of a double. -/
def text (x : Float) : String :=
  plain.render x

end TapScript.Decimal
