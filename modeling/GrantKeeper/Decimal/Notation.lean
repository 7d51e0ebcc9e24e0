import GrantKeeper.Decimal.Shortest

/-!
# Written numbers

Integers are written in plain decimal.  A double is written with the fewest
digits that read back: positionally while its decimal point falls between four
places before and sixteen places after the first digit, and with an exponent of
at least two digits beyond.  A positional text always shows a point.
-/

namespace GrantKeeper.Decimal

/-- The decimal digits of a natural number. -/
def digitsText (n : Nat) : String := String.ofList (Nat.toDigits 10 n)

/-- An integer in plain decimal. -/
def intText (n : Int) : String :=
  if n < 0 then "-" ++ digitsText n.natAbs else digitsText n.natAbs

/-- Fills `text` up with leading zeros to `width` characters. -/
def padded (width : Nat) (text : String) : String :=
  String.ofList (List.replicate (width - text.length) '0') ++ text

/-- A natural number with at least `width` digits. -/
def paddedNat (width n : Nat) : String := padded width (digitsText n)

namespace Scaled

/-- The place of the decimal point, counted from the first digit. -/
def point (x : Scaled) : Int := (Nat.toDigits 10 x.digits).length + x.exponent

/-- The decimal without an exponent. -/
def positional (x : Scaled) : String :=
  let ds := Nat.toDigits 10 x.digits
  if x.point ≤ 0 then
    "0." ++ String.ofList (List.replicate (-x.point).toNat '0' ++ ds)
  else if ds.length ≤ x.point.toNat then
    String.ofList (ds ++ List.replicate (x.point.toNat - ds.length) '0') ++ ".0"
  else
    String.ofList (ds.take x.point.toNat) ++ "." ++
      String.ofList (ds.drop x.point.toNat)

/-- The decimal with one digit before the point and an exponent. -/
def scientific (x : Scaled) : String :=
  let e := x.point - 1
  let mark := if e < 0 then "e-" else "e+"
  let mantissa := match Nat.toDigits 10 x.digits with
    | [] => "0"
    | [d] => d.toString
    | d :: ds => d.toString ++ "." ++ String.ofList ds
  mantissa ++ mark ++ paddedNat 2 e.natAbs

/-- Positional from `0.0001` up to sixteen digits before the point. -/
def text (x : Scaled) : String :=
  if -4 < x.point ∧ x.point ≤ 16 then x.positional else x.scientific

end Scaled

/-- The text of a double; infinities and not-a-number have names. -/
def Binary64.text : Binary64 → String
  | .nan => "nan"
  | .infinite negative => if negative then "-inf" else "inf"
  | .finite negative significand exponent =>
      let magnitude :=
        if significand = 0 then "0.0" else (shortest significand exponent).text
      if negative then "-" ++ magnitude else magnitude

/-- The text of a double. -/
def floatText (x : Float) : String := (Binary64.ofFloat x).text

end GrantKeeper.Decimal
