import GrantKeeper.Decimal.Notation

/-!
# Numbers with a fixed number of places

A double is rounded to a number of decimal places, or to a number of significant
digits.  The rounding is done on its exact content, and a half goes to the even
neighbour.
-/

namespace GrantKeeper.Decimal

/-- The quotient of two naturals, rounded; a half goes to the even neighbour. -/
def roundDiv (num den : Nat) : Nat :=
  let below := num / den
  let rest := 2 * (num % den)
  if rest < den then below else if den < rest then below + 1
    else below + below % 2

/-- `significand * 2 ^ exponent`, counted in units of `10 ^ -places` and
rounded. -/
def unitsAt (significand : Nat) (exponent : Int) (places : Int) : Nat :=
  let value := Ratio.ofPower significand 2 exponent
  let scale := Ratio.ofPower 1 10 places
  roundDiv (value.num * scale.num) (value.den * scale.den)

/-- A magnitude with so many digits after the point; the point is left out with
the last of them unless it is asked for. -/
def fixedText (significand : Nat) (exponent : Int) (places : Nat)
    (point : Bool) : String :=
  let digits :=
    (paddedNat (places + 1) (unitsAt significand exponent places)).toList
  let whole := String.ofList (digits.take (digits.length - places))
  if places = 0 then (if point then whole ++ "." else whole)
  else whole ++ "." ++ String.ofList (digits.drop (digits.length - places))

/-- The exponent of the first digit of a magnitude once it is rounded to
`places` digits after the first, and those digits. -/
def roundedDigits (significand : Nat) (exponent : Int) (places : Nat) :
    Int × Nat :=
  if significand = 0 then (0, 0)
  else
    let e := (Rounding.around significand exponent).magnitude - 1
    let units := unitsAt significand exponent (places - e)
    if units < Nat.pow 10 (places + 1) then (e, units) else (e + 1, units / 10)

/-- A magnitude with one digit before the point, so many after it, and an
exponent. -/
def exponentText (significand : Nat) (exponent : Int) (places : Nat)
    (point : Bool) (mark : String) : String :=
  let (e, units) := roundedDigits significand exponent places
  let digits := (paddedNat (places + 1) units).toList
  let fraction := digits.drop 1
  let mantissa := String.ofList (digits.take 1) ++
    (if fraction.isEmpty && !point then "" else "." ++ String.ofList fraction)
  mantissa ++ mark ++ (if e < 0 then "-" else "+") ++ paddedNat 2 e.natAbs

/-- A text without the zeros that end its fraction, and without the point if
nothing is left behind it. -/
def withoutTrailingZeros (text : String) : String :=
  if text.toList.contains '.' then
    let kept := text.toList.reverse.dropWhile (· == '0')
    String.ofList (kept.dropWhile (· == '.')).reverse
  else text

/-- A magnitude with so many significant digits: positionally while the exponent
of its first digit lies from -4 up to the number of digits, and without trailing
zeros unless the point is asked for. -/
def generalText (significand : Nat) (exponent : Int) (precision : Nat)
    (point : Bool) (mark : String) : String :=
  let digits := max precision 1
  let (e, _) := roundedDigits significand exponent (digits - 1)
  let trim (text : String) := if point then text else withoutTrailingZeros text
  if -4 ≤ e ∧ e < digits then
    trim (fixedText significand exponent ((digits : Int) - 1 - e).toNat point)
  else
    let (e, units) := roundedDigits significand exponent (digits - 1)
    let all := (paddedNat digits units).toList
    let mantissa :=
      trim (String.ofList (all.take 1) ++ "." ++ String.ofList (all.drop 1))
    mantissa ++ mark ++ (if e < 0 then "-" else "+") ++ paddedNat 2 e.natAbs

end GrantKeeper.Decimal
