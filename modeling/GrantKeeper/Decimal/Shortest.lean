import GrantKeeper.Decimal.Binary64

/-!
# The shortest decimal that reads back

A positive finite double is `m * 2 ^ q` with natural `m`.  The reals that round
to it form an interval around it, closed when `m` is even.  `shortest m q` looks
for the coarsest decimal grid with a point in that interval: on the grid of `k`
significant digits only the two neighbours of the value can be hits, so `k = 1,
2, … , 17` are tried in turn, in exact arithmetic.
-/

namespace GrantKeeper.Decimal

/-- The decimal `digits * 10 ^ exponent`. -/
structure Scaled where
  digits : Nat
  exponent : Int
deriving DecidableEq, Repr

/-- A positive fraction. -/
structure Ratio where
  num : Nat
  den : Nat
deriving DecidableEq, Repr

namespace Ratio

/-- `coefficient * base ^ exponent` as a fraction. -/
def ofPower (coefficient base : Nat) (exponent : Int) : Ratio :=
  if 0 ≤ exponent then ⟨coefficient * Nat.pow base exponent.toNat, 1⟩
  else ⟨coefficient, Nat.pow base (-exponent).toNat⟩

/-- `x < y`, by cross multiplication. -/
def lt (x y : Ratio) : Bool := x.num * y.den < y.num * x.den

/-- `x ≤ y`, by cross multiplication. -/
def le (x y : Ratio) : Bool := x.num * y.den ≤ y.num * x.den

end Ratio

/-- The reals that round to one double. -/
structure Rounding where
  low : Ratio
  value : Ratio
  high : Ratio
  closed : Bool

namespace Rounding

/-- The reals nearest to `m * 2 ^ q`.  Below a power of two the neighbour is
only half as far away. -/
def around (m : Nat) (q : Int) : Rounding where
  low := .ofPower
    (if m = Binary64.leadingBit ∧ -1074 < q then 4 * m - 1 else 4 * m - 2)
    2 (q - 2)
  value := .ofPower (4 * m) 2 (q - 2)
  high := .ofPower (4 * m + 2) 2 (q - 2)
  closed := m % 2 == 0

/-- A point of a decimal grid rounds to the double. -/
def accepts (r : Rounding) (x : Scaled) : Bool :=
  let point := Ratio.ofPower x.digits 10 x.exponent
  if r.closed then r.low.le point && point.le r.high else r.low.lt point &&
    point.lt r.high

/-- The least `e` with `value < 10 ^ e`. -/
def magnitude (r : Rounding) : Int :=
  let estimate : Int :=
    (((r.value.num.log2 : Int) - r.value.den.log2) * 30103).fdiv 100000
  ([estimate - 1, estimate, estimate + 1, estimate + 2].find?
    fun e => r.value.lt (.ofPower 1 10 e)).getD (estimate + 3)

/-- The hit nearest to the value among its two neighbours on the grid of `k`
digits; of two equally near ones the even. -/
def hit? (r : Rounding) (k : Nat) : Option Scaled :=
  let e := r.magnitude - k
  let unit := Ratio.ofPower 1 10 e
  let below := r.value.num * unit.den / (r.value.den * unit.num)
  let lower : Scaled := ⟨below, e⟩
  let upper : Scaled := ⟨below + 1, e⟩
  let twice := 2 * r.value.num * unit.den
  let middle := (2 * below + 1) * (r.value.den * unit.num)
  match r.accepts lower, r.accepts upper with
  | true, true =>
      if twice < middle then some lower
      else if middle < twice then some upper
      else if below % 2 = 0 then some lower else some upper
  | true, false => some lower
  | false, true => some upper
  | false, false => none

end Rounding

/-- Moves trailing zeros of the digits into the exponent, at most `fuel` of
them. -/
def Scaled.trim (x : Scaled) : Nat → Scaled
  | 0 => x
  | fuel + 1 =>
      if x.digits % 10 = 0 then Scaled.trim ⟨x.digits / 10, x.exponent + 1⟩
        fuel else x

/-- The shortest decimal that rounds to the positive double `m * 2 ^ q`, nearest
to it among those. -/
def shortest (m : Nat) (q : Int) : Scaled :=
  let r := Rounding.around m q
  (((List.range 17).findSome? fun k => r.hit? (k + 1)).getD ⟨m, 0⟩).trim 18

end GrantKeeper.Decimal
