/-!
# Doubles taken apart

A double is a not-a-number, a signed infinity, or `± significand * 2 ^
exponent`.  Everything that has to be exact about doubles (comparing them with
integers of any size, finding their shortest decimal text, counting
microseconds) is done on this form in `Nat` and `Int` arithmetic, so that no
rounding operation takes part.

Main definitions:

* `Binary64.ofFloat`: the exact form of a double;
* `Exact.compare`: the order of two numbers of the form `coefficient * 2 ^
  exponent`;
* `Binary64.floor`: the greatest integer below a finite double.
-/

namespace GrantKeeper.Decimal

/-- The number `coefficient * 2 ^ exponent`. -/
structure Exact where
  coefficient : Int
  exponent : Int
deriving DecidableEq, Repr

namespace Exact

/-- An integer is an exact number with exponent zero. -/
def ofInt (n : Int) : Exact := ⟨n, 0⟩

/-- The coefficient of `x` once its exponent is lowered to `e`. -/
def scaledTo (x : Exact) (e : Int) : Int :=
  x.coefficient * (Nat.pow 2 (x.exponent - e).toNat : Nat)

/-- The order of two exact numbers, decided at the smaller of their
exponents. -/
def compare (x y : Exact) : Ordering :=
  let e := min x.exponent y.exponent
  Ord.compare (x.scaledTo e) (y.scaledTo e)

/-- The greatest integer that is not above `x`. -/
def floor (x : Exact) : Int :=
  if 0 ≤ x.exponent then x.coefficient * (Nat.pow 2 x.exponent.toNat : Nat)
  else x.coefficient.fdiv (Nat.pow 2 (-x.exponent).toNat : Nat)

/-- The integer next to `x` on the side of zero. -/
def truncate (x : Exact) : Int :=
  if 0 ≤ x.exponent then x.coefficient * (Nat.pow 2 x.exponent.toNat : Nat)
  else x.coefficient.tdiv (Nat.pow 2 (-x.exponent).toNat : Nat)

/-- `x` has no fractional part. -/
def isIntegral (x : Exact) : Bool :=
  compare x (ofInt x.floor) == .eq

/-- `x` times `factor`, rounded to the nearest integer; a half goes to the even
neighbour. -/
def roundTimes (x : Exact) (factor : Int) : Int :=
  let scaled : Exact := ⟨x.coefficient * factor, x.exponent⟩
  let below := scaled.floor
  match compare ⟨scaled.coefficient * 2, scaled.exponent⟩
    (ofInt (2 * below + 1)) with
  | .lt => below
  | .gt => below + 1
  | .eq => if below % 2 = 0 then below else below + 1

@[simp] theorem scaledTo_ofInt (n : Int) : (ofInt n).scaledTo 0 = n := by
  simp [ofInt, scaledTo]

@[simp] theorem compare_ofInt (m n : Int) :
    compare (ofInt m) (ofInt n) = Ord.compare m n := by
  simp [compare, ofInt, scaledTo]

theorem compare_swap (x y : Exact) : compare y x = (compare x y).swap := by
  have hswap (m n : Int) : Ord.compare m n = (Ord.compare n m).swap :=
    Std.OrientedCmp.eq_swap
  unfold compare
  rw [Int.min_comm]
  exact hswap _ _

end Exact

/-- The exact content of a double. -/
inductive Binary64 where
  | nan
  | infinite (negative : Bool)
  | finite (negative : Bool) (significand : Nat) (exponent : Int)
deriving DecidableEq, Repr

namespace Binary64

/-- The leading bit of a significand, which a double does not store. -/
def leadingBit : Nat := 0x10000000000000

/-- The bit of the sign. -/
def signBit : Nat := 0x8000000000000000

/-- Reads sign, exponent and fraction off the 64 bits. -/
def ofBits (bits : Nat) : Binary64 :=
  let fraction := bits % leadingBit
  let biased := bits / leadingBit % 2048
  let negative := decide (signBit ≤ bits)
  if biased = 2047 then (if fraction = 0 then .infinite negative else .nan)
  else if biased = 0 then .finite negative fraction (-1074)
  else .finite negative (leadingBit + fraction) ((biased : Int) - 1075)

/-- The exact content of a double. -/
def ofFloat (x : Float) : Binary64 := ofBits x.toBits.toNat

/-- The number a double stands for, if it stands for one. -/
def number? : Binary64 → Option Exact
  | .finite negative significand exponent =>
      some ⟨if negative then -(significand : Int) else significand, exponent⟩
  | _ => none

/-- The greatest integer not above a finite double. -/
def floor? (x : Binary64) : Option Int := x.number?.map Exact.floor

/-- The order of two doubles, infinities at the ends; a not-a-number is
comparable with nothing. -/
def compare? : Binary64 → Binary64 → Option Ordering
  | .nan, _ => none
  | _, .nan => none
  | .infinite a, .infinite b =>
      some (if a == b then .eq else if a then .lt else .gt)
  | .infinite a, .finite .. => some (if a then .lt else .gt)
  | .finite .., .infinite b => some (if b then .gt else .lt)
  | .finite n s e, .finite n' s' e' =>
      some (Exact.compare ⟨if n then -(s : Int) else s, e⟩
        ⟨if n' then -(s' : Int) else s', e'⟩)

/-- An integer has an exact place among the doubles. -/
def ofInt (n : Int) : Binary64 := .finite (decide (n < 0)) n.natAbs 0

theorem compare?_ofInt (m n : Int) :
    compare? (ofInt m) (ofInt n) = some (Ord.compare m n) := by
  have signed (k : Int) :
      (if decide (k < 0) = true then -(k.natAbs : Int) else k.natAbs) = k := by
    simp only [decide_eq_true_eq]; split <;> omega
  simp only [ofInt, compare?, signed]
  exact congrArg some (Exact.compare_ofInt m n)

theorem compare?_swap (x y : Binary64) :
    compare? y x = (compare? x y).map Ordering.swap := by
  cases x with
  | nan => cases y <;> rfl
  | infinite a =>
      cases y with
      | nan => rfl
      | infinite b => cases a <;> cases b <;> rfl
      | finite n s e => cases a <;> rfl
  | finite n s e =>
      cases y with
      | nan => rfl
      | infinite b => cases b <;> rfl
      | finite n' s' e' => exact congrArg some (Exact.compare_swap _ _)

end Binary64

/-- The double that is not a number. -/
def notANumber : Float := 0.0 / 0.0

/-- The double nearest to an integer, which is infinite when the integer is too
big for one. -/
def nearestFloat (n : Int) : Float :=
  let magnitude := Float.ofScientific n.natAbs false 0
  if n < 0 then -magnitude else magnitude

end GrantKeeper.Decimal
