import GrantKeeper.Decimal.Binary64
import GrantKeeper.Fault.Basic

/-!
# Contexts of a cycle

A cycle runs under a context that can be cancelled and may have a deadline.
Times are seconds of a clock that never goes back; what they are made of is a
parameter, so that doubles serve a run and exact numbers an argument.

Main definitions:

* `Seconds`: what is asked of a measure of time;
* `Context`, `Context.remaining?`, `Context.isOver`: a deadline, and how much
  time is left before it.
-/

namespace GrantKeeper

/-- A measure of time in seconds. -/
class Seconds (τ : Type) where
  /-- The later time. -/
  add : τ → τ → τ
  /-- The time between two times. -/
  sub : τ → τ → τ
  /-- No time at all. -/
  nothing : τ
  /-- The time lies in the past. -/
  isNegative : τ → Bool
  /-- No time is left. -/
  isNothing : τ → Bool
  /-- Whole microseconds, unless there is no number of them. -/
  micros : τ → Outcome Int

/-- A double without its fraction. -/
def wholePart (x : Float) : Float :=
  match (Decimal.Binary64.ofFloat x).number? with
  | some number => Decimal.nearestFloat number.truncate
  | none => x

/-- The microseconds of a double.  Its fraction is multiplied as a double, and
then a half goes to the even neighbour. -/
def floatMicros (x : Float) : Outcome Int :=
  let fraction := x - wholePart x
  match Decimal.Binary64.ofFloat x,
    (Decimal.Binary64.ofFloat (fraction * 1000000.0)).number? with
  | .finite negative significand exponent, some micros =>
      let whole := Decimal.Exact.truncate
        ⟨if negative then -(significand : Int) else significand, exponent⟩
      .ok (whole * 1000000 + micros.roundTimes 1)
  | .nan, _ => .error (.value "cannot convert float NaN to integer")
  | _, _ => .error (.malformed .tooBig)

instance : Seconds Float where
  add := Float.add
  sub := Float.sub
  nothing := 0.0
  isNegative x := decide (x < 0.0)
  isNothing x := x == 0.0
  micros := floatMicros

/-- What cannot be a number of microseconds fails with no fault of the program's
own. -/
theorem Seconds.isOwn_of_micros (time : Float) (fault : Fault)
    (h : Seconds.micros time = .error fault) : fault.isOwn = false := by
  change floatMicros time = _ at h
  unfold floatMicros at h
  dsimp only at h
  generalize Decimal.Binary64.ofFloat time = kind at h
  split at h
  · cases h
  · cases h
    rfl
  · cases h
    rfl

/-- The deadline of a cycle, and whether it was cancelled. -/
structure Context (τ : Type) where
  deadline? : Option τ
  cancelled : Bool
deriving Repr

namespace Context

variable {τ : Type} [Seconds τ]

/-- A context that is never over. -/
def background : Context τ := ⟨none, false⟩

/-- A context with a deadline some time after `now`. -/
def lasting (now timeout : τ) : Context τ :=
  ⟨some (Seconds.add now timeout), false⟩

/-- The cancelled context. -/
def cancel (c : Context τ) : Context τ := { c with cancelled := true }

/-- The time before a deadline, never negative. -/
def timeUntil (deadline now : τ) : τ :=
  let left := Seconds.sub deadline now
  if Seconds.isNegative left then Seconds.nothing else left

/-- The time left, if there is a deadline. -/
def remaining? (c : Context τ) (now : τ) : Option τ :=
  c.deadline?.map (timeUntil · now)

/-- The cycle may not go on. -/
def isOver (c : Context τ) (now : τ) : Bool :=
  c.cancelled || (c.remaining? now).any Seconds.isNothing

/-- A context is over once it was cancelled, or when nothing is left of the time
before its deadline. -/
theorem isOver_iff {c : Context τ} {now : τ} : c.isOver now = true ↔
    c.cancelled = true ∨
      ∃ deadline, c.deadline? = some deadline ∧
        Seconds.isNothing (timeUntil deadline now) = true := by
  cases hdeadline : c.deadline? <;> simp [isOver, remaining?, hdeadline]

@[simp] theorem isOver_cancel (c : Context τ) (now : τ) :
    c.cancel.isOver now = true := by
  simp [cancel, isOver]

@[simp] theorem isOver_background (now : τ) :
    (background : Context τ).isOver now = false := by
  simp [background, isOver, remaining?]

/-- The time that a value gives for a context: a number of seconds. -/
def timeout : Json → Except Malformed Float
  | .bool b => .ok (if b then 1.0 else 0.0)
  | .int n =>
      let x := Decimal.nearestFloat n
      if x.isInf then .error .tooBig else .ok x
  | .float x => .ok x
  | .nan _ => .ok Decimal.notANumber
  | _ => .error .notANumber

end Context

end GrantKeeper
