import GrantKeeper.Cycle.Context

/-!
# Clocks

One reading of a clock gives the seconds of a monotonic clock, by which
deadlines are kept, and the point of time that a calendar shows.  The calendar
moves along with the monotonic clock.
-/

namespace GrantKeeper

/-- A monotonic clock, and what the calendar showed when it stood at its
origin. -/
structure Clock (τ : Type) where
  now : τ
  origin : τ
  calendar : Int
deriving Repr

namespace Clock

variable {τ : Type} [Seconds τ]

/-- A clock that starts to run. -/
def starting (origin : τ) (calendar : Int) : Clock τ :=
  ⟨origin, origin, calendar⟩

/-- The clock some time later. -/
def advance (c : Clock τ) (time : τ) : Clock τ :=
  { c with now := Seconds.add c.now time }

/-- The point of time shown, in universal time.  The calendar has the years 1 to
9999 only. -/
def wall (c : Clock τ) : Outcome Time.Timestamp := do
  let micros := c.calendar + (← Seconds.micros (Seconds.sub c.now c.origin))
  if micros < Time.Timestamp.earliest ∨ Time.Timestamp.latest < micros then
    throw (.malformed .tooBig)
  return .utc micros

@[simp] theorem now_advance (c : Clock τ) (time : τ) :
    (c.advance time).now = Seconds.add c.now time := rfl

end Clock

end GrantKeeper
