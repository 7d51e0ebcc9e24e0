import GrantKeeper.Decimal.Notation
import GrantKeeper.Time.Calendar

/-!
# Points of time

A timestamp shows a date and a time of day to the microsecond, and may say how
far that clock is ahead of universal time.  Its text is
`2024-05-06T07:08:09+00:00`, with six digits of fraction only if the
microseconds are not zero, and without an offset if it has none.
-/

namespace GrantKeeper.Time

/-- A reading of a clock: microseconds since the first of January 1970 as that
clock shows it, and the seconds it is ahead of universal time, if known. -/
structure Timestamp where
  micros : Int
  offset? : Option Int
deriving DecidableEq, Repr, Inhabited

namespace Timestamp

/-- Microseconds of a day. -/
def microsPerDay : Int := 86400000000

/-- The date shown. -/
def date (t : Timestamp) : Date := Date.ofDays (t.micros.fdiv microsPerDay)

/-- The microseconds shown since midnight. -/
def microsOfDay (t : Timestamp) : Nat := (t.micros.fmod microsPerDay).toNat

/-- The hour shown. -/
def hour (t : Timestamp) : Nat := t.microsOfDay / 3600000000

/-- The minute shown. -/
def minute (t : Timestamp) : Nat := t.microsOfDay / 60000000 % 60

/-- The second shown. -/
def second (t : Timestamp) : Nat := t.microsOfDay / 1000000 % 60

/-- The microseconds shown. -/
def micro (t : Timestamp) : Nat := t.microsOfDay % 1000000

/-- A reading of a clock that shows universal time. -/
def utc (micros : Int) : Timestamp := ⟨micros, some 0⟩

/-- A date with a time of day. -/
def ofParts (date : Date) (hour minute second micro : Nat)
    (offset? : Option Int) : Timestamp :=
  ⟨date.toDays * microsPerDay +
    ((hour * 3600 + minute * 60 + second) * 1000000 + micro : Nat), offset?⟩

/-- The sign, hours and minutes of an offset. -/
def offsetText (seconds : Int) : String :=
  let size := seconds.natAbs
  let sign := if seconds < 0 then "-" else "+"
  sign ++ Decimal.paddedNat 2 (size / 3600) ++ ":" ++
    Decimal.paddedNat 2 (size / 60 % 60)

/-- The text of a timestamp. -/
def text (t : Timestamp) : String :=
  let two := Decimal.paddedNat 2
  let d := t.date
  let fraction := if t.micro = 0 then "" else "." ++ Decimal.paddedNat 6 t.micro
  Decimal.paddedNat 4 d.year.natAbs ++ "-" ++ two d.month ++ "-" ++
    two d.day ++ "T" ++
    two t.hour ++ ":" ++ two t.minute ++ ":" ++ two t.second ++ fraction ++
    (t.offset?.map offsetText).getD ""

/-- The first representable microsecond, at the start of year 1. -/
def earliest : Int := (Date.mk 1 1 1).toDays * microsPerDay

/-- The last representable microsecond, at the end of year 9999. -/
def latest : Int := (Date.mk 10000 1 1).toDays * microsPerDay - 1

end Timestamp

end GrantKeeper.Time
