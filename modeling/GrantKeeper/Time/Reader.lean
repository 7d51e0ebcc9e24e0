import GrantKeeper.Decimal.Reader
import GrantKeeper.Json.Basic
import GrantKeeper.Time.Timestamp

/-!
# Reading points of time

A point of time is written as a date, a separator and a time of day with
optional seconds, fraction and offset; or as a date alone, which means its
midnight; or as a number of seconds since 1970, taken as milliseconds beyond
20000000000.  Text is read byte by byte.  The year zero is read like any other,
and then refused.

Main definitions:

* `Time.Refusal`: why a value is no point of time;
* `Time.ofText`, `Time.ofJson`: the readers.
-/

namespace GrantKeeper.Time

/-- What is wrong with the text of a date. -/
inductive DateProblem where
  | tooShort
  | badYear
  | badMonth
  | badDay
  | badSeparator
  | monthOutOfRange
  | dayOutOfRange
  | extraCharacters
  | tooLate
  | tooEarly
  | yearZero
deriving DecidableEq, Repr

/-- The wording of a problem. -/
def DateProblem.message : DateProblem → String
  | .tooShort => "input is too short"
  | .badYear => "invalid character in year"
  | .badMonth => "invalid character in month"
  | .badDay => "invalid character in day"
  | .badSeparator => "invalid date separator, expected `-`"
  | .monthOutOfRange => "month value is outside expected range of 1-12"
  | .dayOutOfRange => "day value is outside expected range"
  | .extraCharacters => "unexpected extra characters at the end of the input"
  | .tooLate => "dates after 9999 are not supported as unix timestamps"
  | .tooEarly => "dates before 0000 are not supported as unix timestamps"
  | .yearZero => "year 0 is out of range"

/-- Why a value is no point of time. -/
inductive Refusal where
  /-- It is of a kind that cannot be one. -/
  | wrongKind
  /-- It is a number out of range, or lies in the year zero. -/
  | outOfRange (problem : DateProblem)
  /-- It is the number that is not one. -/
  | notANumber
  /-- It is a text that is neither a date nor a date with a time. -/
  | notADate (problem : DateProblem)
deriving DecidableEq, Repr

/-- The bytes of a text, each as the character with its number. -/
def bytesOf (text : String) : List Char :=
  text.toUTF8.toList.map fun b => Char.ofNat b.toNat

/-- The number written by some digits. -/
def digitsValue (digits : List Char) : Nat :=
  digits.foldl (fun n c => 10 * n + (c.toNat - 48)) 0

/-- The number written by two digits. -/
def twoDigits? (a b : Char) : Option Nat :=
  if a.isDigit ∧ b.isDigit then some ((a.toNat - 48) * 10 + (b.toNat - 48))
    else none

/-- The date at the front of a text, and what follows it. -/
def datePart (text : List Char) : Except DateProblem (Date × List Char) :=
  match text with
  | y₁ :: y₂ :: y₃ :: y₄ :: s₁ :: m₁ :: m₂ :: s₂ :: d₁ :: d₂ :: rest =>
      match twoDigits? y₁ y₂, twoDigits? y₃ y₄ with
      | some century, some year =>
          if s₁ ≠ '-' then .error .badSeparator
          else match twoDigits? m₁ m₂ with
            | none => .error .badMonth
            | some month =>
                if s₂ ≠ '-' then .error .badSeparator
                else match twoDigits? d₁ d₂ with
                  | none => .error .badDay
                  | some day =>
                      let year : Int := (century * 100 + year : Nat)
                      if month = 0 ∨ 12 < month then .error .monthOutOfRange
                      else if day = 0 ∨ daysInMonth year month < day then
                        .error .dayOutOfRange
                      else .ok (⟨year, month, day⟩, rest)
      | _, _ => .error .badYear
  | _ => .error .tooShort

/-- Seconds and microseconds at the front of the rest of a time, if there are
any. -/
def secondsPart? (text : List Char) : Option (Nat × Nat × List Char) :=
  match text with
  | ':' :: a :: b :: rest => do
      let second ← twoDigits? a b
      if 59 < second then none
      else match rest with
        | mark :: after =>
            if mark = '.' ∨ mark = ',' then
              let digits := after.takeWhile Char.isDigit
              if digits.isEmpty then none
              else
                let six := (digits ++ List.replicate 6 '0').take 6
                let micro := digitsValue six
                some (second, micro, after.dropWhile Char.isDigit)
            else some (second, 0, rest)
        | [] => some (second, 0, rest)
  | ':' :: _ => none
  | rest => some (0, 0, rest)

/-- Hours and minutes of an offset, with or without a colon, at the end of a
text. -/
def offsetSize? (text : List Char) : Option Nat := do
  let (a, b, c, d) ← match text with
    | [a, b, ':', c, d] => some (a, b, c, d)
    | [a, b, c, d] => some (a, b, c, d)
    | _ => none
  let hours ← twoDigits? a b
  let minutes ← twoDigits? c d
  if hours < 24 ∧ minutes < 60 then some ((hours * 60 + minutes) * 60) else none

/-- The offset that ends a time. -/
def offsetPart? (text : List Char) : Option (Option Int) :=
  match text with
  | [] => some none
  | ['Z'] | ['z'] => some (some 0)
  | '+' :: rest => (offsetSize? rest).map fun n => some (n : Int)
  | '-' :: rest => (offsetSize? rest).map fun n => some (-(n : Int))
  | '\xe2' :: '\x88' :: '\x92' :: rest =>
      (offsetSize? rest).map fun n => some (-(n : Int))
  | _ => none

/-- A time of day after its date. -/
def timePart? (date : Date) (text : List Char) : Option Timestamp :=
  match text with
  | a :: b :: ':' :: c :: d :: rest => do
      let hour ← twoDigits? a b
      let minute ← twoDigits? c d
      if 23 < hour ∨ 59 < minute then none
      else
        let (second, micro, rest) ← secondsPart? rest
        let offset? ← offsetPart? rest
        return .ofParts date hour minute second micro offset?
  | _ => none

/-- A date with a time of day. -/
def fullText? (text : List Char) : Option Timestamp :=
  match datePart text with
  | .ok (date, separator :: rest) =>
      if separator = 'T' ∨ separator = 't' ∨ separator = ' ' ∨
        separator = '_' then timePart? date rest
      else none
  | _ => none

/-! ## Numbers of seconds -/

/-- Numbers beyond this are milliseconds. -/
def millisecondsFrom : Int := 20000000000

/-- The first second of the year zero. -/
def startOfYearZero : Int := -62167219200

/-- The point of time some microseconds after 1970. -/
def ofMicros (micros : Int) : Except DateProblem Timestamp :=
  if micros < startOfYearZero * 1000000 then .error .tooEarly
  else if micros < Timestamp.earliest then .error .yearZero
  else if Timestamp.latest < micros then .error .tooLate
  else .ok (.utc micros)

/-- The point of time a whole number of seconds or milliseconds after 1970. -/
def ofSeconds (count : Int) : Except DateProblem Timestamp :=
  ofMicros
    (if count.natAbs ≤ millisecondsFrom then count * 1000000 else count * 1000)

/-- The point of time a double names.  What it has beyond its floor is counted
in microseconds, rounded after a multiplication of doubles; a half goes away
from zero. -/
def ofFloat (x : Float) : Except Refusal Timestamp :=
  match Decimal.Binary64.ofFloat x with
  | .nan => .error .notANumber
  | .infinite negative =>
      .error (.outOfRange (if negative then .tooEarly else .tooLate))
  | .finite negative significand exponent =>
      let whole :=
        Decimal.Exact.floor
          ⟨if negative then -(significand : Int) else significand, exponent⟩
      let fraction := x - x.floor
      let count (perUnit : Float) : Int :=
        (fraction * perUnit).round.toUInt64.toNat
      (ofMicros
        (if 20000000000.0 < x.abs then whole * 1000 + count 1000.0
          else whole * 1000000 + count 1000000.0)).mapError .outOfRange

/-- A text of digits with a sign and a point, or without: an integer without a
point, a double with one. -/
def number? (text : List Char) : Option (Int ⊕ Float) :=
  let (negative, body) := Decimal.signed text
  match body.dropWhile Char.isDigit with
  | [] =>
      let size : Int := digitsValue body
      let value := if negative then -size else size
      if body.isEmpty || !Json.fitsWord value then none else some (.inl value)
  | '.' :: _ => (Decimal.readPlain? text).map .inr
  | _ => none

/-! ## Values -/

/-- A date alone, which is its midnight; a text that is not even a date says
why. -/
def dateText (text : List Char) : Except DateProblem Timestamp := do
  let (date, rest) ← datePart text
  if rest.isEmpty then .ok (.ofParts date 0 0 0 0 none)
    else .error .extraCharacters

/-- The point of time unless it lies in the year zero. -/
def afterYearZero (t : Timestamp) : Except Refusal Timestamp :=
  if t.date.year = 0 then .error (.outOfRange .yearZero) else .ok t

/-- The point of time a text names. -/
def ofText (text : String) : Except Refusal Timestamp :=
  let bytes := bytesOf text
  let date := (dateText bytes).mapError .notADate >>= afterYearZero
  match fullText? bytes with
  | some t => afterYearZero t
  | none => match number? bytes with
      | some (.inl n) => (ofSeconds n).mapError fun problem =>
          if problem = .yearZero then .outOfRange problem else .notADate problem
      | some (.inr x) => match ofFloat x with
          | .error (.outOfRange .yearZero) => .error (.outOfRange .yearZero)
          | .error _ => date
          | .ok t => .ok t
      | none => date

/-- The point of time a value names. -/
def ofJson : Json → Except Refusal Timestamp
  | .str text => ofText text
  | .int n =>
      if Json.fitsWord n then (ofSeconds n).mapError .outOfRange
      else
        let x := Decimal.nearestFloat n
        if x.isInf then .error .wrongKind else ofFloat x
  | .float x => ofFloat x
  | .nan _ => .error .notANumber
  | _ => .error .wrongKind

end GrantKeeper.Time
