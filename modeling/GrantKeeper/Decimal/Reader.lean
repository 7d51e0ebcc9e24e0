import GrantKeeper.Decimal.Notation
import GrantKeeper.Text.Digits

/-!
# Reading decimal numbers

A number is an optional sign and digits with an optional point and an optional
exponent; single underscores may stand between digits; `inf`, `infinity` and
`nan` are read in any case.  Which characters are digits is a parameter, because
some sources take ASCII only.  Magnitudes beyond the range of doubles are read
as infinite.
-/

namespace GrantKeeper.Decimal

/-- The double nearest to a non-negative decimal.  The exponent is looked at
first, so that a long one costs nothing. -/
def Scaled.toFloat (x : Scaled) : Float :=
  if x.digits = 0 then 0.0
  else if 310 < x.point then 1.0 / 0.0
  else if x.point < -330 then 0.0
  else if 0 ≤ x.exponent then Float.ofScientific x.digits false x.exponent.toNat
  else Float.ofScientific x.digits true (-x.exponent).toNat

/-- A run of digits at the front of a text: its value, its length, and what
follows. -/
structure Run where
  value : Nat
  count : Nat
  rest : List Char

/-- Splits the longest run of digits off, after `count` digits worth `value`. -/
def digitRun (digit? : Char → Option Nat) (value count : Nat) : List Char → Run
  | [] => ⟨value, count, []⟩
  | [c] =>
      match digit? c with
      | some d => ⟨10 * value + d, count + 1, []⟩
      | none => ⟨value, count, [c]⟩
  | c :: c' :: rest =>
      match digit? c with
      | some d => digitRun digit? (10 * value + d) (count + 1) (c' :: rest)
      | none =>
          if c = '_' ∧ 0 < count then
            match digit? c' with
            | some d => digitRun digit? (10 * value + d) (count + 1) rest
            | none => ⟨value, count, c :: c' :: rest⟩
          else ⟨value, count, c :: c' :: rest⟩

/-- Splits a sign off; `true` is minus. -/
def signed : List Char → Bool × List Char
  | '-' :: rest => (true, rest)
  | '+' :: rest => (false, rest)
  | text => (false, text)

/-- The exponent part of a number, which has to end the text. -/
def exponent? (digit? : Char → Option Nat) : List Char → Option Int
  | [] => some 0
  | c :: rest =>
      if c = 'e' ∨ c = 'E' then
        let (negative, digits) := signed rest
        let run := digitRun digit? 0 0 digits
        if run.count = 0 ∨ run.rest ≠ [] then none
        else some (if negative then -(run.value : Int) else run.value)
      else none

/-- An unsigned number without a name. -/
def unsigned? (digit? : Char → Option Nat) (text : List Char) : Option Scaled :=
  let whole := digitRun digit? 0 0 text
  let fraction : Run := match whole.rest with
    | '.' :: rest =>
        let run := digitRun digit? 0 0 rest
        ⟨whole.value * Nat.pow 10 run.count + run.value, run.count, run.rest⟩
    | rest => ⟨whole.value, 0, rest⟩
  if whole.count + fraction.count = 0 then none
  else (exponent? digit? fraction.rest).map fun e =>
    ⟨fraction.value, e - fraction.count⟩

/-- The double a text names, once blanks around it are gone. -/
def readFloat? (digit? : Char → Option Nat) (text : List Char) : Option Float :=
  let (negative, body) := signed text
  let magnitude? : Option Float :=
    match String.ofList (body.map Char.toLower) with
    | "inf" | "infinity" => some (1.0 / 0.0)
    | "nan" => some notANumber
    | _ => (unsigned? digit? body).map Scaled.toFloat
  magnitude?.map fun x => if negative then -x else x

/-- The double a text of ASCII digits without underscores names. -/
def readPlain? (text : List Char) : Option Float :=
  if text.contains '_' then none else readFloat? Text.asciiDigitValue? text

/-- The double a text of ASCII digits names; single underscores may stand
anywhere but at its ends, and do not count. -/
def readSpaced? (text : List Char) : Option Float :=
  let ends := [text.head?, text.getLast?]
  if ends.contains (some '_') || (text.zip text.tail).contains ('_', '_') then
    none
  else readPlain? (text.filter (· != '_'))

end GrantKeeper.Decimal
