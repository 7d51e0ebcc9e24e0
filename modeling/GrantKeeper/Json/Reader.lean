import GrantKeeper.Json.Basic
import GrantKeeper.Decimal.Reader

/-!
# Reading JSON

The grammar is the usual one, with the names `NaN`, `Infinity` and `-Infinity`
among the numbers.  A number without fraction and exponent is an integer of any
size, up to a limit on its digits; of two fields of one name the later value
counts.  A refused text is reported with the place of its first problem.

Main definitions:

* `Json.ReadError` and its `message`: the problem and its place as line, column
  and character;
* `Json.read`: the value of a whole text.
-/

namespace GrantKeeper.Json

/-- What is wrong at a place of a text. -/
inductive Problem where
  | byteOrderMark
  | noValue
  | noPropertyName
  | noColon
  | noComma
  | extraData
  | unterminatedString
  | controlCharacter
  | badEscape
  | badUnicodeEscape
deriving DecidableEq, Repr

/-- The wording of a problem. -/
def Problem.message : Problem → String
  | .byteOrderMark => "Unexpected UTF-8 BOM (decode using utf-8-sig)"
  | .noValue => "Expecting value"
  | .noPropertyName => "Expecting property name enclosed in double quotes"
  | .noColon => "Expecting ':' delimiter"
  | .noComma => "Expecting ',' delimiter"
  | .extraData => "Extra data"
  | .unterminatedString => "Unterminated string starting at"
  | .controlCharacter => "Invalid control character at"
  | .badEscape => "Invalid \\escape"
  | .badUnicodeEscape => "Invalid \\uXXXX escape"

/-- Why a text was refused. -/
inductive ReadError where
  /-- The text is not JSON from this character on. -/
  | problemAt (problem : Problem) (position : Nat)
  /-- An integer has more digits than the limit. -/
  | tooManyDigits (count limit : Nat)
  /-- Arrays and objects are nested beyond the limit. -/
  | tooDeep
deriving DecidableEq, Repr

/-- Line and column, both counted from one, of a character of a text. -/
def lineAndColumn (text : List Char) (position : Nat) : Nat × Nat :=
  let before := text.take position
  (before.count '\n' + 1, (before.reverse.takeWhile (· != '\n')).length + 1)

/-- The wording of an error in a text. -/
def ReadError.message (text : List Char) : ReadError → String
  | .problemAt problem position =>
      let (line, column) := lineAndColumn text position
      s!"{problem.message}: line {line} column {column} (char {position})"
  | .tooManyDigits count limit =>
      s!"Exceeds the limit ({limit} digits) for integer string conversion: " ++
        s!"value has {count} digits; " ++
        "use sys.set_int_max_str_digits() to increase the limit"
  | .tooDeep => "maximum recursion depth exceeded"

/-- Bounds that a reader puts on its input. -/
structure Limits where
  digits? : Option Nat
  depth? : Option Nat

/-- Without bounds. -/
def Limits.none : Limits := ⟨Option.none, Option.none⟩

/-- The bounds put on texts from outside. -/
def Limits.standard : Limits := ⟨some 4300, some 990⟩

/-- A place in a text: what is left of it and how many characters precede
that. -/
structure Cursor where
  rest : List Char
  position : Nat

namespace Cursor

/-- The place `n` characters further on. -/
def advance (c : Cursor) (n : Nat) : Cursor := ⟨c.rest.drop n, c.position + n⟩

/-- The character at the place. -/
def head? (c : Cursor) : Option Char := c.rest.head?

/-- The place behind a piece of text, if it stands here. -/
def skip? (c : Cursor) (text : String) : Option Cursor :=
  if text.toList.isPrefixOf c.rest then some (c.advance text.length) else none

/-- The next place that is not a blank of the grammar. -/
def skipBlanks (c : Cursor) : Cursor :=
  c.advance (c.rest.takeWhile fun ch =>
    ch == ' ' || ch == '\t' || ch == '\n' || ch == '\r').length

/-- Refuses the text at this place. -/
def fail {α : Type} (c : Cursor) (problem : Problem) : Except ReadError α :=
  .error (.problemAt problem c.position)

end Cursor

/-! ## Strings -/

/-- The value of a hexadecimal digit. -/
def hexValue? (c : Char) : Option Nat :=
  if '0' ≤ c ∧ c ≤ '9' then some (c.toNat - '0'.toNat)
  else if 'a' ≤ c ∧ c ≤ 'f' then some (c.toNat - 'a'.toNat + 10)
  else if 'A' ≤ c ∧ c ≤ 'F' then some (c.toNat - 'A'.toNat + 10)
  else none

/-- The number written by the four digits of an escape, which another character
must follow. -/
def unit? (text : List Char) : Option Nat :=
  match text with
  | a :: b :: c :: d :: _ :: _ => do
      let a ← hexValue? a
      let b ← hexValue? b
      let c ← hexValue? c
      let d ← hexValue? d
      return ((a * 16 + b) * 16 + c) * 16 + d
  | _ => none

/-- The character with a number; half of a surrogate pair on its own becomes the
replacement character. -/
def unitChar (n : Nat) : Char :=
  if 0xD800 ≤ n ∧ n < 0xE000 then '\uFFFD' else Char.ofNat n

/-- The character that a letter stands for after a backslash. -/
def escaped? (c : Char) : Option Char :=
  match c with
  | '"' => some '"'
  | '\\' => some '\\'
  | '/' => some '/'
  | 'b' => some '\x08'
  | 'f' => some '\x0c'
  | 'n' => some '\n'
  | 'r' => some '\r'
  | 't' => some '\t'
  | _ => none

/-- The rest of a string whose opening quote stands at `start`.  Every step
consumes a character, so the length of the text is fuel enough. -/
def stringRest (start : Nat) :
    Nat → Cursor → List Char → Except ReadError (String × Cursor)
  | 0, _, _ => .error (.problemAt .unterminatedString start)
  | fuel + 1, c, chars =>
      match c.rest with
      | [] => .error (.problemAt .unterminatedString start)
      | '"' :: _ => .ok (String.ofList chars.reverse, c.advance 1)
      | ['\\'] => .error (.problemAt .unterminatedString start)
      | '\\' :: 'u' :: after =>
          match unit? after with
          | none => (c.advance 1).fail .badUnicodeEscape
          | some high =>
              match after.drop 4 with
              | '\\' :: 'u' :: next =>
                  if 0xD800 ≤ high ∧ high < 0xDC00 ∧ 4 < next.length then
                    match unit? next with
                    | none => (c.advance 7).fail .badUnicodeEscape
                    | some low =>
                        if 0xDC00 ≤ low ∧ low < 0xE000 then
                          let n := 0x10000 + (high - 0xD800) * 0x400 +
                            (low - 0xDC00)
                          stringRest start fuel (c.advance 12)
                            (Char.ofNat n :: chars)
                        else stringRest start fuel (c.advance 6)
                          (unitChar high :: chars)
                  else stringRest start fuel (c.advance 6)
                    (unitChar high :: chars)
              | _ =>
                  stringRest start fuel (c.advance 6) (unitChar high :: chars)
      | '\\' :: letter :: _ =>
          match escaped? letter with
          | some ch => stringRest start fuel (c.advance 2) (ch :: chars)
          | none => c.fail .badEscape
      | ch :: _ =>
          if ch.toNat < 0x20 then c.fail .controlCharacter
          else stringRest start fuel (c.advance 1) (ch :: chars)

/-- The string whose opening quote stands at the cursor. -/
def readString (fuel : Nat) (c : Cursor) : Except ReadError (String × Cursor) :=
  stringRest c.position fuel (c.advance 1) []

/-! ## Numbers -/

/-- The digits at the front of a text. -/
def digitsOf (text : List Char) : List Char := text.takeWhile Char.isDigit

/-- The value of a list of digits. -/
def digitsValue (digits : List Char) : Nat :=
  digits.foldl (fun n c => 10 * n + (c.toNat - '0'.toNat)) 0

/-- The digits of a fraction; there is none without a digit after the point. -/
def fractionOf (text : List Char) : List Char :=
  match text with
  | '.' :: rest => digitsOf rest
  | _ => []

/-- Value and length of an exponent; there is none without a digit. -/
def exponentOf (text : List Char) : Option (Int × Nat) :=
  match text with
  | c :: rest =>
      if c = 'e' ∨ c = 'E' then
        let (negative, unsigned) := Decimal.signed rest
        let digits := digitsOf unsigned
        if digits.isEmpty then none
        else
          let value : Int := digitsValue digits
          some (if negative then -value else value,
            1 + (rest.length - unsigned.length) + digits.length)
      else none
  | [] => none

/-- The number at the cursor. -/
def readNumber (limits : Limits) (c : Cursor) :
    Except ReadError (Json × Cursor) :=
  let negative := c.head? == some '-'
  let unsigned := if negative then c.rest.drop 1 else c.rest
  let whole := match unsigned with
    | '0' :: _ => ['0']
    | _ => digitsOf unsigned
  if whole.isEmpty then c.fail .noValue
  else
    let start := (if negative then 1 else 0) + whole.length
    let fraction := fractionOf (c.rest.drop start)
    let fractionLength := if fraction.isEmpty then 0 else fraction.length + 1
    match exponentOf (c.rest.drop (start + fractionLength)),
      fraction.isEmpty with
    | none, true =>
        let n : Int := digitsValue whole
        match limits.digits? with
        | some limit =>
            if limit < whole.length then
              .error (.tooManyDigits whole.length limit)
            else .ok (.int (if negative then -n else n), c.advance start)
        | none => .ok (.int (if negative then -n else n), c.advance start)
    | exponent?, _ =>
        let (exponent, exponentLength) := exponent?.getD (0, 0)
        let x := (Decimal.Scaled.mk (digitsValue (whole ++ fraction))
          (exponent - fraction.length)).toFloat
        .ok (.float (if negative then -x else x),
          c.advance (start + fractionLength + exponentLength))

/-! ## Values -/

/-- The constants with a name of their own. -/
def namedConstants : List (String × Json) :=
  [("null", .null), ("true", .bool true), ("false", .bool false),
    ("NaN", .nan 0), ("Infinity", .float (1.0 / 0.0)),
    ("-Infinity", .float (-1.0 / 0.0))]

/-- A constant at the cursor. -/
def named? (c : Cursor) : Option (Json × Cursor) :=
  namedConstants.findSome? fun (name, value) => (c.skip? name).map (value, ·)

/-- One level of nesting less. -/
def deeper (depth? : Option Nat) : Except ReadError (Option Nat) :=
  match depth? with
  | none => .ok none
  | some 0 => .error .tooDeep
  | some (n + 1) => .ok (some n)

mutual

/-- The value at the cursor. -/
def readValue (limits : Limits) (depth? : Option Nat) :
    Nat → Cursor → Except ReadError (Json × Cursor)
  | 0, c => c.fail .noValue
  | fuel + 1, c => do
      match c.head? with
      | none => c.fail .noValue
      | some '"' =>
          let (s, after) ← readString fuel c
          return (.str s, after)
      | some '[' =>
          let depth? ← deeper depth?
          let inside := (c.advance 1).skipBlanks
          match inside.head? with
          | some ']' => return (.arr [], inside.advance 1)
          | _ =>
              let (items, after) ← readItems limits depth? fuel inside
              return (.arr items, after)
      | some '{' =>
          let depth? ← deeper depth?
          let inside := (c.advance 1).skipBlanks
          match inside.head? with
          | some '}' => return (.obj [], inside.advance 1)
          | _ =>
              let (fields, after) ← readFields limits depth? fuel inside []
              return (.obj fields, after)
      | _ =>
          match named? c with
          | some found => return found
          | none => readNumber limits c

/-- The items of an array from the cursor on, with the closing bracket. -/
def readItems (limits : Limits) (depth? : Option Nat) :
    Nat → Cursor → Except ReadError (List Json × Cursor)
  | 0, c => c.fail .noValue
  | fuel + 1, c => do
      let (item, after) ← readValue limits depth? fuel c
      let after := after.skipBlanks
      match after.head? with
      | some ']' => return ([item], after.advance 1)
      | some ',' =>
          let (items, last) ← readItems limits depth? fuel
            (after.advance 1).skipBlanks
          return (item :: items, last)
      | _ => after.fail .noComma

/-- The fields of an object from the cursor on, with the closing brace. -/
def readFields (limits : Limits) (depth? : Option Nat) :
    Nat → Cursor → Fields → Except ReadError (Fields × Cursor)
  | 0, c, _ => c.fail .noPropertyName
  | fuel + 1, c, fields => do
      match c.head? with
      | some '"' =>
          let (name, after) ← readString fuel c
          let colon := after.skipBlanks
          match colon.head? with
          | some ':' =>
              let (value, after) ← readValue limits depth? fuel
                (colon.advance 1).skipBlanks
              let fields := fields.put name value
              let after := after.skipBlanks
              match after.head? with
              | some '}' => return (fields, after.advance 1)
              | some ',' =>
                  readFields limits depth? fuel
                    (after.advance 1).skipBlanks fields
              | _ => after.fail .noComma
          | _ => colon.fail .noColon
      | _ => c.fail .noPropertyName

end

/-- The value of a whole text.  No step takes more than two units of fuel for a
character, so twice the length of the text is never used up. -/
def read (limits : Limits) (text : List Char) : Except ReadError Json := do
  if text.head? == some '\uFEFF' then throw (.problemAt .byteOrderMark 0)
  let start := (Cursor.mk text 0).skipBlanks
  let (value, after) ← readValue limits limits.depth?
    (2 * text.length + 2) start
  let last := after.skipBlanks
  if last.rest.isEmpty then return value else last.fail .extraData

end GrantKeeper.Json
