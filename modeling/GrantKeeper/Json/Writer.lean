import GrantKeeper.Json.Basic
import GrantKeeper.Decimal.Notation
import GrantKeeper.Text.Quoted

/-!
# Written JSON

Text is pure ASCII: a character outside the printable ASCII range is written as
one or two four-digit escapes, of which five have letters instead.  Infinities
and not-a-number are written by name.  Items are separated by a comma and a
blank, or stand on lines of their own indented by two blanks a level.
-/

namespace GrantKeeper.Json

/-- A four-digit escape. -/
def unitEscape (n : Nat) : List Char := '\\' :: 'u' :: Text.hex 4 n

/-- One character of a string. -/
def writtenChar (c : Char) : List Char :=
  if c = '"' then ['\\', '"']
  else if c = '\\' then ['\\', '\\']
  else if c = '\n' then ['\\', 'n']
  else if c = '\r' then ['\\', 'r']
  else if c = '\t' then ['\\', 't']
  else if c = '\x08' then ['\\', 'b']
  else if c = '\x0c' then ['\\', 'f']
  else if ' ' ≤ c ∧ c ≤ '~' then [c]
  else if c.toNat < 0x10000 then unitEscape c.toNat
  else
    let n := c.toNat - 0x10000
    unitEscape (0xD800 + n / 0x400) ++ unitEscape (0xDC00 + n % 0x400)

/-- A string between double quotes. -/
def writtenString (s : String) : String :=
  String.ofList ('"' :: s.toList.flatMap writtenChar ++ ['"'])

/-- A double; the numbers without digits have names. -/
def writtenFloat (x : Float) : String :=
  match Decimal.Binary64.ofFloat x with
  | .nan => "NaN"
  | .infinite negative => if negative then "-Infinity" else "Infinity"
  | finite => finite.text

/-- Joins the parts of an array or object, on lines of their own when `depth?`
gives their level. -/
def joined (opening closing : String) (depth? : Option Nat)
    (parts : List String) : String :=
  let newline (level : Nat) :=
    "\n" ++ String.ofList (List.replicate (2 * level) ' ')
  match parts, depth? with
  | [], _ => opening ++ closing
  | _, none => opening ++ ", ".intercalate parts ++ closing
  | _, some depth =>
      opening ++ newline (depth + 1) ++
        ("," ++ newline (depth + 1)).intercalate parts ++
        newline depth ++ closing

/-- The text of a value, over several lines when a depth is given. -/
def writtenAt (depth? : Option Nat) : Json → String
  | .null => "null"
  | .bool b => if b then "true" else "false"
  | .int n => Decimal.intText n
  | .float x => writtenFloat x
  | .nan _ => "NaN"
  | .str s => writtenString s
  | .arr items => joined "[" "]" depth? (itemTexts (depth?.map (· + 1)) items)
  | .obj fields =>
      joined "\x7b" "\x7d" depth? (fieldTexts (depth?.map (· + 1)) fields)
where
  itemTexts (depth? : Option Nat) : List Json → List String
    | [] => []
    | x :: xs => writtenAt depth? x :: itemTexts depth? xs
  fieldTexts (depth? : Option Nat) : Fields → List String
    | [] => []
    | (name, x) :: xs =>
        (writtenString name ++ ": " ++ writtenAt depth? x) ::
          fieldTexts depth? xs

/-- A value on one line. -/
def written (value : Json) : String := value.writtenAt none

/-- A value over several lines. -/
def indented (value : Json) : String := value.writtenAt (some 0)

end GrantKeeper.Json
