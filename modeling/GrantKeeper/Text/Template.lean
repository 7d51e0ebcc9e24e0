import GrantKeeper.Decimal.Places
import GrantKeeper.Json.Display

/-!
# Messages with places for arguments

A template is text in which a percent sign begins a place: perhaps a name in
parentheses, flags, a width, a precision, and a letter that says how the
argument is shown.  Arguments are taken one after another, or by name from an
object.  `%%` is a percent sign.

Main definitions:

* `Template.Refusal`: why a template and its arguments do not go together;
* `Template.fill`: the text of a template with its arguments.
-/

namespace GrantKeeper.Text.Template

/-- Why a template cannot be filled. -/
inductive Refusal where
  /-- Too few or too many arguments, or one of the wrong kind. -/
  | mismatch
  /-- No argument has this name. -/
  | unknownName (name : String)
  /-- An argument is too big for its place. -/
  | tooBig
  /-- The template itself is faulty. -/
  | faulty (message : String)
deriving DecidableEq, Repr

/-- Arguments in order, or by name. -/
inductive Arguments where
  | inOrder (values : List Json)
  | byName (fields : Fields)

/-- The arguments that a list of values gives: a single object that is not empty
gives its fields by name. Without values a template is not filled in at all. -/
def Arguments.ofList : List Json → Option Arguments
  | [] => none
  | [.obj (field :: fields)] => some (.byName (field :: fields))
  | values => some (.inOrder values)

/-- What a place asks for besides its letter. -/
structure Form where
  left : Bool
  sign : Bool
  blank : Bool
  alternate : Bool
  zero : Bool
  width : Nat
  precision? : Option Nat

/-- A place that asks for nothing. -/
def Form.plain : Form := ⟨false, false, false, false, false, 0, none⟩

/-- The values that a place may still take. -/
structure Supply where
  arguments : Arguments
  /-- Values left to be taken in order. -/
  waiting : List Json

/-- The next value. -/
def Supply.next (s : Supply) : Except Refusal (Json × Supply) :=
  match s.waiting with
  | v :: rest => .ok (v, { s with waiting := rest })
  | [] => .error .mismatch

/-! ## Showing one argument -/

/-- Fills a text up to the width of its place.  Zeros go between the sign and
the digits. -/
def fit (form : Form) (numeric : Bool) (lead body : String) : String :=
  let missing := form.width - (lead.length + body.length)
  if form.left then lead ++ body ++ String.ofList (List.replicate missing ' ')
  else if numeric && form.zero then
    lead ++ String.ofList (List.replicate missing '0') ++ body
  else String.ofList (List.replicate missing ' ') ++ lead ++ body

/-- The sign of a number. -/
def lead (form : Form) (negative : Bool) : String :=
  if negative then "-"
  else if form.sign then "+"
  else if form.blank then " "
  else ""

/-- A text, cut at the precision. -/
def showText (form : Form) (text : String) : String :=
  let cut := match form.precision? with
    | some n => String.ofList (text.toList.take n)
    | none => text
  fit form false "" cut

/-- The whole number that a value stands for; only decimal places take
fractions, which they cut off. -/
def wholeNumber (decimal : Bool) : Json → Except Refusal Int
  | .bool b => .ok (if b then 1 else 0)
  | .int n => .ok n
  | .float x =>
      if decimal then
        match Decimal.Binary64.ofFloat x with
        | .nan => .error (.faulty "cannot convert float NaN to integer")
        | .infinite _ => .error .tooBig
        | finite => .ok ((finite.number?.map Decimal.Exact.truncate).getD 0)
      else .error .mismatch
  | .nan _ =>
      if decimal then .error (.faulty "cannot convert float NaN to integer")
        else .error .mismatch
  | _ => .error .mismatch

/-- A whole number in some base. -/
def showWhole (form : Form) (base : Nat) (mark : String) (upper : Bool)
    (n : Int) : String :=
  let digits := String.ofList (Nat.toDigits base n.natAbs)
  let digits := if upper then digits.map Char.toUpper else digits
  let digits := match form.precision? with
    | some least => Decimal.padded least digits
    | none => digits
  fit form true
    (lead form (n < 0) ++ if form.alternate then mark else "") digits

/-- The number that a value stands for. -/
def number : Json → Except Refusal Float
  | .bool b => .ok (if b then 1.0 else 0.0)
  | .int n =>
      let x := Decimal.nearestFloat n
      if x.isInf then .error .tooBig else .ok x
  | .float x => .ok x
  | .nan _ => .ok Decimal.notANumber
  | _ => .error .mismatch

/-- A number with a fraction. -/
def showNumber (form : Form) (letter : Char) (x : Float) : String :=
  let upper := letter.isUpper
  let precision := form.precision?.getD 6
  let raise (text : String) := if upper then text.map Char.toUpper else text
  match Decimal.Binary64.ofFloat x with
  | .nan => fit form true (lead form false) (raise "nan")
  | .infinite negative => fit form true (lead form negative) (raise "inf")
  | .finite negative significand exponent =>
      let body := match letter.toLower with
        | 'e' =>
            Decimal.exponentText significand exponent precision
              form.alternate "e"
        | 'f' => Decimal.fixedText significand exponent precision form.alternate
        | _ =>
            Decimal.generalText significand exponent precision
              form.alternate "e"
      fit form true (lead form negative) (raise body)

/-- The characters of a quoted text outside the ASCII range, by number. -/
def asciiOnly (text : String) : String :=
  String.ofList (text.toList.flatMap fun c =>
    if c.toNat < 0x80 then [c]
    else if c.toNat < 0x100 then '\\' :: 'x' :: hex 2 c.toNat
    else if c.toNat < 0x10000 then '\\' :: 'u' :: hex 4 c.toNat
    else '\\' :: 'U' :: hex 8 c.toNat)

/-- A single character, given as such or by its number. -/
def showCharacter (form : Form) : Json → Except Refusal String
  | .str s =>
      if s.length = 1 then .ok (fit form false "" s) else .error .mismatch
  | .int n =>
      if 0 ≤ n ∧ n < 0x110000 then
        .ok (fit form false "" (Char.ofNat n.toNat).toString)
      else .error .tooBig
  | .bool b => .ok (fit form false "" (if b then "\x01" else "\x00"))
  | _ => .error .mismatch

/-- An argument as its letter asks; no other letter is known. -/
def showArgument? (form : Form) (letter : Char) (value : Json) :
    Option (Except Refusal String) :=
  match letter with
  | 's' => some (.ok (showText form value.shown))
  | 'r' => some (.ok (showText form value.inner))
  | 'a' => some (.ok (showText form (asciiOnly value.inner)))
  | 'd' | 'i' | 'u' =>
      some ((wholeNumber true value).map (showWhole form 10 "" false))
  | 'x' => some ((wholeNumber false value).map (showWhole form 16 "0x" false))
  | 'X' => some ((wholeNumber false value).map (showWhole form 16 "0X" true))
  | 'o' => some ((wholeNumber false value).map (showWhole form 8 "0o" false))
  | 'e' | 'E' | 'f' | 'F' | 'g' | 'G' =>
      some ((number value).map (showNumber form letter))
  | 'c' => some (showCharacter form value)
  | _ => none

/-! ## Reading a place -/

/-- The flags at the front of a place. -/
def flags (form : Form) : List Char → Form × List Char
  | '-' :: rest => flags { form with left := true } rest
  | '+' :: rest => flags { form with sign := true } rest
  | ' ' :: rest => flags { form with blank := true } rest
  | '#' :: rest => flags { form with alternate := true } rest
  | '0' :: rest => flags { form with zero := true } rest
  | text => (form, text)

/-- The greatest width. -/
def longestWidth : Nat := 0x7FFFFFFFFFFFFFFF

/-- The greatest precision. -/
def longestPrecision : Nat := 0x7FFFFFFF

/-- A number in a place: digits, or a star for the next argument. -/
def measure (what : String) (limit : Nat) (s : Supply) :
    List Char → Except Refusal (Option Int × Supply × List Char)
  | '*' :: rest => do
      let (value, s) ← s.next
      match value with
      | .int n =>
          if limit < n.natAbs then throw .tooBig
          else return (some n, s, rest)
      | .bool b => return (some (if b then 1 else 0), s, rest)
      | _ => throw .mismatch
  | text =>
      let digits := text.takeWhile Char.isDigit
      if digits.isEmpty then .ok (none, s, text)
      else
        let n : Nat :=
          digits.foldl (fun n c => 10 * n + (c.toNat - '0'.toNat)) 0
        if limit < n then .error (.faulty (what ++ " too big"))
        else .ok (some (n : Int), s, text.drop digits.length)

/-- The name in parentheses at the front of a place, where parentheses inside
are balanced. -/
def nameRest (depth : Nat) (name : List Char) :
    List Char → Option (String × List Char)
  | [] => none
  | '(' :: rest => nameRest (depth + 1) ('(' :: name) rest
  | ')' :: rest =>
      match depth with
      | 0 => some (String.ofList name.reverse, rest)
      | depth + 1 => nameRest depth (')' :: name) rest
  | c :: rest => nameRest depth (c :: name) rest

/-- The value for a place and the place without its name. -/
def named (s : Supply) : List Char → Except Refusal (Supply × List Char)
  | '(' :: rest =>
      match s.arguments with
      | .inOrder _ => .error .mismatch
      | .byName fields =>
          match nameRest 0 [] rest with
          | none => .error (.faulty "incomplete format key")
          | some (name, rest) =>
              match fields.lookup name with
              | some value => .ok ({ s with waiting := [value] }, rest)
              | none => .error (.unknownName name)
  | text => .ok (s, text)

/-- Reads a place behind its percent sign, up to its letter. -/
def place (s : Supply) (text : List Char) :
    Except Refusal (Form × Supply × List Char) := do
  let (s, text) ← named s text
  let (form, text) := flags .plain text
  let (width?, s, text) ← measure "width" longestWidth s text
  let width := width?.getD 0
  let form :=
    { form with width := width.natAbs, left := form.left || width < 0 }
  let (form, s, text) ← match text with
    | '.' :: rest => do
        let (precision?, s, rest) ← measure "precision" longestPrecision s rest
        pure ({ form with precision? := some (precision?.getD 0).toNat },
          s, rest)
    | text => pure (form, s, text)
  let text := match text with
    | 'h' :: rest | 'l' :: rest | 'L' :: rest => rest
    | text => text
  return (form, s, text)

/-- The complaint about an unknown letter. -/
def unknownLetter (letter : Char) (position : Nat) : String :=
  let shown := if 31 ≤ letter.toNat ∧ letter.toNat ≤ 126 then letter else '?'
  "unsupported format character '" ++ shown.toString ++ "' (0x" ++
    String.ofList (Nat.toDigits 16 letter.toNat) ++ ") at index " ++
      Decimal.digitsText position

/-- Fills the rest of a template.  Every step consumes a character, so its
length is fuel enough. -/
def fillRest (size : Nat) :
    Nat → Supply → List Char → Except Refusal (List Char × Supply)
  | 0, s, _ => .ok ([], s)
  | _, s, [] => .ok ([], s)
  | fuel + 1, s, '%' :: '%' :: rest => do
      let (text, s) ← fillRest size fuel s rest
      return ('%' :: text, s)
  | fuel + 1, s, '%' :: rest => do
      let (form, s, rest) ← place s rest
      match rest with
      | [] => throw (.faulty "incomplete format")
      | letter :: rest =>
          let (value, s) ← s.next
          match showArgument? form letter value with
          | none =>
              throw (.faulty (unknownLetter letter (size - rest.length - 1)))
          | some shown =>
              let shown ← shown
              let (text, s) ← fillRest size fuel s rest
              return (shown.toList ++ text, s)
  | fuel + 1, s, c :: rest => do
      let (text, s) ← fillRest size fuel s rest
      return (c :: text, s)

/-- The text of a template with its arguments, none of which may be left
over. -/
def fill (template : String) (arguments : Arguments) :
    Except Refusal String := do
  let chars := template.toList
  let waiting := match arguments with
    | .inOrder values => values
    | .byName fields => [.obj fields]
  let (text, s) ← fillRest chars.length chars.length ⟨arguments, waiting⟩ chars
  match arguments, s.waiting with
  | .inOrder _, _ :: _ => throw .mismatch
  | _, _ => return String.ofList text

end GrantKeeper.Text.Template
