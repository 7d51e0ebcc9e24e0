import GrantKeeper.Time.Timestamp

/-!
# Dates by pattern

A pattern is copied to the output, except that a percent sign with a letter
stands for a part of the date.  Names are English.  Between sign and letter may
stand marks, a width, and a modifier: the marks say how numbers are filled up
and in which case names are written, the width says to how many characters, and
a modifier asks for another notation, of which there is none.  A letter without
a meaning, or with a modifier it does not take, is copied together with all that
stands before it.

Main definitions:

* `Style`: what marks and width ask for;
* `Part`, `part?`: what letters stand for;
* `formatted`: fills a pattern in.
-/

namespace GrantKeeper.Time

/-- Names of the days of the week, Sunday first. -/
def dayNames : List String :=
  ["Sunday", "Monday", "Tuesday", "Wednesday", "Thursday", "Friday", "Saturday"]

/-- Names of the months. -/
def monthNames : List String :=
  ["January", "February", "March", "April", "May", "June", "July", "August",
    "September", "October", "November", "December"]

/-- Fills up with leading blanks to two characters. -/
def blankPadded (n : Nat) : String :=
  if n < 10 then " " ++ Decimal.digitsText n else Decimal.digitsText n

/-- Year and number of the week of a date; weeks begin on Monday and belong to
the year of their Thursday. -/
def isoWeek (d : Date) : Int × Nat :=
  let mondayBased : Int := (d.toDays + 3) % 7
  let thursday := Date.ofDays (d.toDays - mondayBased + 3)
  (thursday.year, (thursday.dayOfYear - 1) / 7 + 1)

/-! ## What letters stand for -/

/-- A part of a date, by how it is written. -/
inductive Part where
  /-- A number with this many digits. -/
  | number (digits : Nat) (value : Int)
  /-- A number that is filled up with blanks unless marks say otherwise. -/
  | blankNumber (digits : Nat) (value : Int)
  /-- A number that only a width fills up. -/
  | plainNumber (value : Int)
  /-- A name; the mark for the other case raises it. -/
  | name (text : String)
  /-- A name in capitals, which the mark for the other case lowers. -/
  | capitals (text : String)
  /-- A text without case, or one that is written as it is. -/
  | text (text : String)
  /-- Several parts with marks between them. -/
  | composed (text : String)
  /-- The name of the clock, which no mark changes. -/
  | zone (text : String)
  /-- How far the clock is ahead of universal time: a sign and a number. -/
  | ahead (value : Int)
deriving DecidableEq, Repr

/-- The part of a date that a letter stands for. -/
def part? (t : Timestamp) (letter : Char) : Option Part :=
  let d := t.date
  let two := Decimal.paddedNat 2
  let year := Decimal.intText d.year
  let dayName := dayNames.getD d.weekday ""
  let monthName := monthNames.getD (d.month - 1) ""
  let short (name : String) := String.ofList (name.toList.take 3)
  let twelve := if t.hour % 12 = 0 then 12 else t.hour % 12
  let half := if t.hour < 12 then "AM" else "PM"
  let time := two t.hour ++ ":" ++ two t.minute ++ ":" ++ two t.second
  let american :=
    two d.month ++ "/" ++ two d.day ++ "/" ++ two (d.year % 100).toNat
  match letter with
  | 'Y' => some (.number 1 d.year)
  | 'C' => some (.number 1 (d.year.fdiv 100))
  | 'y' => some (.number 2 (d.year % 100))
  | 'm' => some (.number 2 d.month)
  | 'd' => some (.number 2 d.day)
  | 'e' => some (.blankNumber 2 d.day)
  | 'H' => some (.number 2 t.hour)
  | 'k' => some (.blankNumber 2 t.hour)
  | 'I' => some (.number 2 twelve)
  | 'l' => some (.blankNumber 2 twelve)
  | 'M' => some (.number 2 t.minute)
  | 'S' => some (.number 2 t.second)
  | 'p' => some (.capitals half)
  | 'P' => some (.text (half.map Char.toLower))
  | 'j' => some (.number 3 d.dayOfYear)
  | 'a' => some (.name (short dayName))
  | 'A' => some (.name dayName)
  | 'b' | 'h' => some (.name (short monthName))
  | 'B' => some (.name monthName)
  | 'w' => some (.number 1 d.weekday)
  | 'u' => some (.number 1 (if d.weekday = 0 then 7 else d.weekday : Nat))
  | 'U' => some (.number 2 ((d.dayOfYear + 6 - d.weekday) / 7 : Nat))
  | 'W' => some (.number 2 ((d.dayOfYear + 6 - (d.weekday + 6) % 7) / 7 : Nat))
  | 'V' => some (.number 2 (isoWeek d).2)
  | 'G' => some (.number 1 (isoWeek d).1)
  | 'g' => some (.number 2 ((isoWeek d).1 % 100))
  | 'c' =>
      some (.composed (short dayName ++ " " ++ short monthName ++ " " ++
        blankPadded d.day ++
      " " ++ time ++ " " ++ year))
  | 'x' | 'D' => some (.composed american)
  | 'X' | 'T' => some (.composed time)
  | 'F' => some (.composed (year ++ "-" ++ two d.month ++ "-" ++ two d.day))
  | 'R' => some (.composed (two t.hour ++ ":" ++ two t.minute))
  | 'r' =>
      some (.composed (two twelve ++ ":" ++ two t.minute ++ ":" ++
        two t.second ++ " " ++ half))
  | 's' => some (.plainNumber (t.micros.fdiv 1000000))
  | 'z' => some (.ahead 0)
  | 'Z' => some (.zone "UTC")
  | 'n' => some (.text "\n")
  | 't' => some (.text "\t")
  | '%' => some (.text "%")
  | _ => none

/-- Letters that take neither modifier, and letters that take only one of
them. -/
def takesModifier (letter modifier : Char) : Bool :=
  if ['a', 'A', 'D', 'F'].contains letter then false
  else if ['c', 'x', 'X', 'Y'].contains letter then modifier = 'E'
  else if "bBhdegGHIjklmMSUVWw".toList.contains letter then modifier = 'O'
  else true

/-! ## How parts are written -/

/-- What numbers are filled up with. -/
inductive Fill where
  | blanks
  | zeros
  | nothing
deriving DecidableEq, Repr

/-- What the marks and the width before a letter ask for. -/
structure Style where
  fill? : Option Fill
  upper : Bool
  otherCase : Bool
  width : Nat
deriving Repr

/-- A text behind a number of equal characters. -/
structure Piece where
  count : Nat
  filler : Char
  text : String
deriving Repr

namespace Piece

/-- The number of characters. -/
def size (p : Piece) : Nat := p.count + p.text.length

/-- All characters. -/
def full (p : Piece) : String :=
  String.ofList (List.replicate p.count p.filler) ++ p.text

end Piece

namespace Style

/-- What a mark adds to a style. -/
def marked (s : Style) (mark : Char) : Style :=
  match mark with
  | '_' => { s with fill? := some .blanks }
  | '0' => { s with fill? := some .zeros }
  | '-' => { s with fill? := some .nothing }
  | '^' => { s with upper := true }
  | _ => { s with otherCase := true }

/-- A text filled up to the width. -/
def widened (s : Style) (text : String) : Piece :=
  ⟨s.width - text.length, if s.fill? = some .zeros then '0' else ' ', text⟩

/-- A number filled up to some digits, of which a sign is one. -/
def number (s : Style) (digits : Nat) (n : Int) : List Piece :=
  let sign := if n < 0 then "-" else ""
  let size := Decimal.digitsText n.natAbs
  let missing := digits - (sign ++ size).length
  if missing = 0 ∨ s.fill? = some .nothing then [s.widened (sign ++ size)]
  else if s.fill? = some .blanks then [⟨missing, ' ', sign ++ size⟩]
  else [⟨0, ' ', sign⟩, ⟨missing, '0', size⟩]

/-- A text in capitals if the style asks for them. -/
def raised (s : Style) (text : String) : String :=
  if s.upper then text.map Char.toUpper else text

/-- A part of a date in a style. -/
def written (s : Style) : Part → List Piece
  | .number digits n => s.number (max digits s.width) n
  | .blankNumber digits n =>
      { s with fill? := some (s.fill?.getD .blanks) }.number
        (max digits s.width) n
  | .plainNumber n => s.number 1 n
  | .name text =>
      [s.widened ({ s with upper := s.upper || s.otherCase }.raised text)]
  | .capitals text =>
      [s.widened (if s.otherCase then text.map Char.toLower else text)]
  | .text text => [s.widened text]
  | .composed text => [s.widened (s.raised text)]
  | .zone text =>
      [if s.fill? = some .nothing then ⟨0, ' ', text⟩ else s.widened text]
  | .ahead n => s.widened "+" :: s.number (max 4 s.width) n

end Style

/-! ## Patterns -/

/-- The character is a mark. -/
def isMark (c : Char) : Bool := ['_', '-', '0', '^', '#'].contains c

/-- What stands between a percent sign and its letter, the letter, and what
follows. -/
structure Directive where
  style : Style
  source : List Char
  modifier? : Option Char
  letter? : Option Char
  rest : List Char

/-- The directive at the front of a text that follows a percent sign. -/
def Directive.read (text : List Char) : Directive :=
  let marks := text.takeWhile isMark
  let afterMarks := text.dropWhile isMark
  let digits := afterMarks.takeWhile Char.isDigit
  let afterWidth := afterMarks.dropWhile Char.isDigit
  let modifier? := afterWidth.head?.filter fun c => c = 'E' ∨ c = 'O'
  let afterModifier :=
    if modifier?.isSome then afterWidth.drop 1 else afterWidth
  let width := digits.foldl (fun n c => 10 * n + (c.toNat - 48)) 0
  { style := { marks.foldl Style.marked ⟨none, false, false, 0⟩ with width }
    source := '%' :: marks ++ digits ++ modifier?.toList
    modifier?
    letter? := afterModifier.head?
    rest := afterModifier.drop 1 }

theorem Directive.length_rest (text : List Char) :
    (read text).rest.length ≤ text.length := by
  have marks := (List.dropWhile_suffix isMark (l := text)).length_le
  have digits :=
    (List.dropWhile_suffix Char.isDigit (l := text.dropWhile isMark)).length_le
  simp only [read]
  split <;> simp only [List.length_drop] <;> omega

/-- A directive copied as it stands.  The mark for the other case raises it if
its letter names a month. -/
def Directive.copied (d : Directive) : List Piece :=
  let month := d.letter?.any fun letter => ['b', 'B', 'h'].contains letter
  let style :=
    { d.style with upper := d.style.upper || (month && d.style.otherCase) }
  [style.widened (style.raised (String.ofList (d.source ++ d.letter?.toList)))]

/-- What a directive stands for. -/
def Directive.pieces (d : Directive) (t : Timestamp) : List Piece :=
  match d.letter? with
  | none => d.copied
  | some letter =>
      match part? t letter with
      | none => d.copied
      | some part =>
          if d.modifier?.all (takesModifier letter) then d.style.written part
            else d.copied

/-- What a pattern stands for, in pieces. -/
def pieces (t : Timestamp) (pattern : List Char) : List Piece :=
  match pattern with
  | [] => []
  | c :: rest =>
      if c = '%' then
        (Directive.read rest).pieces t ++ pieces t (Directive.read rest).rest
      else ⟨0, ' ', c.toString⟩ :: pieces t rest
termination_by pattern.length
decreasing_by
  · have := Directive.length_rest rest
    simp only [List.length_cons]; omega
  · simp only [List.length_cons]; omega

/-- The room for what a pattern of a certain length stands for: 1024, doubled
until it is 256 times the length. -/
def room (length : Nat) : Nat := 1024 * Nat.nextPowerOfTwo ((length + 3) / 4)

/-- Fills a pattern in.  What does not fit into its room leaves nothing. -/
def formatted (t : Timestamp) (pattern : String) : String :=
  let all := pieces t pattern.toList
  let size := all.foldl (fun size p => size + p.size) 0
  if size < room pattern.length then String.join (all.map Piece.full) else ""

end GrantKeeper.Time
