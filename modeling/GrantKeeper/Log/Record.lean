import GrantKeeper.Fault.Basic
import GrantKeeper.Json.Display
import GrantKeeper.Json.Writer
import GrantKeeper.Policy.Basic
import GrantKeeper.Time.Pattern

/-!
# Log records

A record says which logger wrote it, how severe it is and what happened, and is
tagged with the binding and the stage it belongs to.  It is written as one line
of JSON that leaves out the tags it lacks.

Main definitions:

* `Severity`: the severities that the program itself uses;
* `levelName`: the name of any level;
* `Record`, `Record.fields`, `Record.line`: a record and its written form.
-/

namespace GrantKeeper

/-- The severities of the program's own records. -/
inductive Severity where
  | debug
  | info
  | warning
deriving DecidableEq, Repr

namespace Severity

/-- The level of a severity. -/
def level : Severity → Int
  | .debug => 10
  | .info => 20
  | .warning => 30

/-- The name of a severity. -/
def name : Severity → String
  | .debug => "DEBUG"
  | .info => "INFO"
  | .warning => "WARNING"

end Severity

namespace Log

/-- The levels that have a name. -/
def namedLevels : List (Int × String) :=
  [(0, "NOTSET"), (10, "DEBUG"), (20, "INFO"), (30, "WARNING"), (40, "ERROR"),
    (50, "CRITICAL")]

/-- Names by which a level can be given. -/
def levelsByName : List (String × Int) :=
  [("CRITICAL", 50), ("FATAL", 50), ("ERROR", 40), ("WARN", 30),
    ("WARNING", 30), ("INFO", 20), ("DEBUG", 10), ("NOTSET", 0)]

/-- The name of a level.  The name of a named level stands for that level in
turn. -/
def levelName (level : Json) : Except Malformed Json :=
  if !level.isKey then .error .notAKey
  else
    match namedLevels.find? fun (n, _) => level.same (.int n) with
    | some (_, name) => .ok (.str name)
    | none =>
        match levelsByName.find? fun (name, _) => level.same (.str name) with
        | some (_, n) => .ok (.int n)
        | none => .ok (.str ("Level " ++ level.shown))

/-- The level that a value gives: a whole number, or the name of a level. -/
def levelOf : Json → Outcome Int
  | .int n => .ok n
  | .bool b => .ok (if b then 1 else 0)
  | .str name =>
      match levelsByName.lookup name with
      | some n => .ok n
      | none => .error (.value ("Unknown level: " ++ Text.quoted name))
  | _ => .error (.malformed .notAnInteger)

/-- The tags of a record, null where it lacks one. -/
structure Tags where
  requestId : Json
  resource : Json
  role : Json
  member : Json
  stage : Json
deriving Repr, Inhabited

/-- The tags of a record on a binding at a stage. -/
def Tags.ofBinding (requestId : String) (b : Binding) (stage : String) : Tags :=
  ⟨.str requestId, .str b.resource, .str b.role, .str b.member, .str stage⟩

/-- A record. -/
structure Record where
  logger : Json
  level : Json
  message : String
  tags : Tags
  exception? : Option String
deriving Repr, Inhabited

namespace Record

/-- A tag that is left out when it is null. -/
def tag (name : String) (value : Json) : Fields :=
  match value with
  | .null => []
  | value => [(name, value)]

/-- The fields of a record, all but its time. -/
def fields (r : Record) : Fields :=
  [("level", r.level), ("logger", r.logger), ("message", .str r.message)] ++
    tag "request_id" r.tags.requestId ++ tag "resource" r.tags.resource ++
    tag "role" r.tags.role ++ tag "member" r.tags.member ++
      tag "stage" r.tags.stage ++
    tag "exception" ((r.exception?.map Json.str).getD .null)

/-- The line of a record with the text of its time. -/
def line (r : Record) (time : String) : String :=
  (Json.obj (("timestamp", .str time) :: r.fields)).written

end Record

/-! ## The time of a record -/

/-- A whole number of milliseconds, as a number shows it. -/
def milliseconds : Json → Outcome Int
  | .bool b => .ok (if b then 1 else 0)
  | .int n => .ok n
  | .float x => match Decimal.Binary64.ofFloat x with
      | .nan => .error (.value "cannot convert float NaN to integer")
      | .infinite _ => .error (.malformed .tooBig)
      | finite => .ok ((finite.number?.map Decimal.Exact.truncate).getD 0)
  | .nan _ => .error (.value "cannot convert float NaN to integer")
  | _ => .error (.malformed .notAnArgument)

/-- The second in which a number of seconds after 1970 falls. -/
def wholeSecond : Json → Outcome Int
  | .bool b => .ok (if b then 1 else 0)
  | .int n => .ok n
  | .float x => match (Decimal.Binary64.ofFloat x).floor? with
      | some n => .ok n
      | none => .error (.malformed .tooBig)
  | .nan _ => .error (.value "Invalid value NaN (not a number)")
  | _ => .error (.malformed .notANumber)

/-- The point of time that a number of seconds after 1970 is on the calendar of
the system.  The number has to fit a signed word of 64 bits, and the year one of
32 bits. -/
def systemTime (second : Int) : Outcome Time.Timestamp :=
  let t : Time.Timestamp := .utc (second * 1000000)
  if !Json.fitsWord second then .error (.malformed .tooBig)
  else if t.date.year < -0x80000000 + 1900 ∨
    0x80000000 + 1900 ≤ t.date.year then
    .error (.malformed .unreadableFile)
  else if 0x80000000 ≤ t.date.year then .error (.malformed .tooBig)
  else .ok t

/-- Milliseconds with three digits; the sign counts as one. -/
def millisecondsText (n : Int) : String :=
  if n < 0 then "-" ++ Decimal.paddedNat 2 n.natAbs
    else Decimal.paddedNat 3 n.natAbs

/-- The text of the time of a record: by a pattern, or else to the
millisecond. -/
def timeText (pattern created msecs : Json) : Outcome String := do
  let t ← systemTime (← wholeSecond created)
  if pattern.truthy then
    match pattern with
    | .str pattern =>
        if pattern.toList.contains '\x00' then
          throw (.value "embedded null character")
        return Time.formatted t pattern
    | _ => throw (.malformed .notAText)
  else
    return Time.formatted t "%Y-%m-%d %H:%M:%S" ++ "," ++
      millisecondsText (← milliseconds msecs)

end Log

end GrantKeeper
