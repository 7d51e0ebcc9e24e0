import GrantKeeper.Log.Record

/-!
# Loggers

Loggers are known by dotted names, and all descend from the root.  The parent of
a logger is the nearest logger whose name, with a dot behind it, its own begins
with.  A logger without a level of its own has the level of its nearest
ancestor.  A record that a logger lets through goes to the handlers of that
logger and of all its ancestors, whatever their levels.

Main definitions:

* `Registry.lineage`: a logger and its ancestors;
* `Registry.opened`: the registry after a logger was asked for;
* `Registry.emit`: the lines that a record makes.
-/

namespace GrantKeeper.Log

/-- The level of a logger, zero if it has none of its own, whether it has a
handler, and its parent; the root has the empty name. -/
structure Logger where
  level : Int
  handled : Bool
  parent : String
deriving DecidableEq, Repr

/-- The loggers by name. -/
abbrev Registry := List (String × Logger)

namespace Registry

/-- The loggers of a program that has just begun: the root, without a
handler. -/
def initial : Registry := [("", ⟨30, false, ""⟩)]

/-- The name under which a logger is kept. -/
def canonical (name : String) : String := if name = "root" then "" else name

/-- The name under which a logger signs. -/
def signature (name : String) : String :=
  if canonical name = "" then "root" else name

/-- The name that a value gives for a logger; nothing stands for the root. -/
def nameOf (value : Json) : Except Malformed String :=
  match value with
  | .str name => .ok name
  | value => if value.truthy then .error .notAText else .ok ""

/-- Gives a logger its state. -/
def put (loggers : Registry) (name : String) (logger : Logger) : Registry :=
  match loggers with
  | [] => [(name, logger)]
  | (n, l) :: rest =>
      if n == name then (n, logger) :: rest else (n, l) :: put rest name logger

/-- The state of a logger. -/
def get? (loggers : Registry) (name : String) : Option Logger :=
  loggers.lookup (canonical name)

/-- The parts before the dots of a reversed name, the longest first.  A dot in
front of the name counts for nothing, and so does a dot right before one that
counts. -/
def beforeDots : List Char → List String
  | [] => []
  | c :: rest =>
      if c = '.' then
        match rest with
        | [] => []
        | d :: more => String.ofList (d :: more).reverse :: beforeDots more
      else beforeDots rest

/-- The names of the loggers that a logger may descend from, the nearest
first. -/
def forebears (name : String) : List String := beforeDots name.toList.reverse

/-- The parent of a new logger: the nearest of those that there are, or the
root. -/
def parentFor (loggers : Registry) (name : String) : String :=
  ((forebears name).find? fun n => (loggers.lookup n).isSome).getD ""

/-- Makes a new logger the parent of those that may descend from it, unless the
name of the parent they have begins with its name. -/
def adopted (loggers : Registry) (name : String) : Registry :=
  loggers.map fun (n, l) =>
    if (forebears n).contains name &&
        !name.toList.isPrefixOf (signature l.parent).toList then
      (n, { l with parent := name })
    else (n, l)

/-- Asks for a logger.  One without a handler gets one, and the level of
information. -/
def opened (loggers : Registry) (name : String) : Registry :=
  let name := canonical name
  match loggers.lookup name with
  | some logger =>
      if logger.handled then loggers
        else loggers.put name { logger with level := 20, handled := true }
  | none => (loggers.adopted name).put name ⟨20, true, loggers.parentFor name⟩

/-- Gives a logger a level. -/
def setLevel (loggers : Registry) (name : String) (level : Int) : Registry :=
  match loggers.get? name with
  | some logger => loggers.put (canonical name) { logger with level }
  | none => loggers

/-- The ancestors of a logger, at most `count`; the root is the last. -/
def ancestors (loggers : Registry) (count : Nat) (name : String) :
    List String :=
  match count with
  | 0 => []
  | count + 1 =>
      if name = "" then []
      else
        let parent := ((loggers.lookup name).map Logger.parent).getD ""
        parent :: ancestors loggers count parent

/-- A logger and its ancestors, the nearest first.  No logger has more ancestors
than there are loggers. -/
def lineage (loggers : Registry) (name : String) : List String :=
  canonical name :: loggers.ancestors loggers.length (canonical name)

/-- The level that counts for a logger. -/
def effectiveLevel (loggers : Registry) (name : String) : Int :=
  ((loggers.lineage name).findSome? fun n =>
    match loggers.get? n with
    | some logger => if logger.level = 0 then none else some logger.level
    | none => none).getD 0

/-- A logger lets a record of this level through.  Level zero and below is never
let through. -/
def isEnabled (loggers : Registry) (name : String) (level : Int) : Bool :=
  decide (0 < level) && decide (loggers.effectiveLevel name ≤ level)

/-- How many handlers a record of a logger reaches. -/
def handlers (loggers : Registry) (name : String) : Nat :=
  (loggers.lineage name).countP fun n => (loggers.get? n).any Logger.handled

/-- The records that reach a handler when a logger is given one. -/
def emit (loggers : Registry) (name : String) (record : Record) (level : Int) :
    List Record :=
  if loggers.isEnabled name level then
    List.replicate (loggers.handlers name)
      { record with logger := .str (signature name) }
  else []

end Registry

/-! ## Free records -/

/-- The tags that a record can be given, and the wish to add the failure at
hand. -/
def knownFields : List String :=
  ["resource", "role", "member", "stage", "request_id", "exc_info"]

/-- Writes a record with tags given as fields while `failure?` is being handled.
The request is known by `requestId` unless the fields say otherwise. -/
def operation (loggers : Registry) (name requestId : String)
    (level message : Json) (fields : Fields)
    (failure? : Option String) : Except Malformed (List Record) := do
  if let some (unknown, _) := fields.find? fun (field, _) =>
    !knownFields.contains field then
    throw (.unknownField unknown)
  let number ← match level with
    | .int n => pure n
    | .bool b => pure (if b then 1 else 0)
    | _ => throw .notAnInteger
  let tags : Tags := {
    requestId := (fields.get "request_id").orElse (.str requestId)
    resource := fields.get "resource"
    role := fields.get "role"
    member := fields.get "member"
    stage := fields.get "stage" }
  let exception? := if (fields.get "exc_info").truthy then failure? else none
  return loggers.emit name ⟨.str name, ← levelName level, message.shown, tags,
    exception?⟩ number

/-- Writes a record of the program itself on a binding at a stage. -/
def onBinding (loggers : Registry) (name requestId : String)
    (severity : Severity) (message : String)
    (binding : Binding) (stage : Stage) : List Record :=
  loggers.emit name ⟨.str name, .str severity.name, message,
    .ofBinding requestId binding stage.text, none⟩ severity.level

end GrantKeeper.Log
