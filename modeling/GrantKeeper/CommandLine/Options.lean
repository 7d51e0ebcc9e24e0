import GrantKeeper.CommandLine.Word
import GrantKeeper.Decimal.Reader
import GrantKeeper.Fault.Basic
import GrantKeeper.Text.Blank

/-!
# The options of a command

A command line is read from left to right.  The first argument that no flag
takes is the operation; of two values for one flag the later one counts; the
flag for help stops the reading at once.  Only at the end it is asked whether
something is missing, and then whether words were left over.

The value of a flag is a text, save for one case: in the earlier dialect a
separator attached to a flag gives it the empty list of values.  It counts as
given, and is refused by whoever needs a text.

Main definitions:

* `Options`, `Options.read`: the options that a command line gives;
* `Stop`: why there are none.
-/

namespace GrantKeeper.CommandLine

/-- The options of a command; without a timeout that is null. -/
structure Options where
  bucket : Json
  role : Json
  member : Json
  config : Json
  timeout : Json
  operation : Operation
deriving Repr

/-- Why the reading of a command line stopped. -/
inductive Stop where
  /-- Somebody asked for help. -/
  | help
  | usage (error : UsageError)
deriving DecidableEq, Repr

/-- What was read of a command line so far. -/
structure Draft where
  bucket? : Option Json
  role? : Option Json
  member? : Option Json
  config : Json
  timeout : Json
  operation? : Option Operation
  surplus : List String
deriving Repr

namespace Draft

/-- Nothing was read. -/
def empty : Draft := ⟨none, none, none, .str "\x7b\x7d", .null, none, []⟩

/-- The number of seconds that a text gives, in digits of any script. -/
def seconds? (text : String) : Option Float :=
  Decimal.readFloat? Text.digitValue? (Text.trimmed Text.isBlank text.toList)

/-- The value that a text gives to a flag. -/
def valueOf (dialect : Dialect) (flag : Flag) (text : String) :
    Except Stop Json :=
  if dialect = .earlier ∧ text = Word.separatorText then .ok (.arr [])
  else if flag = .timeout then
    match seconds? text with
    | some time => .ok (.float time)
    | none => .error (.usage (.unreadableTimeout text))
  else .ok (.str text)

/-- Takes a text for a flag. -/
def take (d : Draft) (dialect : Dialect) (flag : Flag) (text : String) :
    Except Stop Draft := do
  let value ← valueOf dialect flag text
  match flag with
  | .help => throw .help
  | .bucket => return { d with bucket? := some value }
  | .role => return { d with role? := some value }
  | .member => return { d with member? := some value }
  | .config => return { d with config := value }
  | .timeout => return { d with timeout := value }

/-- Takes the operation. -/
def operate (d : Draft) (text : String) : Except Stop Draft :=
  match Operation.ofText? text with
  | some operation => .ok { d with operation? := some operation }
  | none => .error (.usage (.unknownOperation text))

/-- Leaves a word over. -/
def leave (d : Draft) (text : String) : Draft :=
  { d with surplus := d.surplus ++ [text] }

/-- Where letters behind the letter for help lead.  They are flags too, and a
flag that takes a value finds it in the letters behind it or in the argument
that follows.  In the later dialect the letters end with one that is no flag,
which is left over. -/
def helpAmong (dialect : Dialect) (followed : Bool) : List Char → Stop
  | [] => .help
  | letter :: rest =>
      match Flag.ofLetter? letter, dialect with
      | none, .earlier =>
          .usage (.unwantedText .help (String.ofList (letter :: rest)))
      | none, .later =>
          if letter = '-' then
            .usage (.unwantedText .help (String.ofList (letter :: rest)))
          else .help
      | some .help, .earlier => helpAmong dialect followed rest
      | some .help, .later =>
          match rest with
          | '=' :: text => .usage (.unwantedText .help (String.ofList text))
          | rest => helpAmong dialect followed rest
      | some flag, _ =>
          if rest.isEmpty && !followed then .usage (.missingValue flag)
            else .help

/-- Where the flag for help leads. -/
def stopForHelp (dialect : Dialect) (letters followed : Bool) :
    Option String → Stop
  | none => .help
  | some text =>
      if letters && text != "" then helpAmong dialect followed text.toList
      else .usage (.unwantedText .help text)

/-- Reads words.  A separator next to the operation belongs to it. -/
def read (d : Draft) (dialect : Dialect) : List Word → Except Stop Draft
  | [] => .ok d
  | .unknown text :: rest => (d.leave text).read dialect rest
  | .argument text :: rest =>
      if d.operation?.isSome then (d.leave text).read dialect rest
      else do
        let d ← d.operate text
        match rest with
        | .separator :: rest => d.read dialect rest
        | rest => d.read dialect rest
  | .separator :: rest =>
      match d.operation?, rest with
      | none, .argument text :: rest => do (← d.operate text).read dialect rest
      | _, rest => (d.leave Word.separatorText).read dialect rest
  | .flag .help letters attached? :: rest =>
      let followed := match rest with
        | .argument _ :: _ => true
        | _ => false
      .error (stopForHelp dialect letters followed attached?)
  | .flag flag _ (some text) :: rest =>
      do (← d.take dialect flag text).read dialect rest
  | .flag flag _ none :: rest =>
      match rest with
      | .argument text :: rest =>
          do (← d.take dialect flag text).read dialect rest
      | _ => .error (.usage (.missingValue flag))

/-- The names of the parts that are needed and missing. -/
def missing (d : Draft) : List String :=
  [(d.bucket?.isNone, Flag.bucket.title), (d.role?.isNone, Flag.role.title),
    (d.member?.isNone, Flag.member.title),
    (d.operation?.isNone, UsageError.operationName)].filterMap
    fun (lacks, name) => if lacks then some name else none

/-- The options, once all words were read. -/
def finish (d : Draft) : Except Stop Options :=
  match d.bucket?, d.role?, d.member?, d.operation? with
  | some bucket, some role, some member, some operation =>
      if d.surplus.isEmpty then
        .ok
          { bucket, role, member, operation
            config := d.config
            timeout := d.timeout }
      else .error (.usage (.surplusWords d.surplus))
  | _, _, _, _ => .error (.usage (.missingParts d.missing))

end Draft

/-- The options that a command line gives.  All words are looked at before the
first one counts. -/
def Options.read (dialect : Dialect) (line : List String) :
    Except Stop Options := do
  let words ← (Word.readAll dialect line).mapError .usage
  (← Draft.empty.read dialect words).finish

end GrantKeeper.CommandLine
