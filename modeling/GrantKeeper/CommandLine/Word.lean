import GrantKeeper.Config.Platform
import GrantKeeper.Text.Digits
import GrantKeeper.Text.Quoted

/-!
# The words of a command line

A word is an argument or a flag, and a flag may have its value attached.  A long
flag may be shortened as long as only one flag begins that way.  A word that
only looks like a flag, because it is a negative number or holds a blank, is an
argument, and so is every word behind a separator.

Main definitions:

* `Flag`: the flags and their names;
* `UsageError`: what can be wrong with a command line, with its `message`;
* `Word.read`, `Word.readAll`: the words of a command line.
-/

namespace GrantKeeper.CommandLine

/-- The flags. -/
inductive Flag where
  | help
  | bucket
  | role
  | member
  | config
  | timeout
deriving DecidableEq, Repr

namespace Flag

/-- All flags. -/
def all : List Flag := [help, bucket, role, member, config, timeout]

/-- The names of a flag. -/
def names : Flag → List String
  | .help => ["-h", "--help"]
  | .bucket => ["--bucket", "-b"]
  | .role => ["--role", "-r"]
  | .member => ["--member", "-m"]
  | .config => ["--config", "-c"]
  | .timeout => ["--timeout", "-t"]

/-- The names of a flag together. -/
def title (flag : Flag) : String := "/".intercalate flag.names

/-- Every name with its flag. -/
def table : List (String × Flag) :=
  all.flatMap fun flag => flag.names.map (·, flag)

/-- The flag of a name. -/
def ofName? (name : List Char) : Option Flag :=
  table.lookup (String.ofList name)

/-- The flag of a letter. -/
def ofLetter? (letter : Char) : Option Flag := ofName? ['-', letter]

/-- The names that begin with a text, with their flags. -/
def beginningWith (text : List Char) : List (String × Flag) :=
  table.filter fun (name, _) => text.isPrefixOf name.toList

end Flag

/-- What a command is asked to do. -/
inductive Operation where
  | observe
  | ensure
  | remove
deriving DecidableEq, Repr

namespace Operation

/-- The name of an operation. -/
def text : Operation → String
  | .observe => "observe"
  | .ensure => "ensure"
  | .remove => "remove"

/-- All operations. -/
def all : List Operation := [observe, ensure, remove]

/-- The operation of a name. -/
def ofText? (name : String) : Option Operation :=
  all.find? fun o => o.text == name

theorem ofText?_text (o : Operation) : ofText? o.text = some o := by
  cases o <;> rfl

end Operation

/-- What is wrong with a command line. -/
inductive UsageError where
  /-- Several flags begin like a word. -/
  | ambiguous (word : String) (names : List String)
  /-- A flag lacks its value. -/
  | missingValue (flag : Flag)
  /-- A flag without a value has a text attached. -/
  | unwantedText (flag : Flag) (text : String)
  /-- A timeout is no number. -/
  | unreadableTimeout (text : String)
  /-- There is no such operation. -/
  | unknownOperation (text : String)
  /-- Parts of the command line are missing. -/
  | missingParts (names : List String)
  /-- Nobody asks for these words. -/
  | surplusWords (words : List String)
deriving DecidableEq, Repr

namespace UsageError

/-- The name of the part of a command line that is no flag. -/
def operationName : String := "operation"

/-- The wording of an error. -/
def message : UsageError → String
  | .ambiguous word names =>
      "ambiguous option: " ++ word ++ " could match " ++ ", ".intercalate names
  | .missingValue flag => "argument " ++ flag.title ++ ": expected one argument"
  | .unwantedText flag text =>
      "argument " ++ flag.title ++ ": ignored explicit argument " ++
        Text.quoted text
  | .unreadableTimeout text =>
      "argument " ++ Flag.timeout.title ++ ": invalid float value: " ++
        Text.quoted text
  | .unknownOperation text =>
      "argument " ++ operationName ++ ": invalid choice: " ++
        Text.quoted text ++ " (choose from " ++
        ", ".intercalate (Operation.all.map fun o => Text.quoted o.text) ++ ")"
  | .missingParts names =>
      "the following arguments are required: " ++ ", ".intercalate names
  | .surplusWords words => "unrecognized arguments: " ++ " ".intercalate words

end UsageError

/-- A word of a command line. -/
inductive Word where
  | argument (text : String)
  | separator
  /-- A flag, perhaps with a text attached, which may be the letters of more
  flags. -/
  | flag (flag : Flag) (letters : Bool) (attached? : Option String)
  | unknown (text : String)
deriving DecidableEq, Repr

namespace Word

/-- The text before the first equals sign, and the text behind it if there is
one. -/
def cut : List Char → List Char × Option String
  | [] => ([], none)
  | c :: rest =>
      if c = '=' then ([], some (String.ofList rest))
      else
        let (stem, value?) := cut rest
        (c :: stem, value?)

/-- The text is a negative number, which one line feed may follow. -/
def isNegativeNumber (text : List Char) : Bool :=
  let isDigit (c : Char) := (Text.digitValue? c).isSome
  match text with
  | '-' :: body =>
      let body := if body.getLast? == some '\n' then body.dropLast else body
      match body.dropWhile isDigit with
      | [] => !body.isEmpty
      | '.' :: fraction => !fraction.isEmpty && fraction.all isDigit
      | _ => false
  | _ => false

/-- A word that begins like a flag but is none. -/
def unlike (text : String) : Word :=
  if isNegativeNumber text.toList || text.toList.contains ' ' then
    .argument text
  else .unknown text

/-- A word in front of any separator. -/
def read (dialect : Dialect) (text : String) : Except UsageError Word :=
  match text.toList with
  | '-' :: second :: rest =>
      let (stem, attached?) := cut text.toList
      match Flag.ofName? stem with
      | some found =>
          .ok (.flag found (second != '-' && dialect == .earlier) attached?)
      | none =>
          if second = '-' then
            match Flag.beginningWith stem with
            | [] => .ok (unlike text)
            | [(_, found)] => .ok (.flag found false attached?)
            | several => .error (.ambiguous text (several.map Prod.fst))
          else
            match Flag.ofLetter? second with
            | some found => .ok (.flag found true (some (String.ofList rest)))
            | none => .ok (unlike text)
  | _ => .ok (.argument text)

/-- The text of a separator. -/
def separatorText : String := "--"

/-- The words of a command line. -/
def readAll (dialect : Dialect) : List String → Except UsageError (List Word)
  | [] => .ok []
  | text :: rest =>
      if text = separatorText then .ok (.separator :: rest.map .argument)
      else do return (← read dialect text) :: (← readAll dialect rest)

end Word

end GrantKeeper.CommandLine
