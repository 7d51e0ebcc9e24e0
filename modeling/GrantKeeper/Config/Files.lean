import GrantKeeper.Fault.Basic
import GrantKeeper.Json.Display
import GrantKeeper.Json.Reader
import GrantKeeper.Text.Line

/-!
# Files of credentials

A program asks two things about a path: whether anything stands there, and what
credentials are in the file.  The system answers the one and the sign-in library
the other, and either may fail in a way of its own, so both are kept as
functions: `Files`.

A program that is tested sees a few files, most of them below its working
directory, and a sign-in library that wants an object with some fields.  A path
under which no file is listed is followed step by step: `.` stays, `..` goes up,
and any other step has to name an entry of a directory.

Main definitions:

* `Credentials`, `Files`: what is asked about a path;
* `FileTree`, `FileTree.find`: files that are listed, and what stands at a path
  among them;
* `Credentials.ofText`: the credentials that a text holds;
* `FileTree.files`: what is listed, as the files of a program.
-/

namespace GrantKeeper

/-- Credentials as they were given, or loaded from a file. -/
inductive Credentials where
  | given (value : Json)
  | loaded (email project : Json)
deriving Repr

/-- The files that a program can reach, and the library that loads credentials
from them.  Each may fail with any fault.  What the library itself refuses,
whatever it calls that, is a value refused by a rule. -/
structure Files where
  /-- Whether anything stands at a path. -/
  stands : String → Outcome Bool
  /-- The credentials in the file at a path. -/
  load : String → Outcome Credentials

/-- Something stands at every path, but it cannot be loaded. -/
def Files.unreadable (fault : Fault) : Files :=
  ⟨fun _ => .ok true, fun _ => .error fault⟩

/-! ## Credentials in a text -/

namespace Credentials

/-- The fields that a text of credentials has to have. -/
def keyFields : List String := ["client_email", "token_uri"]

/-- The credentials that a text holds. -/
def ofText (text : List Char) : Outcome Credentials :=
  match Json.read .standard text with
  | .error .tooDeep => .error (.malformed .tooDeep)
  | .error problem => .error (.value (problem.message text))
  | .ok (.obj fields) =>
      let fields : Fields := fields
      match keyFields.filter fun name => !fields.has name with
      | [] =>
          match fields.lookup "private_key" with
          | some (.str _) =>
              .ok (.loaded (fields.get "client_email")
                (fields.get "project_id"))
          | some key =>
              .error (.value (key.inner ++ " could not be converted to bytes"))
          | none =>
              .error (.value
                ("The private_key field was not found in the service " ++
                  "account info."))
      | missing =>
          .error (.value
            ("Service account info was not in the expected format, missing " ++
              "fields " ++ ", ".intercalate missing ++ "."))
  | .ok _ => .error (.malformed .noFields)

end Credentials

/-! ## Listed files -/

/-- The files that are known by their paths; without a text it is a
directory. -/
abbrev FileTree := List (String × Option String)

/-- What stands at a path. -/
inductive Found where
  | nothing
  | directory
  | file (text : String)
  /-- The path, or a step of it, is longer than the system allows. -/
  | tooLong
deriving DecidableEq, Repr

namespace FileTree

/-- The longest path, and the longest step, in bytes. -/
def longestPath : Nat := 4096

@[inherit_doc longestPath] def longestStep : Nat := 255

/-- The steps of a path.  Empty steps and `.` are dropped. -/
def steps (path : String) : List String :=
  (path.splitOn "/").filter fun step => step != "" && step != "."

/-- The path begins at the root. -/
def isAbsolute (path : String) : Bool := path.toList.head? == some '/'

/-- The path without steps that are dropped. -/
def plain (path : String) : String :=
  (if isAbsolute path then "/" else "") ++ "/".intercalate (steps path)

/-- A place that a path leads to: some steps below the working directory, some
levels above it, or some steps below the root. -/
inductive Place where
  | below (steps : List String)
  | above (levels : Nat)
  | fromRoot (steps : List String)
deriving DecidableEq, Repr

/-- The place one level up.  The root is its own parent. -/
def Place.up : Place → Place
  | .below [] => .above 1
  | .below steps => .below steps.dropLast
  | .above levels => .above (levels + 1)
  | .fromRoot steps => .fromRoot steps.dropLast

/-- The place a named step further down, unless nothing is known of it. -/
def Place.down? (step : String) : Place → Option Place
  | .below steps => some (.below (steps ++ [step]))
  | .above _ => none
  | .fromRoot steps => some (.fromRoot (steps ++ [step]))

/-- The directories that every system has below its root. -/
def systemDirectories : List String :=
  ["bin", "boot", "dev", "etc", "home", "lib", "lib64", "media", "mnt", "opt",
    "proc", "root", "run", "sbin", "srv", "sys", "tmp", "usr", "var"]

/-- What stands at a place below the root, in every system. -/
def atRoot : List String → Found
  | [] => .directory
  | [name] => if systemDirectories.contains name then .directory else .nothing
  | ["dev", "null"] => .file ""
  | _ => .nothing

/-- What stands at a place below the working directory. -/
def atWork (tree : FileTree) (place : List String) : Found :=
  if place.isEmpty then .directory
  else
    match tree.find? fun (path, _) => steps path == place with
    | some (_, some text) => .file text
    | some (_, none) => .directory
    | none =>
        if tree.any fun (path, _) => place.isPrefixOf (steps path) then
          .directory
        else .nothing

/-- What stands at a place. -/
def atPlace (tree : FileTree) : Place → Found
  | .below steps => tree.atWork steps
  | .above _ => .directory
  | .fromRoot steps => atRoot steps

/-- Follows steps from a place. -/
def follow (tree : FileTree) (place : Place) : List String → Found
  | [] => tree.atPlace place
  | step :: rest =>
      if tree.atPlace place != .directory then .nothing
      else if longestStep < step.utf8ByteSize then .tooLong
      else if step = ".." then follow tree place.up rest
      else match place.down? step with
        | some place => follow tree place rest
        | none => .nothing

/-- What stands at a path. -/
def find (tree : FileTree) (path : String) : Found :=
  if path.toList.contains '\x00' then .nothing
  else if longestPath ≤ (plain path).utf8ByteSize then .tooLong
  else
    match tree.lookup path with
    | some (some text) => .file text
    | some none => .directory
    | none =>
        tree.follow (if isAbsolute path then .fromRoot [] else .below [])
          (steps path)

/-- Whether anything stands at a path of a tree. -/
def stands (tree : FileTree) (path : String) : Outcome Bool :=
  match tree.find path with
  | .nothing => .ok false
  | .tooLong => .error (.malformed .unreadableFile)
  | _ => .ok true

/-- The credentials in a listed file. -/
def load (tree : FileTree) (path : String) : Outcome Credentials :=
  match tree.find path with
  | .file text => Credentials.ofText (Text.withLineFeeds text.toList)
  | .directory => .error (.malformed .directory)
  | _ => .error (.malformed .unreadableFile)

/-- What is listed, as the files of a program. -/
def files (tree : FileTree) : Files := ⟨tree.stands, tree.load⟩

end FileTree

instance : Coe FileTree Files := ⟨FileTree.files⟩

end GrantKeeper
