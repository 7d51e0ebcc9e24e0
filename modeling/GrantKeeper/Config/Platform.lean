import GrantKeeper.Json.Reader

/-!
# Platforms

Some inputs are read differently from one system to the next: how long a number
and how deep a nesting is still read, and a few corners of a command line.
-/

namespace GrantKeeper

/-- How the corners of a command line are read. -/
inductive Dialect where
  /-- A separator attached to a flag gives it the empty list of values, and
  every letter attached to the flag for help has to be a flag. -/
  | earlier
  /-- A separator attached to a flag is a text like any other, and letters
  attached to the flag for help need not be flags, unless an equals sign stands
  before them. -/
  | later
deriving DecidableEq, Repr

/-- What a program runs on. -/
structure Platform where
  limits : Json.Limits
  dialect : Dialect

/-- The platform that is meant where none is named. -/
def Platform.standard : Platform := ⟨.standard, .earlier⟩

end GrantKeeper
