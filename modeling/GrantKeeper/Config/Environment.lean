import GrantKeeper.Config.Files
import GrantKeeper.Config.Platform

/-!
# The environment of a program

A program sees variables, each unset or any text, and files, and it runs on a
platform.

Main definitions:

* `Environment`: what a program can see of its surroundings;
* `Environment.get?`: a variable.
-/

namespace GrantKeeper

/-- What a program can see of its surroundings. -/
structure Environment where
  assigned : List (String × String) := []
  files : Files := FileTree.files []
  platform : Platform := .standard

namespace Environment

/-- A variable. -/
def get? (env : Environment) (name : String) : Option String :=
  env.assigned.lookup name

/-- A variable as a value, null when it is unset. -/
def variableValue (env : Environment) (name : String) : Json :=
  match env.get? name with
  | some text => .str text
  | none => .null

end Environment

end GrantKeeper
