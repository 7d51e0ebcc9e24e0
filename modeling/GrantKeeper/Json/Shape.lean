import GrantKeeper.Json.Order

/-!
# Shapes that JSON must have

Data from outside may lack the shape a step needs.  `Malformed` names the
causes; the functions here ask a value for its fields, for the elements it can
be walked through, and for a set of keys.
-/

namespace GrantKeeper

/-- Why a value cannot be used where a certain shape is needed. -/
inductive Malformed where
  /-- A field is asked of a value that has no fields. -/
  | noFields
  /-- An object lacks a field that is needed. -/
  | missingField (name : String)
  /-- Fields are to be taken over from a value that is no object. -/
  | notAnObject
  /-- A field has a name that nobody asks for. -/
  | unknownField (name : String)
  /-- A value cannot be walked through. -/
  | notASequence
  /-- A value cannot be a member of a set or a key of a map. -/
  | notAKey
  /-- Two values have no order. -/
  | notComparable
  /-- A text is needed. -/
  | notAText
  /-- A number is needed. -/
  | notANumber
  /-- A whole number is needed. -/
  | notAnInteger
  /-- A number is too big for a double. -/
  | tooBig
  /-- The arguments of a message do not fit it. -/
  | notAnArgument
  /-- A file cannot be read. -/
  | unreadableFile
  /-- A directory stands where a file is needed. -/
  | directory
  /-- Arrays and objects are nested too deeply. -/
  | tooDeep
deriving DecidableEq, Repr

namespace Json

/-- The fields of an object. -/
def fields : Json → Except Malformed Fields
  | .obj fields => .ok fields
  | _ => .error .noFields

/-- The elements of a value: items of an array, characters of a string, names of
an object's fields. -/
def elements : Json → Except Malformed (List Json)
  | .arr items => .ok items
  | .str s => .ok (s.toList.map fun c => .str c.toString)
  | .obj fields => .ok (fields.map fun (name, _) => .str name)
  | _ => .error .notASequence

/-- Sorts values that have to be comparable. -/
def sort (xs : List Json) : Except Malformed (List Json) :=
  match sorted? xs with
  | some sorted => .ok sorted
  | none => .error .notComparable

end Json

/-- A set of keys, listed without repetition in an order that means nothing. -/
abbrev Keys := List Json

namespace Keys

/-- The key is in the set. -/
def has (keys : Keys) (key : Json) : Bool := keys.any key.same

/-- The set with one more key. -/
def insert (keys : Keys) (key : Json) : Keys :=
  if keys.has key then keys else keys ++ [key]

/-- The set without a key. -/
def remove (keys : Keys) (key : Json) : Keys := keys.filter fun k => !key.same k

/-- The set with all elements of a list, which have to be keys. -/
def insertAll (keys : Keys) : List Json → Except Malformed Keys
  | [] => .ok keys
  | x :: xs => if x.isKey then insertAll (keys.insert x) xs else .error .notAKey

/-- The two sets have the same keys. -/
def same (xs ys : Keys) : Bool :=
  xs.length == ys.length && xs.all fun x => ys.any x.same

end Keys

end GrantKeeper
