import GrantKeeper.Decimal.Binary64

/-!
# JSON values

Policies, configurations and resources arrive as JSON, and parts of them are
carried along without being understood, so the value type keeps what a reader
sees: the order of an object's fields, the difference between an integer and a
double, and which of several not-a-numbers is which.

Main definitions:

* `Json.field?` and `Json.get`: a field of an object, the second reading an
  absent one as null;
* `Json.truthy`: whether a value counts as present where any value is allowed;
* `Json.same`: equality of values, in which numbers are equal when they denote
  the same number, a not-a-number only agrees with itself, and the order of
  fields does not matter;
* `Json.equals`: the same, but a not-a-number on its own does not even agree
  with itself;
* `Json.isKey`: the values that can be members of a set or keys of a map.
-/

namespace GrantKeeper

/-- A JSON value.  The fields of an object have distinct names and keep their
order. -/
inductive Json where
  | null
  | bool (b : Bool)
  | int (n : Int)
  | float (x : Float)
  /-- A not-a-number, which a mark tells from others. -/
  | nan (mark : Nat)
  | str (s : String)
  | arr (items : List Json)
  | obj (fields : List (String × Json))
deriving Inhabited, Repr

/-- The fields of a JSON object. -/
abbrev Fields := List (String × Json)

namespace Fields

/-- A field, an absent one read as null. -/
def get (fields : Fields) (name : String) : Json :=
  (fields.lookup name).getD .null

/-- The object has the field. -/
def has (fields : Fields) (name : String) : Bool := (fields.lookup name).isSome

/-- Writes a field: in place if there is one of that name, at the end
otherwise. -/
def put (fields : Fields) (name : String) (value : Json) : Fields :=
  match fields with
  | [] => [(name, value)]
  | (n, v) :: rest =>
      if n == name then (n, value) :: rest else (n, v) :: put rest name value

/-- The object without a field. -/
def erase (fields : Fields) (name : String) : Fields :=
  fields.filter fun (n, _) => n != name

@[simp] theorem get_nil (name : String) : get [] name = .null := rfl

@[simp] theorem get_cons_self (name : String) (value : Json) (rest : Fields) :
    get ((name, value) :: rest) name = value := by
  simp [get]

theorem get_cons_of_ne {n name : String} (h : name ≠ n) (value : Json)
    (rest : Fields) : get ((n, value) :: rest) name = get rest name := by
  simp [get, List.lookup_cons, beq_eq_false_iff_ne.mpr h]

@[simp] theorem get_put_self (fields : Fields) (name : String) (value : Json) :
    (put fields name value).get name = value := by
  induction fields with
  | nil => simp [put]
  | cons head rest ih =>
      obtain ⟨n, v⟩ := head
      by_cases h : n = name
      · simp [put, h]
      · simp [put, h, get_cons_of_ne (Ne.symm h), ih]

theorem get_put_of_ne {n name : String} (h : name ≠ n) (fields : Fields)
    (value : Json) : (put fields n value).get name = fields.get name := by
  induction fields with
  | nil => simp [put, get_cons_of_ne h]
  | cons head rest ih =>
      obtain ⟨m, v⟩ := head
      by_cases hm : m = n
      · subst hm; simp [put, get_cons_of_ne h]
      · by_cases hk : name = m
        · subst hk; simp [put, hm]
        · simp [put, hm, get_cons_of_ne hk, ih]

end Fields

namespace Json

/-- A field of an object, none of anything else. -/
def field? : Json → String → Option Json
  | .obj fields, name => fields.lookup name
  | _, _ => none

/-- A field of an object, null when there is none. -/
def get (value : Json) (name : String) : Json := (value.field? name).getD .null

/-- Absence, false, zero and everything empty do not count as present. -/
def truthy : Json → Bool
  | .null => false
  | .bool b => b
  | .int n => n != 0
  | .float x => match Decimal.Binary64.ofFloat x with
      | .finite _ significand _ => significand != 0
      | _ => true
  | .nan _ => true
  | .str s => s != ""
  | .arr items => !items.isEmpty
  | .obj fields => !fields.isEmpty

/-- The value unless it is falsy, then another one. -/
def orElse (value alternative : Json) : Json :=
  if value.truthy then value else alternative

/-- The number a value denotes; true and false denote one and zero. -/
def number? : Json → Option Decimal.Binary64
  | .bool b => some (.ofInt (if b then 1 else 0))
  | .int n => some (.ofInt n)
  | .float x => some (.ofFloat x)
  | .nan _ => some .nan
  | _ => none

/-- The mark of a not-a-number; one without a mark has the first. -/
def nanMark? : Json → Option Nat
  | .float x => if Decimal.Binary64.ofFloat x == .nan then some 0 else none
  | .nan mark => some mark
  | _ => none

/-- The value is a not-a-number. -/
def isNan (value : Json) : Bool := value.nanMark?.isSome

/-- Two values denote the same number, or are the same not-a-number. -/
def sameNumber (x y : Json) : Bool :=
  match x.nanMark?, y.nanMark? with
  | some a, some b => a == b
  | none, none =>
      match x.number?, y.number? with
      | some a, some b => a.compare? b == some .eq
      | _, _ => false
  | _, _ => false

/-- Equality of values: numbers by what they denote, arrays element by element,
objects field by field in any order. -/
def same : Json → Json → Bool
  | .null, .null => true
  | .str s, .str t => s == t
  | .arr xs, .arr ys => sameItems xs ys
  | .obj xs, .obj ys => xs.length == ys.length && sameFields xs ys
  | .bool a, y => sameNumber (.bool a) y
  | .int a, y => sameNumber (.int a) y
  | .float a, y => sameNumber (.float a) y
  | .nan a, y => sameNumber (.nan a) y
  | _, _ => false
where
  sameItems : List Json → List Json → Bool
    | [], [] => true
    | x :: xs, y :: ys => same x y && sameItems xs ys
    | _, _ => false
  sameFields : Fields → Fields → Bool
    | [], _ => true
    | (name, x) :: xs, ys =>
        (match ys.lookup name with
          | some y => same x y
          | none => false) && sameFields xs ys

/-- Equality of two values on their own: a not-a-number differs from every
value. -/
def equals (x y : Json) : Bool := x.same y && !x.isNan

/-- The integer fits a signed word of 64 bits. -/
def fitsWord (n : Int) : Bool :=
  decide (-0x8000000000000000 ≤ n) && decide (n < 0x8000000000000000)

/-- The value can be a member of a set or a key of a map: it is neither an array
nor an object. -/
def isKey : Json → Bool
  | .arr _ => false
  | .obj _ => false
  | _ => true

@[simp] theorem truthy_null : truthy .null = false := rfl
@[simp] theorem truthy_bool (b : Bool) : truthy (.bool b) = b := rfl
@[simp] theorem truthy_str (s : String) : truthy (.str s) = (s != "") := rfl
@[simp] theorem truthy_obj (fields : Fields) :
    truthy (.obj fields) = !fields.isEmpty := rfl
@[simp] theorem truthy_arr (items : List Json) :
    truthy (.arr items) = !items.isEmpty := rfl

@[simp] theorem get_obj (fields : Fields) (name : String) :
    get (.obj fields) name = fields.get name := rfl

@[simp] theorem same_str (s t : String) :
    same (.str s) (.str t) = (s == t) := by
  simp [same]

@[simp] theorem equals_str (s t : String) :
    equals (.str s) (.str t) = (s == t) := by
  simp [equals, isNan, nanMark?]

@[simp] theorem isKey_str (s : String) : isKey (.str s) = true := rfl

end Json

/-- Values that can stand for a yes or a no. -/
class Truthy (β : Type) where
  truthy : β → Bool

instance : Truthy Bool := ⟨id⟩
instance : Truthy Json := ⟨Json.truthy⟩

end GrantKeeper
