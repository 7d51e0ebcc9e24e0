import GrantKeeper.Json.Basic
import GrantKeeper.Decimal.Notation
import GrantKeeper.Text.Quoted

/-!
# JSON values in messages

In a message a string stands as it is, but quoted inside an array or an object;
null is written `None` and the two truth values are written with capitals.
-/

namespace GrantKeeper.Json

/-- A value inside another one. -/
def inner : Json → String
  | .null => "None"
  | .bool b => if b then "True" else "False"
  | .int n => Decimal.intText n
  | .float x => Decimal.floatText x
  | .nan _ => "nan"
  | .str s => Text.quoted s
  | .arr items => "[" ++ ", ".intercalate (innerItems items) ++ "]"
  | .obj fields => "\x7b" ++ ", ".intercalate (innerFields fields) ++ "\x7d"
where
  innerItems : List Json → List String
    | [] => []
    | x :: xs => inner x :: innerItems xs
  innerFields : Fields → List String
    | [] => []
    | (name, x) :: xs => (Text.quoted name ++ ": " ++ inner x) :: innerFields xs

/-- A value on its own. -/
def shown : Json → String
  | .str s => s
  | value => value.inner

@[simp] theorem shown_str (s : String) : shown (.str s) = s := rfl

end GrantKeeper.Json
