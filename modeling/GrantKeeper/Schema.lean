import GrantKeeper.Json.Shape
import GrantKeeper.Text.Digits
import GrantKeeper.Decimal.Notation
import GrantKeeper.Time.Reader

/-!
# Checking values against a schema

A check of a value gives the checked value or all that is wrong with it, every
issue with the path that leads to it.  Fields are checked in the order in which
a model declares them, then unknown fields are refused in the order in which
they stand.

Main definitions:

* `Issue`, `Report`: one thing that is wrong, and all of them for one model;
* `Checked`: the outcome of a check, with `Checked.both` to put two checks side
  by side;
* `Check.text`, `Check.boolean`, `Check.timestamp`, … : checks of single values.
-/

namespace GrantKeeper

/-- A step from a value into one of its parts. -/
inductive Step where
  | name (field : String)
  | index (position : Nat)
deriving DecidableEq, Repr

/-- What is wrong with a value. -/
inductive Cause where
  | missing
  | extraField
  | notText
  | textTooShort
  | notAModel (model : String)
  | notAList
  | notAVerdict
  | notABoolean
  | unreadableBoolean
  | badTime (refusal : Time.Refusal)
  | notANumber
  | unreadableNumber
  | notPositive
  | frozen
  /-- A rule of the model itself is broken; its wording is given. -/
  | rule (message : String)
deriving DecidableEq, Repr, Inhabited

namespace Cause

/-- The short name of a cause. -/
def code : Cause → String
  | .missing => "missing"
  | .extraField => "extra_forbidden"
  | .notText => "string_type"
  | .textTooShort => "string_too_short"
  | .notAModel _ => "model_type"
  | .notAList => "list_type"
  | .notAVerdict => "literal_error"
  | .notABoolean => "bool_type"
  | .unreadableBoolean => "bool_parsing"
  | .badTime .wrongKind => "datetime_type"
  | .badTime (.outOfRange _) => "datetime_parsing"
  | .badTime .notANumber => "datetime_parsing"
  | .badTime (.notADate _) => "datetime_from_date_parsing"
  | .notANumber => "float_type"
  | .unreadableNumber => "float_parsing"
  | .notPositive => "greater_than"
  | .frozen => "frozen_instance"
  | .rule _ => "value_error"

/-- The wording of a cause. -/
def message : Cause → String
  | .missing => "Field required"
  | .extraField => "Extra inputs are not permitted"
  | .notText => "Input should be a valid string"
  | .textTooShort => "String should have at least 1 character"
  | .notAModel model =>
      "Input should be a valid dictionary or instance of " ++ model
  | .notAList => "Input should be a valid list"
  | .notAVerdict => "Input should be 'True', 'False' or 'Unknown'"
  | .notABoolean => "Input should be a valid boolean"
  | .unreadableBoolean =>
      "Input should be a valid boolean, unable to interpret input"
  | .badTime .wrongKind => "Input should be a valid datetime"
  | .badTime (.outOfRange problem) =>
      "Input should be a valid datetime, " ++ problem.message
  | .badTime .notANumber =>
      "Input should be a valid datetime, NaN values not permitted"
  | .badTime (.notADate problem) =>
      "Input should be a valid datetime or date, " ++ problem.message
  | .notANumber => "Input should be a valid number"
  | .unreadableNumber =>
      "Input should be a valid number, unable to parse string as a number"
  | .notPositive => "Input should be greater than 0"
  | .frozen => "Instance is frozen"
  | .rule message => "Value error, " ++ message

end Cause

/-- One thing that is wrong, and where. -/
structure Issue where
  path : List Step
  cause : Cause
deriving DecidableEq, Repr, Inhabited

/-- All that is wrong with a value for one model. -/
structure Report where
  model : String
  issues : List Issue
deriving DecidableEq, Repr, Inhabited

namespace Report

/-- The text of a step; a name with a point in it stands between marks. -/
def stepText : Step → String
  | .name field =>
      if field.toList.contains '.' then "`" ++ field ++ "`" else field
  | .index position => Decimal.digitsText position

/-- The lines of an issue: its path, unless that is empty, and its wording. -/
def issueLines (issue : Issue) : List String :=
  (if issue.path.isEmpty then []
    else [".".intercalate (issue.path.map stepText)]) ++
    ["  " ++ issue.cause.message]

/-- The text of a report. -/
def text (report : Report) : String :=
  let count := Decimal.digitsText report.issues.length
  let noun :=
    if report.issues.length = 1 then " validation error for "
    else " validation errors for "
  "\n".intercalate
    ((count ++ noun ++ report.model) :: report.issues.flatMap issueLines)

end Report

/-- The outcome of a check: the checked value, or all that is wrong. -/
abbrev Checked (α : Type) := Except (List Issue) α

namespace Checked

variable {α β : Type}

/-- Refuses a value for one cause. -/
def refuse (cause : Cause) : Checked α := .error [⟨[], cause⟩]

/-- The outcome of a part, seen from the whole. -/
def within (step : Step) : Checked α → Checked α :=
  Except.mapError fun issues =>
    issues.map fun issue => { issue with path := step :: issue.path }

/-- Two checks side by side; the issues of the first come first. -/
def both : Checked α → Checked β → Checked (α × β)
  | .ok a, .ok b => .ok (a, b)
  | .ok _, .error issues => .error issues
  | .error issues, .ok _ => .error issues
  | .error issues, .error more => .error (issues ++ more)

/-- Turns the issues of a check into a report. -/
def report (model : String) : Checked α → Except Report α :=
  Except.mapError fun issues => ⟨model, issues⟩

@[simp] theorem both_ok (a : α) (b : β) : both (.ok a) (.ok b) = .ok (a, b) :=
  rfl

theorem both_eq_ok_iff {x : Checked α} {y : Checked β} {a : α} {b : β} :
    both x y = .ok (a, b) ↔ x = .ok a ∧ y = .ok b := by
  cases x <;> cases y <;> simp [both]

end Checked

namespace Check

variable {α : Type}

/-- A field that has to be there. -/
def required (fields : Fields) (name : String) (check : Json → Checked α) :
    Checked α :=
  match fields.lookup name with
  | some value => (check value).within (.name name)
  | none => Checked.within (.name name) (.refuse .missing)

/-- A field that may be left out. -/
def optional (fields : Fields) (name : String) (default : α)
    (check : Json → Checked α) : Checked α :=
  match fields.lookup name with
  | some value => (check value).within (.name name)
  | none => .ok default

/-- No fields but the known ones. -/
def noOthers (known : List String) (fields : Fields) : Checked Unit :=
  match fields.filterMap fun (name, _) =>
      if known.contains name then none
        else some ⟨[.name name], .extraField⟩ with
  | [] => .ok ()
  | issues => .error issues

/-- An object, described by a model. -/
def object (model : String) (check : Fields → Checked α) : Json → Checked α
  | .obj fields => check fields
  | _ => .refuse (.notAModel model)

/-- The items of a list from a position on. -/
def items (check : Json → Checked α) (position : Nat) :
    List Json → Checked (List α)
  | [] => .ok []
  | x :: xs =>
      (Checked.both ((check x).within (.index position))
        (items check (position + 1) xs)).map
        fun (a, as) => a :: as

/-- A list. -/
def list (check : Json → Checked α) : Json → Checked (List α)
  | .arr xs => items check 0 xs
  | _ => .refuse .notAList

/-- A text. -/
def text : Json → Checked String
  | .str s => .ok s
  | _ => .refuse .notText

/-- A text that is not empty. -/
def nonemptyText : Json → Checked String
  | .str s => if s.isEmpty then .refuse .textTooShort else .ok s
  | _ => .refuse .notText

/-- The words for no and for yes. -/
def noWords : List String := ["0", "off", "f", "false", "n", "no"]

@[inherit_doc noWords] def yesWords : List String :=
  ["1", "on", "t", "true", "y", "yes"]

/-- A yes or no: a truth value, zero or one, or a word for either. -/
def boolean : Json → Checked Bool
  | .bool b => .ok b
  | .int n =>
      if n = 0 then .ok false
      else if n = 1 then .ok true
      else if Json.fitsWord n then .refuse .unreadableBoolean
      else .refuse .notABoolean
  | .float x =>
      match (Decimal.Binary64.ofFloat x).number? with
      | some number =>
          if !number.isIntegral || !Json.fitsWord number.floor then
            .refuse .notABoolean
          else if number.floor = 0 then .ok false
          else if number.floor = 1 then .ok true
          else .refuse .unreadableBoolean
      | none => .refuse .notABoolean
  | .nan _ => .refuse .notABoolean
  | .str s =>
      let word := s.map Char.toLower
      if noWords.contains word then .ok false
      else if yesWords.contains word then .ok true
      else .refuse .unreadableBoolean
  | _ => .refuse .notABoolean

/-- A point of time. -/
def timestamp (value : Json) : Checked Time.Timestamp :=
  match Time.ofJson value with
  | .ok t => .ok t
  | .error refusal => .refuse (.badTime refusal)

end Check

end GrantKeeper
