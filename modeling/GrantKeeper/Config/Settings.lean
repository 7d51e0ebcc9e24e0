import GrantKeeper.Config.Environment
import GrantKeeper.Decimal.Reader
import GrantKeeper.Fault.Basic
import GrantKeeper.Text.Blank

/-!
# Settings of a cycle

The only setting is the time in seconds that a call may take when its cycle has
no deadline.  It is given as a number or as the text of one, by the settings or
else by the environment, and has to be positive.
-/

namespace GrantKeeper

/-- Checked settings. -/
structure Settings where
  callTimeout : Float
deriving Repr

namespace Settings

/-- The name of the model. -/
def model : String := "ReconcileConfig"

/-- The time a call may take unless settings say otherwise. -/
def standardTimeout : Float := 60.0

/-- The settings with a missing timeout taken from the environment. -/
def completed (env : Environment) (fields : Fields) : Fields :=
  match fields.get "call_timeout_seconds",
    env.get? "POLICYBIND_CALL_TIMEOUT" with
  | .null, some text =>
      if text = "" then fields
        else fields.put "call_timeout_seconds" (.str text)
  | _, _ => fields

/-- A number, or the text of one.  Blanks may stand around it if no underscore
stands in it. -/
def number : Json → Checked Float
  | .bool b => .ok (if b then 1.0 else 0.0)
  | .int n =>
      let x := Decimal.nearestFloat n
      if x.isInf then .refuse .notANumber else .ok x
  | .float x => .ok x
  | .nan _ => .ok Decimal.notANumber
  | .str s =>
      match Decimal.readPlain? (Text.trimmed Text.isBlank s.toList) with
      | some x => .ok x
      | none => match Decimal.readSpaced? s.toList with
          | some x => .ok x
          | none => .refuse .unreadableNumber
  | _ => .refuse .notANumber

/-- A positive number. -/
def positive (value : Json) : Checked Float :=
  match number value with
  | .ok x => if 0.0 < x then .ok x else .refuse .notPositive
  | .error issues => .error issues

/-- Settings described by fields. -/
def ofFields (env : Environment) (fields : Fields) : Outcome Settings := do
  let fields := completed env fields
  let (callTimeout, _) ← Outcome.ofModel <| Checked.report model <|
    (Check.optional fields "call_timeout_seconds" standardTimeout
      positive).both <|
    Check.noOthers ["call_timeout_seconds"] fields
  return { callTimeout }

/-- Settings described by a value, which has to be an object. -/
def ofJson (env : Environment) : Json → Outcome Settings
  | .obj fields => ofFields env fields
  | _ => .error (.malformed .notAnObject)

end Settings

end GrantKeeper
