import GrantKeeper.Fault.Basic

/-!
# Status conditions

The status of a resource is a list of conditions, such as `Ready = True
(Available)`.  Setting a condition replaces the first one of its type, or adds
it at the end; a condition that already has the new verdict and reason is left
alone, so that it keeps the time of its last transition.
-/

namespace GrantKeeper

/-- What a condition says of its type. -/
inductive Verdict where
  | yes
  | no
  | unknown
deriving DecidableEq, Repr

namespace Verdict

/-- The text of a verdict. -/
def text : Verdict → String
  | .yes => "True"
  | .no => "False"
  | .unknown => "Unknown"

/-- The verdict with a text. -/
def ofText? (s : String) : Option Verdict :=
  [yes, no, unknown].find? fun v => v.text == s

@[simp] theorem ofText?_text (v : Verdict) : ofText? v.text = some v := by
  cases v <;> decide

end Verdict

/-- A condition of a resource, with the time at which it last changed. -/
structure Condition where
  type : String
  verdict : Verdict
  reason : String
  since : Time.Timestamp
deriving DecidableEq, Repr

namespace Condition

/-- The resource is found in place. -/
def available (now : Time.Timestamp) : Condition :=
  ⟨"Ready", .yes, "Available", now⟩

/-- The two conditions say the same, whenever they began. -/
def agrees (old new : Condition) : Bool :=
  old.verdict == new.verdict && old.reason == new.reason

/-- A condition that is described by fields; the time is `now` unless given. -/
def check (now : Time.Timestamp) (fields : Fields) : Checked Condition := do
  let verdict : Json → Checked Verdict
    | .str s => match Verdict.ofText? s with
        | some v => .ok v
        | none => .refuse .notAVerdict
    | _ => .refuse .notAVerdict
  let (type, verdict, reason, since) ←
    (Check.required fields "type" Check.text).both <|
    (Check.required fields "status" verdict).both <|
    (Check.required fields "reason" Check.text).both <|
    Check.optional fields "last_transition_time" now Check.timestamp
  return { type, verdict, reason, since }

/-- A value describes a condition and leaves its time to the clock. -/
def leavesTime : Json → Bool
  | .obj fields => !Fields.has fields "last_transition_time"
  | _ => false

/-- The time for checks of some values: the clock is looked at only if one of
them leaves its time to it. -/
def timeFor (values : List Json) (now : Outcome Time.Timestamp) :
    Outcome Time.Timestamp :=
  if values.any leavesTime then now else .ok default

/-- A condition described by fields; `now` is what the clock shows. -/
def ofFields (now : Outcome Time.Timestamp) (fields : Fields) :
    Outcome Condition := do
  let now ← timeFor [.obj fields] now
  Outcome.ofModel ((check now fields).report "Condition")

end Condition

/-- The conditions of a resource. -/
abbrev Conditions := List Condition

namespace Conditions

/-- Sets one condition. -/
def set (new : Condition) : Conditions → Conditions
  | [] => [new]
  | old :: rest =>
      if old.type = new.type then (if old.agrees new then old else new) :: rest
      else old :: set new rest

/-- Sets several conditions, one after another. -/
def setAll (news : List Condition) (conditions : Conditions) : Conditions :=
  news.foldl (fun conditions new => set new conditions) conditions

/-- The first condition of a type. -/
def get? (conditions : Conditions) (type : String) : Option Condition :=
  conditions.find? fun c => c.type == type

@[simp] theorem setAll_nil (conditions : Conditions) :
    setAll [] conditions = conditions := rfl

@[simp] theorem setAll_cons (new : Condition) (news : List Condition)
    (conditions : Conditions) :
    setAll (new :: news) conditions = setAll news (set new conditions) := rfl

/-- The verdict and reason of a type after one of its conditions was set. -/
theorem get?_set_self (new : Condition) (conditions : Conditions) :
    ∃ c, get? (set new conditions) new.type = some c ∧ c.agrees new := by
  induction conditions with
  | nil => exact ⟨new, by simp [set, get?], by simp [Condition.agrees]⟩
  | cons old rest ih =>
      by_cases h : old.type = new.type
      · by_cases a : old.agrees new
        · exact ⟨old, by simp [set, get?, h, a], a⟩
        · exact ⟨new, by simp [set, get?, h, a], by simp [Condition.agrees]⟩
      · simpa [set, get?, h] using ih

end Conditions

end GrantKeeper
