import GrantKeeper.Storage.Factory
import GrantKeeper.Text.Quoted

/-!
# A sample program

The sample keeps a group bound to a role on a bucket.  It runs one cycle and
prints what was done, and the conditions of the resource afterwards.
-/

namespace GrantKeeper.Sample

/-- The configuration of the sample. -/
def config : Json := .obj [("project_id", .str "my-gcp-project")]

/-- The resource of the sample. -/
def resource : Resource :=
  .declaring "analytics-readers"
    ⟨"my-analytics-bucket", "roles/storage.objectViewer",
      "group:analytics@example.com"⟩ false

/-- The connector of the sample. -/
def connector (env : Environment) : Outcome (Connector Float) :=
  Connector.forKind env (.str "bucket_policy_member") (.str "gcp") config .null
    Connector.standardLogger

/-- A point of time in universal time; seconds and microseconds at the end are
left out when they are zero. -/
def timeText (t : Time.Timestamp) : String :=
  let d := t.date
  let tail :=
    if t.micro != 0 then [t.second, t.micro]
    else if t.second != 0 then [t.second] else []
  let numbers := [d.year.natAbs, d.month, d.day, t.hour, t.minute] ++ tail
  "datetime.datetime(" ++ ", ".intercalate (numbers.map Decimal.digitsText) ++
    ", tzinfo=datetime.timezone.utc)"

/-- A condition, field by field. -/
def conditionText (c : Condition) : String :=
  "Condition(type=" ++ Text.quoted c.type ++ ", status=" ++
    Text.quoted c.verdict.text ++
    ", reason=" ++ Text.quoted c.reason ++ ", last_transition_time=" ++
      timeText c.since ++ ")"

/-- What the sample prints. -/
def report (result : CycleResult Bool) (conditions : Conditions) : String :=
  "Action: " ++ result.action.text ++ "\nConditions: [" ++
    ", ".intercalate (conditions.map conditionText) ++ "]\n"

end GrantKeeper.Sample
