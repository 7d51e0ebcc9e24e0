import GrantKeeper.CommandLine.Help
import GrantKeeper.CommandLine.Options
import GrantKeeper.Storage.Factory
import GrantKeeper.Storage.World

/-!
# Running a command

A command reads its options, then the configuration among them, then makes
resource and connector, and only then calls anybody.  A wrong command line ends
it with status 2, anything else that it knows how to report with status 1.  A
fault that is neither a refusal nor one of the program's own is not reported.

Main definitions:

* `Ending`: how a command ends;
* `Task`: what a command line asks for, once everything on it is known to be
  good;
* `run`: runs a command in a world.
-/

namespace GrantKeeper.CommandLine

/-- How a command ends. -/
inductive Ending where
  /-- With a status, and with what it wrote to its two outputs. -/
  | exited (status : Nat) (output errors : String)
  /-- With a fault that it does not handle. -/
  | escaped (fault : Fault)
deriving DecidableEq, Repr

namespace Ending

/-- A report of something that went wrong. -/
def failed (what text : String) : Ending :=
  .exited 1 "" (what ++ ": " ++ text ++ "\n")

/-- The ending of a command whose line could not be read. -/
def ofStop : Stop → Ending
  | .help => .exited 0 (linesText helpLines) ""
  | .usage error =>
      .exited 2 ""
        (linesText (usageLines ++
          [programName ++ ": error: " ++ error.message]))

/-- The ending of a command whose configuration is not JSON. -/
def ofReadError (text : List Char) (error : Json.ReadError) : Ending :=
  match error with
  | .problemAt .. => failed "Invalid --config JSON" (error.message text)
  | .tooManyDigits .. => .escaped (.value (error.message text))
  | .tooDeep => .escaped (.malformed .tooDeep)

/-- The ending of a command that could not begin. -/
def ofRefusal (fault : Fault) : Ending :=
  if fault.isRefusal then failed "Error" fault.text else .escaped fault

/-- What a cycle prints. -/
def report (result : CycleResult Bool) : String :=
  (Json.obj [("action", .str result.action.text),
    ("resource_exists", .bool result.observation.present),
    ("resource_up_to_date",
      .bool result.observation.upToDate)]).indented ++ "\n"

/-- The ending of a command that ran its cycle. -/
def ofOutcome : Outcome (CycleResult Bool) → Ending
  | .ok result => .exited 0 (report result) ""
  | .error fault =>
      if fault.isOwn then failed "Operation failed" fault.text
      else .escaped fault

end Ending

/-- What a command line asks for. -/
structure Task where
  resource : Resource
  connector : Connector Float
  timeout? : Option Float
  operation : Operation

namespace Task

/-- The fields of the resource that options describe. -/
def resourceFields (o : Options) : Fields :=
  let parameters : Fields :=
    [("bucket", o.bucket), ("role", o.role), ("member", o.member)]
  [("name",
      .str (o.bucket.shown ++ "-" ++ o.role.shown ++ "-" ++ o.member.shown)),
    ("spec", .obj [("for_provider", .obj parameters)]),
    ("deletion_requested", .bool (o.operation == .remove))]

/-- The resource and the connector that options describe. -/
def parts (env : Environment) (now : Outcome Time.Timestamp) (o : Options)
    (config : Json) : Outcome (Resource × Connector Float) := do
  let resource ← Resource.make now (resourceFields o)
  let connector ← Connector.forKind env (.str "bucket_policy_member")
    (.str "gcp") config .null Connector.standardLogger
  return (resource, connector)

/-- The configuration among options. -/
def configOf (env : Environment) (o : Options) : Except Ending Json :=
  match o.config with
  | .str text =>
      (Json.read env.platform.limits text.toList).mapError
        (Ending.ofReadError text.toList)
  | _ => .error (.escaped (.malformed .notAText))

/-- The time that options give to a command. -/
def timeoutOf (o : Options) : Except Ending (Option Float) :=
  match o.timeout with
  | .null => .ok none
  | value =>
      (some <$> Context.timeout value).mapError fun cause =>
        .escaped (.malformed cause)

/-- What a command line asks for, or how the command ends instead. -/
def ofLine (env : Environment) (now : Outcome Time.Timestamp)
    (line : List String) : Except Ending Task := do
  let o ← (Options.read env.platform.dialect line).mapError Ending.ofStop
  let config ← configOf env o
  let (resource, connector) ← (parts env now o config).mapError Ending.ofRefusal
  let timeout? ← timeoutOf o
  return { resource, connector, timeout?, operation := o.operation }

/-- The cycle of a task.  To observe is to look and to do nothing. -/
def program (t : Task) : StorageProgram Float (CycleResult Bool) :=
  match t.operation with
  | .observe => do return ⟨.none, ← t.connector.observe (.member t.resource)⟩
  | .ensure => t.connector.reconcile (.member t.resource)
  | .remove => t.connector.reconcile (.member t.resource)

/-- The name of the context of a command. -/
def contextName : String := "command"

/-- The world in which a task begins: the time it may take counts from now. -/
def begun {σ : Type} (t : Task) (w : World Float (StorageCall Float) Json σ) :
    World Float (StorageCall Float) Json σ :=
  let context := match t.timeout? with
    | some time => Context.lasting w.clock.now time
    | none => .background
  { w.putContext contextName context with
    current? := some contextName
    resource? := some t.resource }

end Task

/-- The path of the file that a command may read. -/
def credentialsPath? (env : Environment) (line : List String) : Option String :=
  match Options.read env.platform.dialect line with
  | .ok o =>
      match Task.configOf env o with
      | .ok config => Account.pathOf env config
      | .error _ => none
  | .error _ => none

/-- Runs a command in a world. -/
def run {σ : Type} (remote : Remote (StorageCall Float) Json σ)
    (env : Environment)
    (line : List String) (w : World Float (StorageCall Float) Json σ) :
    Ending × World Float (StorageCall Float) Json σ :=
  match Task.ofLine env w.clock.wall line with
  | .error ending => (ending, w)
  | .ok task =>
      let (outcome, w) := (task.begun w).run remote task.program
      (Ending.ofOutcome outcome, w)

end GrantKeeper.CommandLine
