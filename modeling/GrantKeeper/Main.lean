import GrantKeeper.CommandLine.Run
import Std.Time.DateTime.Timestamp

/-!
# The program

The policies are kept in a JSON file, an object with one field a bucket, which
the variable `POLICYBIND_BUCKETS` names; without it there are no buckets.
Everything that a command needs is read first, then the command runs, and then
the file is written anew if a policy was written.
-/

namespace GrantKeeper.Main

/-- The variables that a command looks at. -/
def variableNames : List String :=
  ["GOOGLE_CLOUD_PROJECT", "GCLOUD_PROJECT", "GOOGLE_APPLICATION_CREDENTIALS",
    "POLICYBIND_CALL_TIMEOUT"]

/-- The variable that names the file of policies. -/
def storeVariable : String := "POLICYBIND_BUCKETS"

/-- Reads the variables. -/
def readVariables : IO (List (String × String)) :=
  variableNames.filterMapM fun name =>
    do return (← IO.getEnv name).map (name, ·)

/-- Reads the one file that a command may ask for. -/
def readFiles (path : String) : IO Files := do
  try return FileTree.files [(path, some (← IO.FS.readFile path))]
  catch
    | .noFileOrDirectory .. => return FileTree.files []
    | problem =>
        return .unreadable (Catalog.general "OSError" (.str (toString problem)))

/-- Reads the file of policies. -/
def readPolicies (path? : Option String) : IO Fields := do
  match path? with
  | none => return []
  | some path =>
      let text ← IO.FS.readFile path
      match Json.read .standard text.toList with
      | .ok (.obj policies) => return policies
      | .ok _ => throw (IO.userError (path ++ " holds no JSON object"))
      | .error problem =>
          throw (IO.userError (path ++ ": " ++ problem.message text.toList))

/-- Twelve hexadecimal digits that name one run. -/
def newRequestId : IO String := do
  let bytes ← IO.getRandomBytes 6
  return String.ofList (bytes.toList.flatMap fun b => Text.hex 2 b.toNat)

/-- The world at the start of a command. -/
def start (policies : Fields) (micros : Int) (requestId : String) :
    World Float (StorageCall Float) Json Service where
  clock := .starting 0.0 micros
  contexts := []
  current? := none
  resource? := none
  loggers := Log.Registry.initial.opened Connector.standardLogger
  logger := Connector.standardLogger
  requestId := requestId
  happenings := []
  server := ⟨.holding policies, none⟩
  calls := []
  records := []

/-- Writes the log of a command. -/
def writeRecords (micros : Int) (records : List Log.Record) : IO Unit := do
  let time := Log.timeText .null (.int (micros / 1000000))
    (.int (micros % 1000000 / 1000))
  for record in records do
    IO.eprintln (record.line (time.toOption.getD ""))

/-- Runs a command. -/
def run (line : List String) : IO UInt32 := do
  let assigned ← readVariables
  let files ← match CommandLine.credentialsPath? { assigned } line with
    | some path => readFiles path
    | none => pure (FileTree.files [])
  let store? ← IO.getEnv storeVariable
  let policies ← readPolicies store?
  let micros :=
    (← Std.Time.Timestamp.now).toNanosecondsSinceUnixEpoch.val / 1000
  let world := start policies micros (← newRequestId)
  let (ending, world) :=
    CommandLine.run (Service.remote Float) { assigned, files } line world
  writeRecords micros world.records
  if let some path := store? then
    if 0 < world.server.store.writes then
      IO.FS.writeFile path
        ((Json.obj world.server.store.policies).indented ++ "\n")
  match ending with
  | .exited status output errors =>
      IO.print output
      IO.eprint errors
      return status.toUInt32
  | .escaped fault =>
      let text :=
        if fault.text = "" then "a value lacks the shape that is needed"
        else fault.text
      IO.eprintln (CommandLine.programName ++ ": " ++ text)
      return 1

end GrantKeeper.Main

/-- The program. -/
def main (line : List String) : IO UInt32 := GrantKeeper.Main.run line
