import GrantKeeper.Config.Environment

/-!
# Accounts

An account names a project and may give credentials, either as a value or as the
path of a file.  A project or a path that is missing or falsy is taken from the
environment.  An account without a project is refused.

Main definitions:

* `Account`: what the storage service is asked with;
* `Account.ofJson`: checks a configuration and loads the file of credentials if
  one is needed;
* `Account.forProvider`: the same for a provider given by name.
-/

namespace GrantKeeper

/-- A checked configuration of the storage service. -/
structure Account where
  project : String
  credentials : Credentials
  credentialsPath : Option String
deriving Repr

namespace Account

/-- The name of the model. -/
def model : String := "GCPConfig"

/-- The fields of the model. -/
def known : List String := ["project_id", "credentials", "credentials_path"]

/-- The project that the environment names. -/
def environmentProject (env : Environment) : Json :=
  (env.variableValue "GOOGLE_CLOUD_PROJECT").orElse
    (env.variableValue "GCLOUD_PROJECT")

/-- The configuration with its gaps filled from the environment. -/
def completed (env : Environment) (fields : Fields) : Fields :=
  let fields :=
    if (fields.get "project_id").truthy then fields
    else fields.put "project_id" (environmentProject env)
  if (fields.get "credentials_path").truthy then fields
  else fields.put "credentials_path"
    (env.variableValue "GOOGLE_APPLICATION_CREDENTIALS")

/-- The path under which a configuration looks for credentials. -/
def pathOf (env : Environment) (config : Json) : Option String :=
  match config with
  | .obj fields =>
      match (completed env fields).get "credentials_path" with
      | .str path => some path
      | _ => none
  | _ => none

/-- A text or null. -/
def optionalText : Json → Checked (Option String)
  | .null => .ok none
  | value => (Check.text value).map some

/-- Why a configuration without a project is refused. -/
def missingProject : String :=
  "GCP project_id is required. Set it explicitly or via " ++
    "GOOGLE_CLOUD_PROJECT / GCLOUD_PROJECT environment variable."

/-- Refuses the configuration as a whole. -/
def refuse {α : Type} (message : String) : Outcome α :=
  .error (.invalid ⟨model, [⟨[], .rule message⟩]⟩)

/-- A fault inside the checks of the model: what is refused there, the model
refuses. -/
def withinModel (fault : Fault) : Fault :=
  if fault.isRefusal then .invalid ⟨model, [⟨[], .rule fault.text⟩]⟩ else fault

/-- The credentials in the file at a path. -/
def load (env : Environment) (path : String) : Outcome Credentials :=
  Except.mapError withinModel do
    if ← env.files.stands path then env.files.load path
    else throw (.value ("Credentials file not found: " ++ path))

/-- The credentials of an account: those given, unless they are null and there
is a path. -/
def resolve (env : Environment) (given : Json) (path? : Option String) :
    Outcome Credentials :=
  match given, path? with
  | .null, some path => if path = "" then .ok (.given .null) else load env path
  | _, _ => .ok (.given given)

/-- An account described by fields. -/
def ofFields (env : Environment) (fields : Fields) : Outcome Account := do
  let fields := completed env fields
  let ((project?, path?), _) ← Outcome.ofModel <| Checked.report model <|
    ((Check.required fields "project_id" optionalText).both <|
      Check.required fields "credentials_path" optionalText).both <|
    Check.noOthers known fields
  match project? with
  | none => refuse missingProject
  | some project =>
      return ⟨project, ← resolve env (fields.get "credentials") path?, path?⟩

/-- An account described by a value, which has to be an object. -/
def ofJson (env : Environment) : Json → Outcome Account
  | .obj fields => ofFields env fields
  | _ => .error (.malformed .notAnObject)

/-- The providers with a configuration of their own. -/
def providers : List String := ["gcp"]

/-- An account of a provider given by name. -/
def forProvider (env : Environment) (provider config : Json) :
    Outcome Account :=
  if !provider.isKey then .error (.malformed .notAKey)
  else if providers.any fun name => provider.same (.str name) then
    ofJson env config
  else .error (.value
    ("No config model registered for provider: " ++ provider.shown))

end Account

end GrantKeeper
