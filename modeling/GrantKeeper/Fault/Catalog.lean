import GrantKeeper.Fault.Basic
import GrantKeeper.Json.Display

/-!
# The catalog of outside failures

The failures of the storage service have names and mostly a status code, which
their text shows in front. Those of its sign-in library, of its transport and of
the system have names only.
-/

namespace GrantKeeper.Catalog

/-- The trait that a status of the service brings with it. -/
inductive Family where
  | other
  | notFound
  | forbidden
  | unauthorized
  | preconditionFailed
  | conflict
  | server
  | tooManyRequests
deriving DecidableEq, Repr

/-- The traits of a failed call. -/
def Family.traits (f : Family) : Traits where
  call := true
  retry := false
  auth := false
  system := false
  notFound := f == .notFound
  forbidden := f == .forbidden
  unauthorized := f == .unauthorized
  preconditionFailed := f == .preconditionFailed
  conflict := f == .conflict
  server := f == .server
  tooManyRequests := f == .tooManyRequests
  transport := false

/-- Names of failed calls, with their status codes. -/
def calls : List (String × Option Nat × Family) :=
  [("GoogleAPICallError", none, .other),
    ("Redirection", none, .other),
    ("MovedPermanently", some 301, .other),
    ("NotModified", some 304, .other),
    ("TemporaryRedirect", some 307, .other),
    ("ResumeIncomplete", some 308, .other),
    ("ClientError", none, .other),
    ("BadRequest", some 400, .other),
    ("InvalidArgument", some 400, .other),
    ("FailedPrecondition", some 400, .other),
    ("OutOfRange", some 400, .other),
    ("Unauthorized", some 401, .unauthorized),
    ("Unauthenticated", some 401, .unauthorized),
    ("Forbidden", some 403, .forbidden),
    ("PermissionDenied", some 403, .forbidden),
    ("NotFound", some 404, .notFound),
    ("MethodNotAllowed", some 405, .other),
    ("Conflict", some 409, .conflict),
    ("AlreadyExists", some 409, .conflict),
    ("Aborted", some 409, .conflict),
    ("LengthRequired", some 411, .other),
    ("PreconditionFailed", some 412, .preconditionFailed),
    ("RequestRangeNotSatisfiable", some 416, .other),
    ("TooManyRequests", some 429, .tooManyRequests),
    ("ResourceExhausted", some 429, .tooManyRequests),
    ("Cancelled", some 499, .other),
    ("ServerError", none, .server),
    ("InternalServerError", some 500, .server),
    ("Unknown", some 500, .server),
    ("DataLoss", some 500, .server),
    ("MethodNotImplemented", some 501, .server),
    ("BadGateway", some 502, .server),
    ("ServiceUnavailable", some 503, .server),
    ("GatewayTimeout", some 504, .server),
    ("DeadlineExceeded", some 504, .server)]

/-- A failure of the service by its name; a name that is not listed is no failed
call. -/
def service (name message : String) : Foreign :=
  match calls.lookup name with
  | some (code?, family) =>
      let code := (code?.map Decimal.digitsText).getD "None"
      ⟨name, code ++ " " ++ message, family.traits⟩
  | none =>
      if name = "RetryError" then
        ⟨name, message ++ ", last exception: None",
          { Traits.unknown with retry := true }⟩
      else ⟨name, message, .unknown⟩

/-- Names of failures to sign in again. -/
def signInAgain : List String :=
  ["ReauthFailError", "ReauthSamlChallengeFailError"]

/-- A failure to sign in; one to sign in again says so in front of its
message. -/
def signIn (name message : String) : Foreign :=
  ⟨name, if signInAgain.contains name then "Reauthentication failed. " ++
    message else message, { Traits.unknown with
      auth := true
      system := name == "OSError"
      transport := name == "TransportError" }⟩

/-- A failure of the transport, which counts as one of the system. -/
def transport (name message : String) : Foreign :=
  ⟨name, message, { Traits.unknown with system := true }⟩

/-- Other names of the general failure of the system. -/
def systemAliases : List String := ["IOError", "EnvironmentError"]

/-- The names of failures of the system. -/
def systemNames : List String :=
  ["OSError", "BlockingIOError", "BrokenPipeError", "ChildProcessError",
    "ConnectionAbortedError", "ConnectionError", "ConnectionRefusedError",
    "ConnectionResetError", "FileExistsError", "FileNotFoundError",
    "InterruptedError", "IsADirectoryError", "NotADirectoryError",
    "PermissionError", "ProcessLookupError", "TimeoutError"]

/-- A failure of the system or of a program; the one that names a missing key
quotes its message. -/
def general (name : String) (message : Json) : Fault :=
  let name := if systemAliases.contains name then "OSError" else name
  if name = "ValueError" then .value message.shown
  else if systemNames.contains name then
    .foreign ⟨name, message.shown, { Traits.unknown with system := true }⟩
  else
    .foreign
      ⟨name, if name = "KeyError" then message.inner else message.shown,
        .unknown⟩

end GrantKeeper.Catalog
