import GrantKeeper.Config.Account
import GrantKeeper.Config.Settings
import GrantKeeper.Cycle.Membership
import GrantKeeper.Policy.Wire

/-!
# The client of the storage service

A client fetches and replaces the policy of a bucket with one call of the
service each.  It always asks for the richest version of a policy, never lets
the service try again, and refuses to write a policy that does not say which
state it was read from.  A failed call becomes a `ClientFault`; any other
failure passes as it is.

Main definitions:

* `StorageCall`: the calls of the service;
* `Client.fetch`, `Client.replace`, `Client.serve`: the client;
* `Connector`: makes a client for a resource, and runs verbs and cycles through
  it.
-/

namespace GrantKeeper

/-- How long a call may take: so many seconds, or whatever a caller passed
on. -/
inductive Timeout (τ : Type) where
  | seconds (time : τ)
  | given (value : Json)
deriving Repr

/-- How a call is made. -/
structure CallOptions (τ : Type) where
  timeout : Timeout τ
  retried : Bool
deriving Repr

/-- A call of the storage service. -/
inductive StorageCall (τ : Type) where
  | connect (account : Account)
  | get (bucket : String) (version : Nat) (options : CallOptions τ)
  | set (bucket : String) (policy : Json) (options : CallOptions τ)
deriving Repr

/-- A program that calls the storage service. -/
abbrev StorageProgram (τ α : Type) := Program τ (StorageCall τ) Json α

/-- A client, which knows how long a call may take when nobody says so. -/
structure Client (τ : Type) where
  standardTimeout : τ
deriving Repr

namespace Client

variable {τ : Type}

/-- The version of policies that hides no binding. -/
def policyVersion : Nat := 3

/-- The options of a call that may take some time. -/
def options (client : Client τ) (timeout? : Option (Timeout τ)) :
    CallOptions τ :=
  ⟨timeout?.getD (.seconds client.standardTimeout), false⟩

/-- A failure as the client reports it: failed calls by their kind, all else
unchanged. -/
def reported (verb bucket : String) : Fault → Fault
  | .foreign failure =>
      if failure.traits.isCallFailure then
        .client failure.traits.classify
          ("Failed to " ++ verb ++ " IAM policy of bucket '" ++ bucket ++ "'.")
      else .foreign failure
  | fault => fault

/-- The policy that a reply holds. -/
def policyOf (reply : Json) : Except Malformed Policy := do
  Policy.decode (← (← WirePolicy.decode reply).encode)

/-- What is sent in order to write a policy. -/
def payloadOf (policy : Policy) : Except Malformed Json := do
  (← WirePolicy.decode (← policy.encode)).encode

/-- Makes one call and reads the policy in its reply. -/
def exchange (verb bucket : String) (request : StorageCall τ) :
    StorageProgram τ Policy := do
  match ← Program.ask request with
  | .ok reply => Program.ofOutcome (Outcome.ofShape (policyOf reply))
  | .error fault => throw (reported verb bucket fault)

/-- Fetches the policy of a bucket. -/
def fetch (client : Client τ) (bucket : String)
    (timeout? : Option (Timeout τ)) : StorageProgram τ Policy :=
  exchange "get" bucket (.get bucket policyVersion (client.options timeout?))

/-- Why a policy without an etag is not written. -/
def missingToken (bucket : String) : Fault :=
  .client .missingToken ("Refusing to set IAM policy of bucket '" ++ bucket ++
    "' without an etag.")

/-- Replaces the policy of a bucket. -/
def replace (client : Client τ) (bucket : String) (policy : Policy)
    (timeout? : Option (Timeout τ)) : StorageProgram τ Policy :=
  if policy.etag.truthy then do
    let payload ← Program.ofOutcome (Outcome.ofShape (payloadOf policy))
    exchange "set" bucket (.set bucket payload (client.options timeout?))
  else throw (missingToken bucket)

/-- Serves the calls of the verbs. -/
def serve (client : Client τ) : PolicyCall τ → StorageProgram τ Policy
  | .fetch bucket timeout? => client.fetch bucket (timeout?.map .seconds)
  | .replace bucket policy timeout? =>
      client.replace bucket policy (timeout?.map .seconds)

end Client

/-- What it takes to make a client, and the logger it is used under. -/
structure Connector (τ : Type) where
  account : Account
  callTimeout : τ
  logger : String
deriving Repr

namespace Connector

variable {τ : Type}

/-- Makes a client. -/
def openClient (c : Connector τ) : StorageProgram τ (Client τ) := do
  match ← Program.ask (.connect c.account) with
  | .ok _ => pure ⟨c.callTimeout⟩
  | .error fault => throw fault

/-- A failure to sign in, as a cycle reports it. -/
def atConnect : Fault → Fault
  | .foreign failure =>
      if failure.traits.auth then
        .connect ("connect: cannot create storage client: " ++ failure.text)
      else .foreign failure
  | fault => fault

/-- Makes a client for a resource, which has to be a membership. -/
def connect (c : Connector τ) (managed : Managed) :
    StorageProgram τ (Client τ) := do
  let _ ← Program.ofOutcome managed.binding
  c.openClient.attempt fun
    | .ok client => pure client
    | .error fault => throw (atConnect fault)

/-- The verbs on a resource through a client. -/
def external (client : Client τ) (managed : Managed) :
    External (Program τ (StorageCall τ) Json) Bool where
  observe := (Membership.observe managed).lower client.serve
  create := (Membership.create managed).lower client.serve
  update := (Membership.update managed).lower client.serve
  delete := (Membership.delete managed).lower client.serve

/-- Runs one cycle for a resource through a client of its own. -/
def reconcile (c : Connector τ) (managed : Managed) :
    StorageProgram τ (CycleResult Bool) :=
  GrantKeeper.reconcile (do return external (← c.connect managed) managed)
    managed.wantsRemoval

/-- Connects and observes. -/
def observe (c : Connector τ) (managed : Managed) :
    StorageProgram τ (Observation Bool) := do
  (external (← c.connect managed) managed).observe

end Connector

end GrantKeeper
