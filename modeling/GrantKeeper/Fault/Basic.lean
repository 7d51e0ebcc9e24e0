import GrantKeeper.Schema

/-!
# Faults

A step can fail by its own rules, by data that lacks a shape, or because the
storage service or one of its libraries failed.  Failures of the last kind are
only known by their traits, of which one failure may have several;
`Traits.classify` turns them into a `ClientFault`.

Main definitions:

* `Traits`, `Foreign`: failures from outside;
* `ClientFault`: the ways in which a policy can fail to be fetched or replaced;
* `Fault`: everything that can end a step early, with its `text`, `stage?` and
  `retryable?`.
-/

namespace GrantKeeper

/-- What is known of a failure from outside.  The first four say where it comes
from. -/
structure Traits where
  call : Bool
  retry : Bool
  auth : Bool
  system : Bool
  notFound : Bool
  forbidden : Bool
  unauthorized : Bool
  preconditionFailed : Bool
  conflict : Bool
  server : Bool
  tooManyRequests : Bool
  transport : Bool
deriving DecidableEq, Repr, Inhabited

/-- A failure from outside. -/
structure Foreign where
  kind : String
  text : String
  traits : Traits
deriving DecidableEq, Repr, Inhabited

/-- How a policy can fail to be fetched or replaced. -/
inductive ClientFault where
  | unspecified
  | notFound
  | permissionDenied
  | unavailable
  | versionConflict
  | missingToken
deriving DecidableEq, Repr

namespace ClientFault

/-- Trying again later may help. -/
def retryable : ClientFault → Bool
  | .unavailable => true
  | .versionConflict => true
  | _ => false

end ClientFault

namespace Traits

/-- Nothing is known of the failure. -/
def unknown : Traits :=
  ⟨false, false, false, false, false, false, false, false, false, false,
    false, false⟩

/-- A failed call of the service, to be told from a mistake in the program. -/
def isCallFailure (t : Traits) : Bool := t.call || t.retry || t.auth || t.system

/-- The kind of failure; the first rule that fits decides. -/
def classify (t : Traits) : ClientFault :=
  if t.notFound then .notFound
  else if t.forbidden || t.unauthorized then .permissionDenied
  else if t.preconditionFailed || t.conflict then .versionConflict
  else if t.server || t.tooManyRequests || t.retry || t.transport ||
    t.system then .unavailable
  else .unspecified

end Traits

/-- The places in a reconcile cycle where it can stop. -/
inductive Stage where
  | observeFetch
  | createFetch
  | createWrite
  | deleteFetch
  | deleteWrite
deriving DecidableEq, Repr

namespace Stage

/-- The name of a stage. -/
def text : Stage → String
  | .observeFetch => "observe-fetch"
  | .createFetch => "create-fetch"
  | .createWrite => "create-write"
  | .deleteFetch => "delete-fetch"
  | .deleteWrite => "delete-write"

/-- All stages. -/
def all : List Stage :=
  [observeFetch, createFetch, createWrite, deleteFetch, deleteWrite]

end Stage

/-- Why a step ended early. -/
inductive Fault where
  /-- A failure from outside that nobody handles. -/
  | foreign (failure : Foreign)
  /-- A policy was not fetched or not replaced. -/
  | client (fault : ClientFault) (message : String)
  /-- The managed resource is of another kind. -/
  | typeMismatch (message : String)
  /-- No client for the service could be made. -/
  | connect (message : String)
  /-- The cycle was cancelled or ran out of time before this stage. -/
  | cancelled (stage : String)
  /-- A policy was not fetched or not replaced at this stage. -/
  | reconcile (stage : String) (cause : Fault)
  /-- A policy was not replaced at this stage because another writer changed
  it. -/
  | writeConflict (stage : String) (cause : Fault)
  /-- A failure of the program that is none of these. -/
  | unnamed (message : String)
  /-- A value is refused by a rule. -/
  | value (message : String)
  /-- A value does not fit its model. -/
  | invalid (report : Report)
  /-- A value lacks a shape. -/
  | malformed (cause : Malformed)
deriving DecidableEq, Repr, Inhabited

namespace Fault

/-- The text of a fault.  Faults of shape have none. -/
def text : Fault → String
  | .foreign failure => failure.text
  | .client _ message => message
  | .typeMismatch message => message
  | .connect message => message
  | .cancelled stage => "reconcile cycle cancelled before " ++ stage
  | .reconcile stage cause => stage ++ ": " ++ cause.text
  | .writeConflict stage cause => stage ++ ": " ++ cause.text
  | .unnamed message => message
  | .value message => message
  | .invalid report => report.text
  | .malformed _ => ""

/-- The stage a fault names. -/
def stage? : Fault → Option String
  | .connect _ => some "connect"
  | .cancelled stage => some stage
  | .reconcile stage _ => some stage
  | .writeConflict stage _ => some stage
  | _ => none

/-- Whether trying again later may help, where that is known.  It does not help
to sign in again. -/
def retryable? : Fault → Option Bool
  | .foreign failure => if failure.traits.auth then some false else none
  | .client fault _ => some fault.retryable
  | .reconcile _ cause => cause.retryable?
  | .writeConflict _ cause => cause.retryable?
  | _ => none

/-- The cause of a fault that has one. -/
def cause? : Fault → Option Fault
  | .reconcile _ cause => some cause
  | .writeConflict _ cause => some cause
  | _ => none

/-- The fault is one of the program's own, which a command reports to its
user. -/
def isOwn : Fault → Bool
  | .client .. => true
  | .typeMismatch _ => true
  | .connect _ => true
  | .cancelled _ => true
  | .reconcile .. => true
  | .writeConflict .. => true
  | .unnamed _ => true
  | _ => false

/-- The fault refuses a value, by a rule or by a model. -/
def isRefusal : Fault → Bool
  | .value _ => true
  | .invalid _ => true
  | _ => false

@[simp] theorem retryable?_reconcile (stage : String) (cause : Fault) :
    (reconcile stage cause).retryable? = cause.retryable? := rfl

@[simp] theorem retryable?_client (fault : ClientFault) (message : String) :
    (client fault message).retryable? = some fault.retryable := rfl

end Fault

/-- A step that may end early. -/
abbrev Outcome (α : Type) := Except Fault α

namespace Outcome

variable {α : Type}

/-- Takes an outcome over whose only faults are faults of shape. -/
def ofShape : Except Malformed α → Outcome α := Except.mapError .malformed

/-- Takes an outcome over whose only faults are those of a model. -/
def ofModel : Except Report α → Outcome α := Except.mapError .invalid

end Outcome

end GrantKeeper
