import GrantKeeper.Cycle.Program
import GrantKeeper.Cycle.Reconcile
import GrantKeeper.Policy.Edit

/-!
# The verbs on one membership

Every verb fetches the policy afresh, looks whether the member holds the role,
and writes only if something has to change, once, and with the etag of that
fetch.  Before every call it checks that the cycle may go on; what is left of
its time bounds the call.  Nothing is tried twice.

Main definitions:

* `PolicyCall`: the calls that a verb makes;
* `Managed`: what a verb is asked to work on;
* `Membership.observe`, `create`, `update`, `delete`: the verbs;
* `Membership.external`: the four together.
-/

namespace GrantKeeper

/-- A call on the policy of a bucket. -/
inductive PolicyCall (τ : Type) where
  | fetch (bucket : String) (timeout? : Option τ)
  | replace (bucket : String) (policy : Policy) (timeout? : Option τ)
deriving Repr

/-- A program that works on policies. -/
abbrev Verb (τ α : Type) := Program τ (PolicyCall τ) Policy α

/-- A managed resource: a membership, or something else that ended up here. -/
inductive Managed where
  | member (resource : Resource)
  | other (value : Json)
deriving Repr, Inhabited

namespace Managed

/-- The binding that a resource declares. -/
def binding : Managed → Outcome Binding
  | .member resource => Outcome.ofShape resource.binding
  | .other _ =>
      .error (.typeMismatch "managed resource is not a GCP BucketPolicyMember")

/-- The resource asks for its removal. -/
def wantsRemoval : Managed → Bool
  | .member resource => resource.wantsRemoval
  | .other value => (value.get "deletion_requested").truthy

end Managed

namespace Membership

variable {τ : Type}

/-- Stops the cycle before a stage if it may not go on; tells the time left
otherwise. -/
def enter (stage : Stage) : Verb τ (Option τ) := do
  let moment ← Program.moment
  if moment.isOver then throw (.cancelled stage.text)
    else pure moment.remaining?

/-- A failed call, as the stage it happened in reports it.  Only faults of the
client are reported so. -/
def atStage (stage : Stage) : Fault → Fault
  | .client fault message => .reconcile stage.text (.client fault message)
  | fault => fault

/-- Fetches the policy of the bucket. -/
def fetch (b : Binding) (stage : Stage) : Verb τ Policy := do
  let timeout? ← enter stage
  Program.write ⟨.fetching, b, stage⟩
  match ← Program.ask (.fetch b.resource timeout?) with
  | .ok policy => pure policy
  | .error fault => throw (atStage stage fault)

/-- Writes a policy to the bucket. -/
def replace (b : Binding) (policy : Policy) (stage : Stage) : Verb τ Unit := do
  let timeout? ← enter stage
  match ← Program.ask (.replace b.resource policy timeout?) with
  | .ok _ => Program.write ⟨.updated, b, stage⟩
  | .error (.client .versionConflict message) => do
      Program.write ⟨.changedConcurrently, b, stage⟩
      throw (.writeConflict stage.text (.client .versionConflict message))
  | .error fault => throw (atStage stage fault)

/-- A fault reports that there is no policy. -/
def isNotFound (fault : Fault) : Bool :=
  match fault.cause? with
  | some (.client .notFound _) => true
  | _ => false

/-- Fetches the policy; none if there is no policy to fetch, which is only
written down. -/
def fetchIfAny (b : Binding) (stage : Stage) : Verb τ (Option Policy) :=
  (fetch b stage).attempt fun
    | .ok policy => pure (some policy)
    | .error fault =>
        if isNotFound fault then do
          Program.write ⟨.notFound, b, stage⟩
          pure none
        else throw fault

/-- Looks whether the member holds the role, and if so notes that the resource
is available. -/
def observe (managed : Managed) : Verb τ (Observation Bool) := do
  let b ← Program.ofOutcome managed.binding
  match ← fetchIfAny b .observeFetch with
  | none => pure .absent
  | some policy =>
      if policy.holds b.role b.member then do
        let moment ← Program.moment
        Program.noting (.available (← Program.ofOutcome moment.wall))
        pure .inPlace
      else pure .absent

/-- Gives the member the role unless it has it. -/
def create (managed : Managed) : Verb τ Unit := do
  let b ← Program.ofOutcome managed.binding
  let policy ← fetch b .createFetch
  let (wanted, changed) := policy.grant b
  if changed then replace b wanted .createWrite
  else Program.write ⟨.alreadyBound, b, .createWrite⟩

/-- Corrects drift, which is the same as binding the member anew. -/
def update (managed : Managed) : Verb τ Unit := create managed

/-- Takes the role from the member if it has it. -/
def delete (managed : Managed) : Verb τ Unit := do
  let b ← Program.ofOutcome managed.binding
  match ← fetchIfAny b .deleteFetch with
  | none => pure ()
  | some policy =>
      let (wanted, changed) := policy.revoke b
      if changed then replace b wanted .deleteWrite
      else Program.write ⟨.alreadyUnbound, b, .deleteWrite⟩

/-- The verbs on a resource. -/
def external (managed : Managed) :
    External (Program τ (PolicyCall τ) Policy) Bool where
  observe := observe managed
  create := create managed
  update := update managed
  delete := delete managed

end Membership

end GrantKeeper
