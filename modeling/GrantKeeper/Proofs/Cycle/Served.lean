import GrantKeeper.Proofs.Fault.Steps
import GrantKeeper.Storage.Client

/-!
# Verbs through a client

A verb that is served by a client is a program over the calls of the storage
service.  The equations here spell that program out, call by call: a look at the
moment stands before every call, and what follows a call depends on its reply
alone, by way of `Membership.fetched` and `Membership.replaced`.

## Main results

* `Membership.fetch_lower`, `Membership.replace_lower` — the two calls.
* `Membership.observe_lower`, `Membership.create_lower`,
  `Membership.delete_lower` — the verbs.
* `Connector.reconcile_eq` — a cycle connects, observes, and goes on with one
  verb or none.
-/

namespace GrantKeeper

namespace Program

variable {τ ρ ι ρ' ι' α β γ : Type}

theorem attempt_attempt (p : Program τ ρ ι α) (f : Outcome α → Program τ ρ ι β)
    (g : Outcome β → Program τ ρ ι γ) :
    (p.attempt f).attempt g = p.attempt fun r => (f r).attempt g := by
  induction p with
  | done a => rfl
  | fail fault => rfl
  | look next ih => exact congrArg look (funext ih)
  | log entry next ih => exact congrArg (log entry) ih
  | note condition next ih => exact congrArg (note condition) ih
  | call request next ih => exact congrArg (call request) (funext ih)

theorem lower_attempt (serve : ρ → Program τ ρ' ι' ι) (p : Program τ ρ ι α)
    (f : Outcome α → Program τ ρ ι β) :
    (p.attempt f).lower serve = (p.lower serve).attempt fun r =>
    (f r).lower serve := by
  induction p with
  | done a => rfl
  | fail fault => rfl
  | look next ih => exact congrArg look (funext ih)
  | log entry next ih => exact congrArg (log entry) ih
  | note condition next ih => exact congrArg (note condition) ih
  | call request next ih =>
      simp only [lower, attempt, attempt_attempt]
      exact congrArg _ (funext ih)

@[simp] theorem ofOutcome_attempt (o : Outcome α)
    (f : Outcome α → Program τ ρ ι β) : (ofOutcome o).attempt f = f o := by
  cases o <;> rfl

end Program

open Program

variable {τ : Type} {client : Client τ} {managed : Managed} {b : Binding}

namespace Membership

/-! ## Calls -/

/-- What a verb makes of the reply to a get. -/
def fetched (b : Binding) (stage : Stage) : Outcome Json → Outcome Policy
  | .ok reply => Outcome.ofShape (Client.policyOf reply)
  | .error fault =>
      .error (atStage stage (Client.reported "get" b.resource fault))

/-- A policy that was fetched was read off a reply. -/
theorem exists_reply_of_fetched {stage : Stage} {o : Outcome Json} {d : Policy}
    (h : fetched b stage o = .ok d) :
    ∃ reply, o = .ok reply ∧ Client.policyOf reply = .ok d := by
  cases o with
  | error fault => cases h
  | ok reply =>
      exact ⟨reply, rfl, Outcome.ofShape_eq_ok_iff.mp h⟩

/-- A failed write, as the stage it happened in reports it. -/
def atWrite (stage : Stage) : Fault → Fault
  | .client .versionConflict message =>
      .writeConflict stage.text (.client .versionConflict message)
  | fault => atStage stage fault

/-- What a verb makes of the reply to a set. -/
def replaced (b : Binding) (stage : Stage) : Outcome Json → Outcome Unit
  | .ok reply => (Outcome.ofShape (Client.policyOf reply)).map fun _ => ()
  | .error fault =>
      .error (atWrite stage (Client.reported "set" b.resource fault))

/-- What a verb writes down about a replacement before it ends: its success, or
that it came too late. -/
def recorded (b : Binding) (stage : Stage) :
    Outcome Policy → StorageProgram τ Unit
  | .ok _ => .log ⟨.updated, b, stage⟩ (.done ())
  | .error (.client .versionConflict message) =>
      .log ⟨.changedConcurrently, b, stage⟩
        (.fail (.writeConflict stage.text (.client .versionConflict message)))
  | .error fault => .fail (atStage stage fault)

/-- What a verb makes of the reply to a set, with what it writes down. -/
def recordedReply (b : Binding) (stage : Stage) :
    Outcome Json → StorageProgram τ Unit
  | .ok reply => recorded b stage (Outcome.ofShape (Client.policyOf reply))
  | .error fault =>
      recorded b stage (.error (Client.reported "set" b.resource fault))

/-- A fetch is a get, unless the cycle is over. -/
theorem fetch_lower (client : Client τ) (b : Binding) (stage : Stage) :
    (fetch b stage).lower client.serve = .look fun m =>
      if m.isOver then .fail (.cancelled stage.text)
      else .log ⟨.fetching, b, stage⟩ (.call
        (.get b.resource Client.policyVersion
          (client.options (m.remaining?.map .seconds)))
        fun o => ofOutcome (fetched b stage o)) := by
  refine congrArg look (funext fun m => ?_)
  show Program.lower client.serve
    (Program.bind (if m.isOver then _ else _) _) = _
  cases m.isOver with
  | true => rfl
  | false =>
      refine congrArg (log _) (congrArg (call _) (funext fun o => ?_))
      cases o with
      | error fault => rfl
      | ok reply =>
          show Program.attempt
            (ofOutcome (Outcome.ofShape (Client.policyOf reply))) _ =
              ofOutcome (Outcome.ofShape (Client.policyOf reply))
          cases Client.policyOf reply <;> rfl

/-- A replacement is a set, unless the cycle is over, the policy has no etag, or
it cannot be written. -/
theorem replace_lower (client : Client τ) (b : Binding) (d : Policy)
    (stage : Stage) : (replace b d stage).lower client.serve = .look fun m =>
      if m.isOver then .fail (.cancelled stage.text)
      else if d.etag.truthy then
        match Client.payloadOf d with
        | .ok payload => .call
            (.set b.resource payload
              (client.options (m.remaining?.map .seconds)))
            (recordedReply b stage)
        | .error cause => .fail (.malformed cause)
      else .fail (atStage stage (Client.missingToken b.resource)) := by
  have hrecorded (o : Outcome Policy) : Program.lower client.serve (match o with
      | .ok _ => Program.write ⟨.updated, b, stage⟩
      | .error (.client .versionConflict message) => do
          Program.write ⟨.changedConcurrently, b, stage⟩
          throw (.writeConflict stage.text (.client .versionConflict message))
      | .error fault => throw (atStage stage fault)) = recorded b stage o := by
    cases o with
    | ok policy => rfl
    | error fault =>
        cases fault with
        | client kind message => cases kind <;> rfl
        | _ => rfl
  refine congrArg look (funext fun m => ?_)
  show Program.lower client.serve
    (Program.bind (if m.isOver then _ else _) _) = _
  cases m.isOver with
  | true => rfl
  | false =>
      show Program.attempt
        (client.replace b.resource d (m.remaining?.map .seconds)) _ = _
      unfold Client.replace
      cases hetag : d.etag.truthy with
      | false => rfl
      | true =>
          cases hpayload : Client.payloadOf d with
          | error cause => rfl
          | ok payload =>
              refine congrArg (call _) (funext fun o => ?_)
              cases o with
              | error fault => exact hrecorded _
              | ok reply =>
                  show Program.attempt
                    (ofOutcome (Outcome.ofShape (Client.policyOf reply))) _ = _
                  rw [ofOutcome_attempt]
                  exact hrecorded _

/-- What follows a fetch depends on the reply to the get alone, unless the cycle
is over. -/
theorem fetch_lower_attempt {α : Type} (client : Client τ) (b : Binding)
    (stage : Stage) (f : Outcome Policy → StorageProgram τ α) :
    ((fetch b stage).lower client.serve).attempt f = .look fun m =>
      if m.isOver then f (.error (.cancelled stage.text))
      else .log ⟨.fetching, b, stage⟩ (.call
        (.get b.resource Client.policyVersion
          (client.options (m.remaining?.map .seconds)))
        fun o => f (fetched b stage o)) := by
  rw [fetch_lower]
  refine congrArg look (funext fun m => ?_)
  show Program.attempt (if m.isOver then _ else _) f = _
  cases m.isOver with
  | true => rfl
  | false =>
      exact congrArg (log _)
        (congrArg (call _) (funext fun o => ofOutcome_attempt _ f))

/-! ## Verbs -/

/-- What is left of an observation after the fetch. -/
def observed (b : Binding) :
    Outcome Policy → StorageProgram τ (Observation Bool)
  | .ok d =>
      if d.holds b.role b.member then .look fun m =>
        (ofOutcome m.wall).bind fun time =>
          .note (.available time) (.done .inPlace)
      else .done .absent
  | .error fault =>
      if isNotFound fault then .log ⟨.notFound, b, .observeFetch⟩
        (.done .absent) else .fail fault

/-- What is left of a creation after the fetch. -/
def created (client : Client τ) (b : Binding) :
    Outcome Policy → StorageProgram τ Unit
  | .ok d =>
      if d.holds b.role b.member then .log ⟨.alreadyBound, b, .createWrite⟩
        (.done ())
      else (replace b (d.grant b).1 .createWrite).lower client.serve
  | .error fault => .fail fault

/-- What is left of a deletion after the fetch. -/
def deleted (client : Client τ) (b : Binding) :
    Outcome Policy → StorageProgram τ Unit
  | .ok d =>
      if d.holds b.role b.member then
        (replace b (d.revoke b).1 .deleteWrite).lower client.serve
      else .log ⟨.alreadyUnbound, b, .deleteWrite⟩ (.done ())
  | .error fault =>
      if isNotFound fault then .log ⟨.notFound, b, .deleteFetch⟩ (.done ())
        else .fail fault

/-- A fetch that may find nothing is a fetch whose reply is looked at. -/
private theorem fetchIfAny_bind {α : Type} (b : Binding) (stage : Stage)
    (f : Option Policy → Verb τ α) :
    (fetchIfAny b stage).bind f = (fetch b stage).attempt fun
      | .ok d => f (some d)
      | .error fault =>
          if isNotFound fault then .log ⟨.notFound, b, stage⟩ (f none)
            else .fail fault := by
  rw [fetchIfAny, attempt_bind]
  refine congrArg (Program.attempt _) (funext fun o => ?_)
  cases o with
  | ok d => rfl
  | error fault =>
      show Program.bind (if isNotFound fault then _ else _) f =
        if isNotFound fault then _ else _
      cases isNotFound fault <;> rfl

/-- To observe is to fetch, and to note the time if the member holds the
role. -/
theorem observe_lower (hb : managed.binding = .ok b) (client : Client τ) :
    (observe managed).lower client.serve =
      ((fetch b .observeFetch).lower client.serve).attempt (observed b) := by
  rw [observe, hb]
  show Program.lower client.serve ((fetchIfAny b .observeFetch).bind _) = _
  rw [fetchIfAny_bind, lower_attempt]
  refine congrArg (Program.attempt _) (funext fun o => ?_)
  cases o with
  | error fault =>
      show Program.lower client.serve (if isNotFound fault then _ else _) = _
      rw [observed]
      cases isNotFound fault <;> rfl
  | ok d =>
      show Program.lower client.serve
        (if d.holds b.role b.member then _ else _) = _
      rw [observed]
      cases d.holds b.role b.member with
      | false => rfl
      | true =>
          refine congrArg look (funext fun m => ?_)
          show Program.lower client.serve ((ofOutcome m.wall).bind _) = _
          cases m.wall <;> rfl

/-- To create is to fetch, and to replace if the member does not hold the
role. -/
theorem create_lower (hb : managed.binding = .ok b) (client : Client τ) :
    (create managed).lower client.serve =
      ((fetch b .createFetch).lower client.serve).attempt
        (created client b) := by
  rw [create, hb]
  show Program.lower client.serve ((fetch b .createFetch).bind _) = _
  rw [bind_eq_attempt, lower_attempt]
  refine congrArg (Program.attempt _) (funext fun o => ?_)
  cases o with
  | error fault => rfl
  | ok d =>
      show Program.lower client.serve
        (if (d.grant b).2 then replace b (d.grant b).1 .createWrite
          else Program.write ⟨.alreadyBound, b, .createWrite⟩) = _
      rw [Policy.grant_changed, created]
      cases d.holds b.role b.member <;> rfl

/-- To delete is to fetch, and to replace if the member holds the role. -/
theorem delete_lower (hb : managed.binding = .ok b) (client : Client τ) :
    (delete managed).lower client.serve =
      ((fetch b .deleteFetch).lower client.serve).attempt
        (deleted client b) := by
  rw [delete, hb]
  show Program.lower client.serve ((fetchIfAny b .deleteFetch).bind _) = _
  rw [fetchIfAny_bind, lower_attempt]
  refine congrArg (Program.attempt _) (funext fun o => ?_)
  cases o with
  | error fault =>
      show Program.lower client.serve (if isNotFound fault then _ else _) = _
      rw [deleted]
      cases isNotFound fault <;> rfl
  | ok d =>
      show Program.lower client.serve
        (if (d.revoke b).2 then replace b (d.revoke b).1 .deleteWrite
          else Program.write ⟨.alreadyUnbound, b, .deleteWrite⟩) = _
      rw [Policy.revoke_changed, deleted]
      cases d.holds b.role b.member <;> rfl

end Membership

/-! ## Cycles -/

namespace Connector

/-- What a connector makes of the reply to its sign-in. -/
def signedIn (c : Connector τ) : Outcome Json → Outcome (Client τ)
  | .ok _ => .ok ⟨c.callTimeout⟩
  | .error fault => .error (atConnect fault)

/-- To connect is to sign in. -/
theorem connect_eq (hb : managed.binding = .ok b) (c : Connector τ) :
    c.connect managed = .call (.connect c.account) fun o =>
      ofOutcome (c.signedIn o) := by
  rw [connect, hb]
  refine congrArg (call _) (funext fun o => ?_)
  cases o <;> rfl

/-- What a cycle does after it observed. -/
def act (client : Client τ) (managed : Managed) (found : Observation Bool) :
    StorageProgram τ (CycleResult Bool) :=
  if managed.wantsRemoval then
    if found.present then (external client managed).delete.bind fun _ =>
      .done ⟨.deleted, found⟩
    else .done ⟨.none, found⟩
  else if !found.present then
    (external client managed).create.bind fun _ => .done ⟨.created, found⟩
  else if !found.upToDate then
    (external client managed).update.bind fun _ => .done ⟨.updated, found⟩
  else .done ⟨.none, found⟩

theorem reconcile_eq (c : Connector τ) (managed : Managed) :
    c.reconcile managed = (c.connect managed).bind fun client =>
      (external client managed).observe.bind (act client managed) := by
  show ((c.connect managed).bind fun client =>
    .done (external client managed)).bind _ = _
  rw [bind_bind]
  refine congrArg (Program.bind _) (funext fun client => ?_)
  show (external client managed).observe.bind _ = _
  refine congrArg (Program.bind _) (funext fun found => ?_)
  rfl

end Connector

end GrantKeeper
