import GrantKeeper.Proofs.Cycle.Logic
import GrantKeeper.Proofs.Cycle.Served

/-!
# Rules for the verbs

What a verb and a cycle do in terms of the calls they make of the storage
service, whatever the protocol is. Before every call the cycle may turn out to
be over; a reply is turned into a policy or a fault by `Membership.fetched` and
`Membership.replaced`, which do not depend on anything else.

## Main results

* `Membership.meets_fetch_attempt`, `Membership.meets_replace` — the two calls.
* `Membership.meets_observe`, `Membership.meets_create`,
  `Membership.meets_delete` — the verbs.
* `Connector.meets_reconcile` — a cycle connects, observes, and goes on with one
  verb or none.
-/

namespace GrantKeeper

variable {τ σ : Type} {P : Protocol τ (StorageCall τ) Json σ} {s : σ}
  {client : Client τ} {managed : Managed} {b : Binding}

open Program

namespace Membership

/-! ## Calls -/

/-- A fetch, whatever follows, is a get, unless the cycle is over. -/
theorem meets_fetch_attempt {α : Type} {stage : Stage}
    {f : Outcome Policy → StorageProgram τ α} {post : Outcome α → σ → Prop}
    (hover : ∀ m, P.sees s m → m.isOver = true →
      Meets P (f (.error (.cancelled stage.text))) s post)
    (hget : ∀ options,
      P.call s (.get b.resource Client.policyVersion options) fun o s' =>
      Meets P (f (fetched b stage o)) s' post) :
    Meets P (((fetch b stage).lower client.serve).attempt f) s post := by
  rw [fetch_lower_attempt]
  intro m hm
  show Meets P (if m.isOver then _ else _) s post
  cases hnow : m.isOver with
  | true => exact hover m hm hnow
  | false => exact hget _

private theorem meets_recorded {stage : Stage} {o : Outcome Policy}
    {post : Outcome Unit → σ → Prop}
    (h : post ((o.map fun _ => ()).mapError (atWrite stage)) s) :
    Meets P (recorded b stage o) s post := by
  cases o with
  | ok policy => exact h
  | error fault =>
      cases fault with
      | client kind message => cases kind <;> exact h
      | _ => exact h

theorem meets_recordedReply {stage : Stage} {o : Outcome Json}
    {post : Outcome Unit → σ → Prop}
    (h : post (replaced b stage o) s) :
    Meets P (recordedReply b stage o) s post := by
  cases o with
  | error fault => exact meets_recorded h
  | ok reply =>
      refine meets_recorded ?_
      rw [replaced] at h
      cases hpolicy : Client.policyOf reply with
      | error cause =>
          rw [hpolicy] at h
          exact h
      | ok policy =>
          rw [hpolicy] at h
          exact h

/-- A replacement is a set, unless the cycle is over, the policy has no etag, or
it cannot be written. -/
theorem meets_replace {stage : Stage} {d : Policy}
    {post : Outcome Unit → σ → Prop}
    (hover : ∀ m,
      P.sees s m → m.isOver = true → post (.error (.cancelled stage.text)) s)
    (htoken : d.etag.truthy = false →
      post (.error (atStage stage (Client.missingToken b.resource))) s)
    (hmalformed : ∀ cause,
      d.etag.truthy = true → Client.payloadOf d = .error cause →
      post (.error (.malformed cause)) s)
    (hset : ∀ options payload,
      d.etag.truthy = true → Client.payloadOf d = .ok payload →
      P.call s (.set b.resource payload options) fun o s' =>
        post (replaced b stage o) s') :
    Meets P ((replace b d stage).lower client.serve) s post := by
  rw [replace_lower]
  intro m hm
  show Meets P (if m.isOver then _ else _) s post
  cases hnow : m.isOver with
  | true => exact hover m hm hnow
  | false =>
      cases hetag : d.etag.truthy with
      | false => exact htoken hetag
      | true =>
          cases hpayload : Client.payloadOf d with
          | error cause => exact hmalformed cause hetag hpayload
          | ok payload =>
              exact P.mono (fun _ _ => meets_recordedReply)
                (hset _ payload hetag hpayload)

/-! ## Verbs -/

/-- What has to hold after the fetch of an observation. -/
def whenSeen (P : Protocol τ (StorageCall τ) Json σ) (b : Binding)
    (post : Outcome (Observation Bool) → σ → Prop) : Outcome Policy → σ → Prop
  | .ok d, s =>
      if d.holds b.role b.member then ∀ m,
        P.sees s m → post (m.wall.map fun _ => .inPlace) s
      else post (.ok .absent) s
  | .error fault, s =>
      if isNotFound fault then post (.ok .absent) s else post (.error fault) s

/-- To observe is to fetch, and to note the time if the member holds the
role. -/
theorem meets_observe {post : Outcome (Observation Bool) → σ → Prop}
    (hb : managed.binding = .ok b)
    (hover : ∀ m, P.sees s m → m.isOver = true →
      post (.error (.cancelled Stage.observeFetch.text)) s)
    (hget : ∀ options,
      P.call s (.get b.resource Client.policyVersion options) fun o s' =>
      whenSeen P b post (fetched b .observeFetch o) s') :
    Meets P ((observe managed).lower client.serve) s post := by
  rw [observe_lower hb]
  refine meets_fetch_attempt hover fun options => P.mono ?_ (hget options)
  intro o s' h
  cases hfetched : fetched b .observeFetch o with
  | error fault =>
      rw [hfetched, whenSeen] at h
      show Meets P (if isNotFound fault then _ else _) s' post
      split
      · rename_i hnone
        rwa [if_pos hnone] at h
      · rename_i hnone
        rwa [if_neg hnone] at h
  | ok d =>
      rw [hfetched, whenSeen] at h
      show Meets P (if d.holds b.role b.member then _ else _) s' post
      split
      · rename_i hholds
        rw [if_pos hholds] at h
        intro m hm
        have hm' := h m hm
        show Meets P ((ofOutcome m.wall).bind _) s' post
        cases hwall : m.wall with
        | error fault =>
            rw [hwall] at hm'
            exact hm'
        | ok time =>
            rw [hwall] at hm'
            exact hm'
      · rename_i hholds
        rwa [if_neg hholds] at h

/-- What has to hold after the fetch of a creation. -/
def whenToCreate (P : Protocol τ (StorageCall τ) Json σ) (client : Client τ)
    (b : Binding) (post : Outcome Unit → σ → Prop) : Outcome Policy → σ → Prop
  | .ok d, s =>
      if d.holds b.role b.member then post (.ok ()) s
      else Meets P ((replace b (d.grant b).1 .createWrite).lower client.serve)
        s post
  | .error fault, s => post (.error fault) s

/-- To create is to fetch, and to replace if the member does not hold the
role. -/
theorem meets_create {post : Outcome Unit → σ → Prop}
    (hb : managed.binding = .ok b) (hover : ∀ m, P.sees s m → m.isOver = true →
      post (.error (.cancelled Stage.createFetch.text)) s)
    (hget : ∀ options,
      P.call s (.get b.resource Client.policyVersion options) fun o s' =>
      whenToCreate P client b post (fetched b .createFetch o) s') :
    Meets P ((create managed).lower client.serve) s post := by
  rw [create_lower hb]
  refine meets_fetch_attempt hover fun options => P.mono ?_ (hget options)
  intro o s' h
  cases hfetched : fetched b .createFetch o with
  | error fault =>
      rw [hfetched] at h
      exact h
  | ok d =>
      rw [hfetched, whenToCreate] at h
      show Meets P (if d.holds b.role b.member then _ else _) s' post
      split
      · rename_i hholds
        rwa [if_pos hholds] at h
      · rename_i hholds
        rwa [if_neg hholds] at h

/-- What has to hold after the fetch of a deletion. -/
def whenToDelete (P : Protocol τ (StorageCall τ) Json σ) (client : Client τ)
    (b : Binding) (post : Outcome Unit → σ → Prop) : Outcome Policy → σ → Prop
  | .ok d, s =>
      if d.holds b.role b.member then
        Meets P ((replace b (d.revoke b).1 .deleteWrite).lower client.serve)
          s post
      else post (.ok ()) s
  | .error fault, s =>
      if isNotFound fault then post (.ok ()) s else post (.error fault) s

/-- To delete is to fetch, and to replace if the member holds the role. -/
theorem meets_delete {post : Outcome Unit → σ → Prop}
    (hb : managed.binding = .ok b) (hover : ∀ m, P.sees s m → m.isOver = true →
      post (.error (.cancelled Stage.deleteFetch.text)) s)
    (hget : ∀ options,
      P.call s (.get b.resource Client.policyVersion options) fun o s' =>
      whenToDelete P client b post (fetched b .deleteFetch o) s') :
    Meets P ((delete managed).lower client.serve) s post := by
  rw [delete_lower hb]
  refine meets_fetch_attempt hover fun options => P.mono ?_ (hget options)
  intro o s' h
  cases hfetched : fetched b .deleteFetch o with
  | error fault =>
      rw [hfetched, whenToDelete] at h
      show Meets P (if isNotFound fault then _ else _) s' post
      split
      · rename_i hnone
        rwa [if_pos hnone] at h
      · rename_i hnone
        rwa [if_neg hnone] at h
  | ok d =>
      rw [hfetched, whenToDelete] at h
      show Meets P (if d.holds b.role b.member then _ else _) s' post
      split
      · rename_i hholds
        rwa [if_pos hholds] at h
      · rename_i hholds
        rwa [if_neg hholds] at h

end Membership

/-! ## Cycles -/

namespace Connector

variable {c : Connector τ}

/-- What has to hold after the sign-in of a connector. -/
def whenConnected (c : Connector τ) (post : Outcome (Client τ) → σ → Prop) :
    Outcome Json → σ → Prop
  | .ok _, s => post (.ok ⟨c.callTimeout⟩) s
  | .error fault, s => post (.error (atConnect fault)) s

theorem meets_connect {post : Outcome (Client τ) → σ → Prop}
    (hb : managed.binding = .ok b)
    (hcall : P.call s (.connect c.account) (whenConnected c post)) :
    Meets P (c.connect managed) s post := by
  rw [connect_eq hb]
  refine P.mono (fun o s' h => meets_ofOutcome.mpr ?_) hcall
  cases o <;> exact h

/-- Nothing was found: it is created, unless it is to be removed. -/
theorem act_absent (client : Client τ) (managed : Managed) :
    act client managed .absent =
      if managed.wantsRemoval then .done ⟨.none, .absent⟩
      else ((Membership.create managed).lower client.serve).bind fun _ =>
        .done ⟨.created, .absent⟩ := rfl

/-- Everything was found in place: it is deleted if it is to be removed. -/
theorem act_inPlace (client : Client τ) (managed : Managed) :
    act client managed .inPlace =
      if managed.wantsRemoval then
        ((Membership.delete managed).lower client.serve).bind fun _ =>
          .done ⟨.deleted, .inPlace⟩
      else .done ⟨.none, .inPlace⟩ := rfl

/-- A cycle connects, observes, and acts on what it found. -/
theorem meets_reconcile {post : Outcome (CycleResult Bool) → σ → Prop}
    (hb : managed.binding = .ok b)
    (hcall : P.call s (.connect c.account)
      (whenConnected c fun o s' => match o with
      | .error fault => post (.error fault) s'
      | .ok client =>
          Meets P ((Membership.observe managed).lower client.serve) s'
          (andThen P (act client managed) post))) :
    Meets P (c.reconcile managed) s post := by
  rw [reconcile_eq]
  refine meets_bind.mpr (meets_connect hb (P.mono ?_ hcall))
  intro o s' h
  cases o with
  | error fault => exact h
  | ok reply => exact meets_bind.mpr h

end Connector

end GrantKeeper
