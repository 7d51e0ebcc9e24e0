import GrantKeeper.Proofs.Storage.Contended
import GrantKeeper.Proofs.Storage.World

/-!
# Without other writers

In a calm world nobody else writes, every call reaches the service, and the
context stays alive without a deadline; time may pass at every call.  Then what
a cycle does depends on the store alone.  The protocol `alone` says so: each
call has one reply.

## Main results

* `World.follows_alone` — a calm world follows the protocol, and stays calm.
* `meets_reconcile_unreadable`, `meets_reconcile_settled`,
  `meets_reconcile_unsettled` — the three things that a cycle can do.
-/

namespace GrantKeeper

open Program GrantKeeper.Membership

variable {τ : Type} {b : Binding} {r : Resource} {stored : Json} {d : Policy}
  {client : Client τ}

/-! ## Calm worlds -/

/-- Time may pass, and other contexts than the current one may be cancelled. -/
structure Happening.IsCalm (current? : Option String)
    (h : Happening τ (StorageCall τ) Json) : Prop where
  edits : h.edits = []
  reply : h.reply? = Option.none
  cancel : ∀ name, h.cancel? = some name → current? ≠ some name

theorem Happening.isCalm_none (current? : Option String) :
    (Happening.none : Happening τ (StorageCall τ) Json).IsCalm current? :=
  ⟨rfl, rfl, fun name h => by cases h⟩

/-- The calendar has a date now, and after each of the times that are still to
pass. -/
def Clock.IsReadable [Seconds τ] :
    Clock τ → List (Happening τ (StorageCall τ) Json) → Prop
  | clock, [] => ∃ time, clock.wall = .ok time
  | clock, h :: rest =>
      (∃ time, clock.wall = .ok time) ∧
        IsReadable (h.advance?.elim clock clock.advance) rest

theorem Clock.IsReadable.exists_wall [Seconds τ] {clock : Clock τ}
    {happenings : List (Happening τ (StorageCall τ) Json)}
    (h : clock.IsReadable happenings) : ∃ time, clock.wall = .ok time := by
  cases happenings with
  | nil => exact h
  | cons first rest => exact h.1

namespace World

variable [Seconds τ] {w : World τ (StorageCall τ) Json Service}

/-- The calendar still has its dates when the next call is answered. -/
theorem isReadable_asked (h : w.clock.IsReadable w.happenings)
    (request : StorageCall τ) :
    let asked := w.asked (Service.remote τ) request
    asked.clock.IsReadable asked.happenings := by
  dsimp only
  rw [asked_clock, asked_happenings]
  unfold World.upcoming
  cases hlist : w.happenings with
  | nil =>
      rw [hlist] at h
      exact h
  | cons first rest =>
      rw [hlist] at h
      exact h.2

/-- Everybody can sign in, the context has no deadline and is never cancelled,
nobody else writes, every call is answered by the service, and the calendar
always has a date. -/
structure Calm (w : World τ (StorageCall τ) Json Service) : Prop where
  admitted : w.server.refusal? = none
  live : w.context = .background
  happenings : ∀ h ∈ w.happenings, h.IsCalm w.current?
  calendar : w.clock.IsReadable w.happenings

theorem Calm.upcoming (h : w.Calm) : w.upcoming.IsCalm w.current? := by
  unfold World.upcoming
  cases hlist : w.happenings with
  | nil => exact Happening.isCalm_none _
  | cons first rest =>
      exact h.happenings first (by rw [hlist]; exact List.mem_cons_self)

theorem Calm.asked_server (h : w.Calm) (request : StorageCall τ) :
    (w.asked (Service.remote τ) request).server = w.server := by
  rw [World.asked_server, h.upcoming.edits]
  rfl

theorem Calm.asked (h : w.Calm) (request : StorageCall τ) :
    (w.asked (Service.remote τ) request).Calm := by
  refine ⟨?_, ?_, fun g hg => ?_, isReadable_asked h.calendar request⟩
  · rw [h.asked_server]
    exact h.admitted
  · exact (context_asked _ h.upcoming.cancel request).trans h.live
  · rw [asked_happenings] at hg
    rw [asked_current?]
    exact h.happenings g (List.mem_of_mem_tail hg)

end World

/-! ## The protocol -/

/-- What a cycle works on when nobody else writes, and how many calls were
made. -/
structure Alone where
  store : Store
  gets : Nat
  sets : Nat

namespace Alone

/-- A policy was read. -/
def read (s : Alone) : Alone := { s with gets := s.gets + 1 }

/-- A policy was sent. -/
def wrote (s : Alone) (store : Store) : Alone := ⟨store, s.gets, s.sets + 1⟩

end Alone

/-- Every call is answered by the store, and the cycle is never over. -/
def alone : Protocol τ (StorageCall τ) Json Alone where
  sees _ m := m.isOver = false ∧ ∃ time, m.wall = .ok time
  call s request post :=
    match request with
    | .connect _ => post (.ok .null) s
    | .get bucket _ _ => post (s.store.get bucket) s.read
    | .set bucket payload _ =>
        post (s.store.set bucket payload).1
          (s.wrote (s.store.set bucket payload).2)
  mono {s request post post'} h hcall := by
    cases request <;> exact h _ _ hcall

theorem not_over_alone {s : Alone} {m : Moment τ} (hm : alone.sees s m) :
    m.isOver ≠ true :=
  fun hover => by cases hm.1.symm.trans hover

namespace World

variable [Seconds τ] {w : World τ (StorageCall τ) Json Service} {s : Alone}

/-- The world is calm, and this is what a cycle works on in it. -/
structure IsAt (w : World τ (StorageCall τ) Json Service) (s : Alone) :
    Prop where
  calm : w.Calm
  store : w.server.store = s.store
  gets : w.gets = s.gets
  sets : w.sets = s.sets

theorem Calm.served (h : w.Calm) {request : StorageCall τ}
    (hrequest : (Service.remote τ).eventful request = true) :
    w.served (Service.remote τ) request =
      (((Service.remote τ).answer request w.server).1,
        (w.asked (Service.remote τ) request).withServer
          ((Service.remote τ).answer request w.server).2) := by
  rw [served_eventful hrequest, h.upcoming.reply, h.asked_server]

theorem Calm.withServer (h : w.Calm) {server : Service}
    (hserver : server.refusal? = none) : (w.withServer server).Calm :=
  ⟨hserver, h.live, h.happenings, h.calendar⟩

/-- **A calm world follows the protocol**, and stays calm. -/
theorem follows_alone : Follows (Service.remote τ) alone IsAt where
  sees {w s} h := by
    refine ⟨?_, h.calm.calendar.exists_wall⟩
    show w.context.isOver w.clock.now = false
    rw [h.calm.live]
    exact Context.isOver_background _
  written _ h :=
    ⟨⟨h.calm.admitted, h.calm.live, h.calm.happenings, h.calm.calendar⟩,
      h.store, h.gets, h.sets⟩
  noted _ h :=
    ⟨⟨h.calm.admitted, h.calm.live, h.calm.happenings, h.calm.calendar⟩,
      h.store, h.gets, h.sets⟩
  served {w s request post} h hcall := by
    cases request with
    | connect account =>
        rw [served_uneventful rfl, Service.answer_connect h.calm.admitted]
        refine ⟨s, hcall,
          ⟨h.calm.admitted, h.calm.live, h.calm.happenings, h.calm.calendar⟩,
          h.store, ?_, ?_⟩
        · show (w.calls ++ [StorageCall.connect account]).countP
            StorageCall.isGet = s.gets
          rw [List.countP_append]
          exact h.gets
        · show (w.calls ++ [StorageCall.connect account]).countP
            StorageCall.isSet = s.sets
          rw [List.countP_append]
          exact h.sets
    | get bucket version options =>
        rw [h.calm.served rfl, Service.answer_get, h.store]
        refine ⟨s.read, hcall, (h.calm.asked _).withServer h.calm.admitted,
          h.store, ?_, ?_⟩
        · exact (gets_asked w _).trans (congrArg (· + 1) h.gets)
        · exact (sets_asked w _).trans h.sets
    | set bucket payload options =>
        rw [h.calm.served rfl, Service.answer_set, h.store]
        refine ⟨_, hcall, (h.calm.asked _).withServer h.calm.admitted,
          rfl, ?_, ?_⟩
        · exact (gets_asked w _).trans h.gets
        · exact (sets_asked w _).trans (congrArg (· + 1) h.sets)

end World

/-! ## Calls and verbs -/

/-- The policy can be sent, it is accepted, and what comes back can be read. -/
def Store.Takes (s : Store) (bucket : String) (d : Policy) (s' : Store) :
    Prop :=
  d.etag.truthy = true ∧ ∃ payload reply, Client.payloadOf d = .ok payload ∧
    s.set bucket payload = (.ok reply, s') ∧
    ∃ d', Client.policyOf reply = .ok d'

/-- What becomes of a replacement by the policy: the store takes it and `a` is
returned, or the store does not take it and the replacement fails. -/
def Alone.Replaces {α : Type} (s : Alone) (bucket : String) (d : Policy) (a : α)
    (o : Outcome α) (s' : Alone) : Prop :=
  (∃ store, s.store.Takes bucket d store ∧ o = .ok a ∧ s' = s.wrote store) ∨
    (∃ fault, o = .error fault) ∧ ∀ store, ¬ s.store.Takes bucket d store

variable {s : Alone}

theorem fetched_get {stage : Stage} {store : Store}
    (hstored : store.policy? b.resource = some stored) :
    fetched b stage (store.get b.resource) =
      Outcome.ofShape (Client.policyOf stored) := by
  rw [Store.get_of_policy? hstored]
  rfl

/-- What an observation makes of the stored policy. -/
def seen (b : Binding) (stored : Json) : Outcome (Observation Bool) :=
  (Outcome.ofShape (Client.policyOf stored)).map fun d =>
    if d.holds b.role b.member then .inPlace else .absent

theorem meets_observe_alone {post : Outcome (Observation Bool) → Alone → Prop}
    (hb : r.Declares b)
    (hstored : s.store.policy? b.resource = some stored)
    (h : post (seen b stored) s.read) :
    Meets alone ((observe (.member r)).lower client.serve) s post := by
  refine meets_observe hb.binding (fun m hm hover => ?_) fun options => ?_
  · exact absurd hover (not_over_alone hm)
  · show whenSeen alone b post
      (fetched b .observeFetch (s.store.get b.resource)) s.read
    rw [fetched_get hstored]
    rw [seen] at h
    cases hd : Client.policyOf stored with
    | error cause =>
        rw [hd] at h
        exact h
    | ok d =>
        rw [hd] at h
        show if d.holds b.role b.member then _ else _
        have h' : post
            (.ok (if d.holds b.role b.member then .inPlace else .absent))
            s.read := h
        cases hholds : d.holds b.role b.member with
        | true =>
            rw [hholds, if_pos rfl] at h'
            rw [if_pos rfl]
            rintro m ⟨-, time, htime⟩
            rw [htime]
            exact h'
        | false =>
            rw [hholds, if_neg Bool.false_ne_true] at h'
            rw [if_neg Bool.false_ne_true]
            exact h'

theorem meets_replace_alone (client : Client τ) (stage : Stage) (s : Alone)
    (b : Binding) (d : Policy) :
    Meets alone ((replace b d stage).lower client.serve) s
      (s.Replaces b.resource d ()) := by
  refine meets_replace (fun m hm hover => ?_)
    (fun htoken => Or.inr ⟨⟨_, rfl⟩, ?_⟩)
    (fun cause _ hcause => Or.inr ⟨⟨_, rfl⟩, ?_⟩)
      fun options payload htoken hpayload => ?_
  · exact absurd hover (not_over_alone hm)
  · intro store htakes
    rw [htakes.1] at htoken
    cases htoken
  · rintro store ⟨-, payload, reply, hpayload, -⟩
    rw [hcause] at hpayload
    cases hpayload
  · show s.Replaces b.resource d ()
      (replaced b stage (s.store.set b.resource payload).1) _
    cases hset : s.store.set b.resource payload with
    | mk o store =>
        cases o with
        | error fault =>
            refine Or.inr ⟨⟨_, rfl⟩, ?_⟩
            rintro store' ⟨-, payload', reply, hpayload', hset', -⟩
            rw [hpayload] at hpayload'
            cases hpayload'
            rw [hset] at hset'
            cases hset'
        | ok reply =>
            cases hreply : Client.policyOf reply with
            | error cause =>
                refine Or.inr ⟨⟨.malformed cause, ?_⟩, ?_⟩
                · show (Outcome.ofShape (Client.policyOf reply)).map _ = _
                  rw [hreply]
                  rfl
                · rintro store' ⟨-, payload', reply', hpayload', hset',
                    d', hreply'⟩
                  rw [hpayload] at hpayload'
                  cases hpayload'
                  rw [hset] at hset'
                  cases hset'
                  rw [hreply] at hreply'
                  cases hreply'
            | ok d' =>
                refine Or.inl ⟨store,
                  ⟨htoken, payload, reply, hpayload, hset, d', hreply⟩, ?_, rfl⟩
                show (Outcome.ofShape (Client.policyOf reply)).map _ = _
                rw [hreply]
                rfl

theorem meets_create_alone (hb : r.Declares b)
    (hstored : s.store.policy? b.resource = some stored)
    (hd : Client.policyOf stored = .ok d)
    (hholds : d.holds b.role b.member = false) :
    Meets alone ((create (.member r)).lower client.serve) s
      (s.read.Replaces b.resource (d.amended b false) ()) := by
  refine meets_create hb.binding (fun m hm hover => ?_) fun options => ?_
  · exact absurd hover (not_over_alone hm)
  · show whenToCreate alone _ b _
      (fetched b .createFetch (s.store.get b.resource)) s.read
    rw [fetched_get hstored, hd]
    show if d.holds b.role b.member then _ else _
    rw [hholds, if_neg Bool.false_ne_true]
    exact meets_replace_alone client .createWrite s.read b _

theorem meets_delete_alone (hb : r.Declares b)
    (hstored : s.store.policy? b.resource = some stored)
    (hd : Client.policyOf stored = .ok d)
    (hholds : d.holds b.role b.member = true) :
    Meets alone ((delete (.member r)).lower client.serve) s
      (s.read.Replaces b.resource (d.amended b true) ()) := by
  refine meets_delete hb.binding (fun m hm hover => ?_) fun options => ?_
  · exact absurd hover (not_over_alone hm)
  · show whenToDelete alone _ b _
      (fetched b .deleteFetch (s.store.get b.resource)) s.read
    rw [fetched_get hstored, hd]
    show if d.holds b.role b.member then _ else _
    rw [hholds, if_pos rfl]
    exact meets_replace_alone client .deleteWrite s.read b _

/-! ## Cycles -/

/-- What a cycle reports that had nothing to do. -/
def CycleResult.resting (removal : Bool) : CycleResult Bool :=
  ⟨.none, if removal then .absent else .inPlace⟩

/-- What a cycle reports that brought the goal about. -/
def CycleResult.changing (removal : Bool) : CycleResult Bool :=
  if removal then ⟨.deleted, .inPlace⟩ else ⟨.created, .absent⟩

private theorem meets_cycle_alone (hb : r.Declares b) (c : Connector τ)
    (hstored : s.store.policy? b.resource = some stored)
    {post : Outcome (CycleResult Bool) → Alone → Prop}
    (h : andThen alone (Connector.act ⟨c.callTimeout⟩ (.member r)) post
      (seen b stored) s.read) :
    Meets alone (c.reconcile (.member r)) s post :=
  Connector.meets_reconcile hb.binding (meets_observe_alone hb hstored h)

/-- A cycle fails if it cannot read what is stored. -/
theorem meets_reconcile_unreadable (hb : r.Declares b) (c : Connector τ)
    (hstored : s.store.policy? b.resource = some stored) {cause : Malformed}
    (hbad : Client.policyOf stored = .error cause) :
    Meets alone (c.reconcile (.member r)) s fun o _ =>
      o = .error (.malformed cause) := by
  apply meets_cycle_alone hb c hstored
  rw [seen, hbad]
  rfl

/-- A cycle that finds the goal reached does nothing. -/
theorem meets_reconcile_settled (hb : r.Declares b) (c : Connector τ)
    (hstored : s.store.policy? b.resource = some stored)
    (hd : Client.policyOf stored = .ok d)
    (hholds : d.holds b.role b.member = !r.wantsRemoval) :
    Meets alone (c.reconcile (.member r)) s fun o s' =>
      o = .ok (.resting r.wantsRemoval) ∧ s' = s.read := by
  apply meets_cycle_alone hb c hstored
  have hremoval : (Managed.member r).wantsRemoval = r.wantsRemoval := rfl
  rw [seen, hd]
  show Meets alone
    (Connector.act _ _ (if d.holds b.role b.member then .inPlace else .absent))
    _ _
  rw [hholds]
  cases hr : r.wantsRemoval with
  | true =>
      rw [Bool.not_true, if_neg Bool.false_ne_true, Connector.act_absent,
        hremoval, hr, if_pos rfl]
      exact ⟨rfl, rfl⟩
  | false =>
      rw [Bool.not_false, if_pos rfl, Connector.act_inPlace, hremoval, hr,
        if_neg Bool.false_ne_true]
      exact ⟨rfl, rfl⟩

private theorem Alone.Replaces.andThen_done {bucket : String} {o : Outcome Unit}
    {s' : Alone} {result : CycleResult Bool} (h : s.Replaces bucket d () o s') :
    andThen (alone (τ := τ)) (fun _ => .done result)
      (s.Replaces bucket d result) o s' := by
  obtain ⟨store, htakes, rfl, hs'⟩ | ⟨⟨fault, rfl⟩, hrefuses⟩ := h
  · exact Or.inl ⟨store, htakes, rfl, hs'⟩
  · exact Or.inr ⟨⟨fault, rfl⟩, hrefuses⟩

/-- Any other cycle replaces the policy by its amendment. -/
theorem meets_reconcile_unsettled (hb : r.Declares b) (c : Connector τ)
    (hstored : s.store.policy? b.resource = some stored)
    (hd : Client.policyOf stored = .ok d)
    (hholds : d.holds b.role b.member = r.wantsRemoval) :
    Meets alone (c.reconcile (.member r)) s
      (s.read.read.Replaces b.resource (d.amended b r.wantsRemoval)
        (.changing r.wantsRemoval)) := by
  apply meets_cycle_alone hb c hstored
  have hremoval : (Managed.member r).wantsRemoval = r.wantsRemoval := rfl
  rw [seen, hd]
  show Meets alone
    (Connector.act _ _ (if d.holds b.role b.member then .inPlace else .absent))
    _ _
  cases hr : r.wantsRemoval with
  | true =>
      rw [hr] at hholds
      rw [hholds, if_pos rfl, Connector.act_inPlace, hremoval, hr, if_pos rfl]
      refine meets_bind.mpr
        (meets_mono ?_ (meets_delete_alone hb hstored hd hholds))
      exact fun o s' => Alone.Replaces.andThen_done
  | false =>
      rw [hr] at hholds
      rw [hholds, if_neg Bool.false_ne_true, Connector.act_absent, hremoval, hr,
        if_neg Bool.false_ne_true]
      refine meets_bind.mpr
        (meets_mono ?_ (meets_create_alone hb hstored hd hholds))
      exact fun o s' => Alone.Replaces.andThen_done

/-! ## Runs -/

section Runs

variable [Seconds τ] {w : World τ (StorageCall τ) Json Service}

theorem World.Calm.isAt (h : w.Calm) :
    w.IsAt ⟨w.server.store, w.gets, w.sets⟩ :=
  ⟨h, rfl, rfl, rfl⟩

/-- A cycle that finds the goal reached asks once, and leaves the world as calm
as it was. -/
theorem World.run_settled (hb : r.Declares b) (c : Connector τ) (hcalm : w.Calm)
    (hstored : w.server.store.policy? b.resource = some stored)
    (hd : Client.policyOf stored = .ok d)
    (hholds : d.holds b.role b.member = !r.wantsRemoval) :
    (w.run (Service.remote τ) (c.reconcile (.member r))).1 =
      .ok (.resting r.wantsRemoval) ∧
      (w.run (Service.remote τ) (c.reconcile (.member r))).2.IsAt
        ⟨w.server.store, w.gets + 1, w.sets⟩ := by
  obtain ⟨s', ⟨hresult, rfl⟩, hat⟩ := meets_run World.follows_alone hcalm.isAt
    (meets_reconcile_settled hb c hstored hd hholds)
  exact ⟨hresult, hat⟩

/-- Any other cycle asks twice and writes once, unless it fails because the
store does not take the amendment. -/
theorem World.run_unsettled (hb : r.Declares b) (c : Connector τ)
    (hcalm : w.Calm) (hstored : w.server.store.policy? b.resource = some stored)
    (hd : Client.policyOf stored = .ok d)
    (hholds : d.holds b.role b.member = r.wantsRemoval) :
    (∃ store,
      w.server.store.Takes b.resource (d.amended b r.wantsRemoval) store ∧
      (w.run (Service.remote τ) (c.reconcile (.member r))).1 =
        .ok (.changing r.wantsRemoval) ∧
      (w.run (Service.remote τ) (c.reconcile (.member r))).2.IsAt
        ⟨store, w.gets + 2, w.sets + 1⟩) ∨
    (∃ fault, (w.run (Service.remote τ) (c.reconcile (.member r))).1 =
      .error fault) ∧
      ∀ store, ¬ w.server.store.Takes b.resource (d.amended b r.wantsRemoval)
        store := by
  obtain ⟨s', hreplaces, hat⟩ := meets_run World.follows_alone hcalm.isAt
    (meets_reconcile_unsettled hb c hstored hd hholds)
  obtain ⟨store, htakes, hresult, rfl⟩ | hfails := hreplaces
  · exact Or.inl ⟨store, htakes, hresult, hat⟩
  · exact Or.inr hfails

theorem World.run_unreadable (hb : r.Declares b) (c : Connector τ)
    (hcalm : w.Calm)
    (hstored : w.server.store.policy? b.resource = some stored)
    {cause : Malformed} (hbad : Client.policyOf stored = .error cause) :
    (w.run (Service.remote τ) (c.reconcile (.member r))).1 =
      .error (.malformed cause) := by
  obtain ⟨s', hresult, -⟩ := meets_run World.follows_alone hcalm.isAt
    (meets_reconcile_unreadable hb c hstored hbad)
  exact hresult

end Runs

end GrantKeeper
