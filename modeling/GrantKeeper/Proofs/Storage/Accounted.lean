import Mathlib
import GrantKeeper.Proofs.Cycle.Transcript
import GrantKeeper.Proofs.Storage.Contended
import GrantKeeper.Proofs.Storage.World

/-!
# What a cycle accounts for

A cycle decides what to report by what it observed, and whether to write by what
it fetched later.  Another writer may act in between, and then the report is not
what the cycle did: it is said to have created or deleted what was already there
or already gone.  Apart from that the report is right.  A cycle that reports
that it did nothing sent nothing, and one that reports a change sent one policy,
and the store accepted it, exactly if the change was still due when the policy
was fetched for the second time.

## Main results

* `meets_reconcile_accounted` — the calls of a cycle that returns.
* `World.writes_run` — the writes of a store are the accepted sets of a run.
* `action_accounted` — what a report says of the writes.
* `created_by_another` — a creation is reported and nothing was written.
-/

namespace GrantKeeper

open Program GrantKeeper.Membership

variable {τ : Type} {b : Binding} {removal : Bool} {managed : Managed}
  {client : Client τ} {seen : Moment τ → Prop}

/-! ## What a transcript tells -/

/-- The reply holds a policy in which the pair is still to be changed. -/
def Client.asksFor (b : Binding) (removal : Bool) : Outcome Json → Bool
  | .ok reply =>
      match policyOf reply with
      | .ok d => d.holds b.role b.member == removal
      | .error _ => false
  | .error _ => false

/-- Who could not fetch a policy has nothing to change. -/
theorem Client.asksFor_of_fetched {stage : Stage} {o : Outcome Json}
    {fault : Fault}
    (h : fetched b stage o = .error fault) : asksFor b removal o = false := by
  cases o with
  | error cause => rfl
  | ok reply =>
      rw [asksFor]
      cases hd : policyOf reply with
      | error cause => rfl
      | ok d =>
          rw [fetched, hd] at h
          cases h

theorem Client.asksFor_of_policyOf (b : Binding) (removal : Bool) {reply : Json}
    {d : Policy}
    (h : policyOf reply = .ok d) :
    asksFor b removal (.ok reply) = (d.holds b.role b.member == removal) := by
  rw [asksFor, h]

namespace Transcript

/-- The replies to gets. -/
def fetches (t : Transcript (StorageCall τ) Json) : List (Outcome Json) :=
  t.filterMap fun e => if e.1.isGet then some e.2 else none

/-- How many policies were sent. -/
def sets (t : Transcript (StorageCall τ) Json) : Nat :=
  t.countP fun e => e.1.isSet

/-- How many policies were sent and accepted. -/
def accepted (t : Transcript (StorageCall τ) Json) : Nat :=
  t.countP fun e => e.1.isSet && e.2.isOk

theorem accepted_cons (e : StorageCall τ × Outcome Json)
    (t : Transcript (StorageCall τ) Json) :
    accepted (e :: t) = accepted [e] + accepted t := by
  rw [accepted, accepted, accepted, ← List.countP_append]
  rfl

end Transcript

/-- A verb that returns fetched once more, and wrote once if the pair was still
to be changed. -/
inductive Acts (b : Binding) (removal : Bool)
    (said : Transcript (StorageCall τ) Json) :
    Transcript (StorageCall τ) Json → Prop
  | rested {options o} (h : Client.asksFor b removal o = false) :
      Acts b removal said
        (said ++ [(.get b.resource Client.policyVersion options, o)])
  | wrote {options o payload options' reply}
      (h : Client.asksFor b removal o = true) :
      Acts b removal said
        (said ++ [(.get b.resource Client.policyVersion options, o)] ++
          [(.set b.resource payload options', .ok reply)])

/-! ## Verbs and cycles -/

theorem meets_replace_accounted {stage : Stage} {d : Policy}
    {said : Transcript (StorageCall τ) Json}
    {options : CallOptions τ} {o : Outcome Json}
    (h : Client.asksFor b removal o = true) :
    Meets (unrestricted seen) ((replace b d stage).lower client.serve)
      (said ++ [(.get b.resource Client.policyVersion options, o)]) fun o t =>
        Returns (fun _ => Acts b removal said t) o := by
  refine meets_replace (fun _ _ _ => trivial) (fun _ => trivial)
    (fun _ _ _ => trivial) ?_
  intro options' payload _ _ o'
  cases o' with
  | error fault => trivial
  | ok reply => exact returns_of_forall (fun _ => .wrote h) _

theorem meets_create_accounted (hb : managed.binding = .ok b)
    (said : Transcript (StorageCall τ) Json) :
    Meets (unrestricted seen) ((create managed).lower client.serve) said
      fun o t =>
      Returns (fun _ => Acts b false said t) o := by
  refine meets_create hb (fun _ _ _ => trivial) fun options o => ?_
  show whenToCreate _ _ b _ (fetched b .createFetch o) _
  cases hfetched : fetched b .createFetch o with
  | error fault => trivial
  | ok d =>
      obtain ⟨reply, rfl, hd⟩ := exists_reply_of_fetched hfetched
      have hasks := Client.asksFor_of_policyOf b false hd
      rw [whenToCreate]
      split
      · rename_i hholds
        rw [hholds] at hasks
        exact .rested hasks
      · rename_i hholds
        rw [Bool.eq_false_iff.mpr hholds] at hasks
        exact meets_replace_accounted hasks

theorem meets_delete_accounted (hb : managed.binding = .ok b)
    (said : Transcript (StorageCall τ) Json) :
    Meets (unrestricted seen) ((delete managed).lower client.serve) said
      fun o t =>
      Returns (fun _ => Acts b true said t) o := by
  refine meets_delete hb (fun _ _ _ => trivial) fun options o => ?_
  show whenToDelete _ _ b _ (fetched b .deleteFetch o) _
  cases hfetched : fetched b .deleteFetch o with
  | error fault =>
      rw [whenToDelete]
      split
      · exact .rested (Client.asksFor_of_fetched hfetched)
      · trivial
  | ok d =>
      obtain ⟨reply, rfl, hd⟩ := exists_reply_of_fetched hfetched
      have hasks := Client.asksFor_of_policyOf b true hd
      rw [whenToDelete]
      split
      · rename_i hholds
        rw [hholds] at hasks
        exact meets_replace_accounted hasks
      · rename_i hholds
        rw [Bool.eq_false_iff.mpr hholds] at hasks
        exact .rested hasks

theorem meets_observe_accounted (hb : managed.binding = .ok b)
    (said : Transcript (StorageCall τ) Json) :
    Meets (unrestricted seen) ((observe managed).lower client.serve) said
      fun o t =>
      Returns (fun found =>
        (found = .absent ∨ found = .inPlace) ∧
          ∃ options reply, t = said ++
            [(.get b.resource Client.policyVersion options, reply)]) o := by
  refine meets_observe hb (fun _ _ _ => trivial) fun options o => ?_
  show whenSeen _ b _ (fetched b .observeFetch o) _
  cases fetched b .observeFetch o with
  | error fault =>
      rw [whenSeen]
      split
      · exact ⟨Or.inl rfl, options, o, rfl⟩
      · trivial
  | ok d =>
      rw [whenSeen]
      split
      · intro m _
        cases m.wall with
        | error fault => trivial
        | ok time => exact ⟨Or.inr rfl, options, o, rfl⟩
      · exact ⟨Or.inl rfl, options, o, rfl⟩

/-- The calls of a cycle that returns: it signed in and fetched, and it acted if
it reports so. -/
inductive Accounts (b : Binding) (removal : Bool) (result : CycleResult Bool) :
    Transcript (StorageCall τ) Json → Prop
  | rested {account signed options first} (h : result.action = .none) :
      Accounts b removal result
        [(.connect account, signed),
          (.get b.resource Client.policyVersion options, first)]
  | acted {account signed options first t}
      (h : result.action = if removal then .deleted else .created)
      (hacts : Acts b removal
        [(.connect account, signed),
          (.get b.resource Client.policyVersion options, first)] t) :
      Accounts b removal result t

/-- A cycle that reports what its verb was there for is accounted for if the
verb returns. -/
private theorem Accounts.andThen_done {result : CycleResult Bool}
    {account : Account}
    {signed first : Outcome Json} {options : CallOptions τ} {o : Outcome Unit}
    {t : Transcript (StorageCall τ) Json}
    (haction : result.action = if removal then .deleted else .created)
    (h : Returns (fun _ => Acts b removal
      [(.connect account, signed),
        (.get b.resource Client.policyVersion options, first)] t) o) :
    andThen (unrestricted seen) (fun _ => .done result)
      (fun o t => Returns (fun result => Accounts b removal result t) o) o
        t := by
  cases o with
  | error fault => trivial
  | ok u => exact .acted haction h

/-- **The calls of a cycle that returns.** -/
theorem meets_reconcile_accounted (hb : managed.binding = .ok b)
    (c : Connector τ) :
    Meets (unrestricted seen) (c.reconcile managed) [] fun o t =>
      Returns (fun result => Accounts b managed.wantsRemoval result t) o := by
  refine Connector.meets_reconcile hb fun signed => ?_
  cases signed with
  | error fault => trivial
  | ok reply =>
      refine meets_mono (fun o t hlooked => ?_) (meets_observe_accounted hb _)
      cases o with
      | error fault => trivial
      | ok found =>
          obtain ⟨hfound, options, first, rfl⟩ := hlooked
          show Meets _ (Connector.act _ managed found) _ _
          obtain rfl | rfl := hfound
          · rw [Connector.act_absent]
            cases managed.wantsRemoval with
            | true => exact .rested rfl
            | false =>
                refine meets_bind.mpr
                  (meets_mono (fun o t h => ?_) (meets_create_accounted hb _))
                exact Accounts.andThen_done rfl h
          · rw [Connector.act_inPlace]
            cases managed.wantsRemoval with
            | true =>
                refine meets_bind.mpr
                  (meets_mono (fun o t h => ?_) (meets_delete_accounted hb _))
                exact Accounts.andThen_done rfl h
            | false => exact .rested rfl

/-! ## Writes -/

theorem Service.writes_foldl_edit (edits : List (String × Option Json))
    (service : Service) :
    (edits.foldl (fun s e => (Service.remote τ).edit e.1 e.2 s)
      service).store.writes = service.store.writes := by
  induction edits generalizing service with
  | nil => rfl
  | cons e edits ih =>
      rw [List.foldl_cons, ih]
      show (service.store.edited e.1 e.2).writes = _
      cases e.2 <;> rfl

/-- A set writes if it succeeds. -/
theorem Store.writes_set (s : Store) (bucket : String) (payload : Json)
    (options : CallOptions τ) : (s.set bucket payload).2.writes = s.writes +
      Transcript.accepted
        [(StorageCall.set bucket payload options,
          (s.set bucket payload).1)] := by
  obtain ⟨fault, hset, -⟩ | ⟨stored, -, -, hset⟩ := s.set_cases bucket payload
  · rw [hset]
    rfl
  · rw [hset]
    rfl

namespace World

/-- Nobody answers in place of the service: where it does not answer, the call
fails. -/
def IsFaithful (w : World τ (StorageCall τ) Json Service) : Prop :=
  ∀ h ∈ w.happenings,
    ∀ reply, h.reply? = some reply →
      ∀ request, ∃ fault, reply request = .error fault

variable [Seconds τ] {w : World τ (StorageCall τ) Json Service}

theorem IsFaithful.served (h : w.IsFaithful) (request : StorageCall τ) :
    (w.served (Service.remote τ) request).2.IsFaithful :=
  fun g hg => h g (happenings_served_subset (Service.remote τ) w request hg)

/-- A call writes if it is a set that succeeds. -/
theorem IsFaithful.writes_served (h : w.IsFaithful) (request : StorageCall τ) :
    (w.served (Service.remote τ) request).2.server.store.writes =
      w.server.store.writes +
      Transcript.accepted
        [(request, (w.served (Service.remote τ) request).1)] := by
  have hasked : (w.asked (Service.remote τ) request).server.store.writes =
      w.server.store.writes := by
    rw [asked_server, Service.writes_foldl_edit]
  cases request with
  | connect account =>
      rw [served_uneventful rfl]
      exact congrArg Store.writes
        (Service.store_answer_connect w.server account)
  | get bucket version options =>
      rw [served_eventful rfl]
      cases w.upcoming.reply? <;> exact hasked
  | set bucket payload options =>
      rw [served_eventful rfl, ← hasked]
      cases hreply : w.upcoming.reply? with
      | some reply =>
          obtain ⟨fault, hfault⟩ :=
            h _ (upcoming_mem hreply) reply hreply (.set bucket payload options)
          simp only [hfault]
          rfl
      | none => exact Store.writes_set _ bucket payload options

/-- **The writes of a store are the accepted sets of a run.** -/
theorem IsFaithful.writes_run {α : Type} (h : w.IsFaithful)
    (p : StorageProgram τ α) :
    (w.run (Service.remote τ) p).2.server.store.writes =
      w.server.store.writes + (w.transcript (Service.remote τ) p).accepted := by
  induction p generalizing w with
  | done a => rfl
  | fail fault => rfl
  | look next ih => exact ih _ h
  | log entry next ih => exact ih (w := w.written entry) h
  | note condition next ih => exact ih (w := w.noted condition) h
  | call request next ih =>
      rw [World.run, ih _ (h.served request), h.writes_served, Nat.add_assoc,
        ← Transcript.accepted_cons, transcript_call]

end World

/-! ## The report -/

/-- **What a report says of the writes.**  Say that a cycle returned, whatever
other writers did before its calls. Every policy that it sent was accepted.  If
it reports that it did nothing, it sent none.  Otherwise it reports the change
that the resource asks for, it fetched twice, and it wrote once if the second
policy was still to be changed, and not at all if another writer had changed it
by then. -/
theorem action_accounted [Seconds τ] {r : Resource} (hb : r.Declares b)
    (c : Connector τ)
    (w : World τ (StorageCall τ) Json Service) (hfaithful : w.IsFaithful)
    (result : CycleResult Bool)
    (hreturns : (w.run (Service.remote τ) (c.reconcile (.member r))).1 =
      .ok result) :
    let t := w.transcript (Service.remote τ) (c.reconcile (.member r))
    (w.run (Service.remote τ) (c.reconcile (.member r))).2.server.store.writes =
      w.server.store.writes + t.sets ∧
    (result.action = .none ∧ t.sets = 0 ∨
      result.action = (if r.wantsRemoval then .deleted else .created) ∧
        ∃ first second, t.fetches = [first, second] ∧
          t.sets =
            if Client.asksFor b r.wantsRemoval second then 1 else 0) := by
  intro t
  have haccounts := Program.meets_transcript (Service.remote τ) (fun _ => True)
    (fun _ => trivial) (meets_reconcile_accounted hb.binding c) w
  rw [hreturns, List.nil_append] at haccounts
  have haccounts : Accounts b r.wantsRemoval result t := haccounts
  rw [hfaithful.writes_run]
  show w.server.store.writes + t.accepted = _ ∧ _
  clear_value t
  cases haccounts with
  | rested h => exact ⟨rfl, Or.inl ⟨h, rfl⟩⟩
  | acted h hacts =>
      cases hacts with
      | rested hasks =>
          refine ⟨rfl, Or.inr ⟨h, _, _, rfl, ?_⟩⟩
          rw [hasks]
          rfl
      | wrote hasks =>
          refine ⟨rfl, Or.inr ⟨h, _, _, rfl, ?_⟩⟩
          rw [hasks]
          rfl

/-- Between the two fetches of a cycle another writer gives the member the
role. -/
def preempted : World Int (StorageCall Int) Json Service :=
  { World.around 0 [("b", .obj [("etag", .str "1")])] with
    happenings := [.none, ⟨none, none, [("b", some (.obj [("etag", .str "2"),
      ("bindings",
        .arr [.obj [("role", .str "r"), ("members", .arr [.str "u:a"])]])]))],
        none⟩] }

/-- A creation is reported, but another writer did it. -/
theorem created_by_another :
    let run := preempted.run (Service.remote Int) (Connector.reconcile
      ⟨⟨"p", .given .null, none⟩, 30, ""⟩
      (.member (.declaring "m" ⟨"b", "r", "u:a"⟩ false)))
    run.1 = .ok ⟨.created, .absent⟩ ∧ run.2.sets = 0 ∧
      run.2.server.store.writes = 0 := by
  cbv

/-- Another writer replaces the policy before the last call of a removal, but
leaves the member its role. -/
def refreshed : World Int (StorageCall Int) Json Service :=
  { World.around 0 [("b", .obj [("etag", .str "1"), ("bindings", .arr [
      .obj [("role", .str "r"), ("members", .arr [.str "u:a"])]])])] with
    happenings := [.none, ⟨none, none,
      [("b", some (.obj [("etag", .str "2"), ("bindings", .arr [
        .obj [("role", .str "r"),
          ("members", .arr [.str "u:b", .str "u:a"])]])]))],
      none⟩] }

theorem action_accounted_refreshed :
    let run := refreshed.run (Service.remote Int) (Connector.reconcile
      ⟨⟨"p", .given .null, none⟩, 30, ""⟩
      (.member (.declaring "m" ⟨"b", "r", "u:a"⟩ true)))
    run.1 = .ok ⟨.deleted, .inPlace⟩ ∧ run.2.server.store.writes = 1 := by
  have hb : (Resource.declaring "m" ⟨"b", "r", "u:a"⟩ true).Declares
      ⟨"b", "r", "u:a"⟩ :=
    ⟨rfl, by decide⟩
  have hfaithful : refreshed.IsFaithful := by
    intro h hh reply hreply
    rcases List.mem_cons.mp hh with rfl | hh
    · cases hreply
    · rw [List.mem_singleton.mp hh] at hreply
      cases hreply
  have hreturns : (refreshed.run (Service.remote Int) (Connector.reconcile
      ⟨⟨"p", .given .null, none⟩, 30, ""⟩
      (.member (.declaring "m" ⟨"b", "r", "u:a"⟩ true)))).1 =
        .ok ⟨.deleted, .inPlace⟩ := by
    cbv
  have hasked : (refreshed.transcript (Service.remote Int) (Connector.reconcile
      ⟨⟨"p", .given .null, none⟩, 30, ""⟩
      (.member (.declaring "m" ⟨"b", "r", "u:a"⟩ true)))).fetches.map
        (Client.asksFor ⟨"b", "r", "u:a"⟩ true) = [true, true] := by
    cbv
  obtain ⟨hwrites, ⟨hnone, -⟩ | ⟨-, first, second, hfetches, hsets⟩⟩ :=
    action_accounted hb _ refreshed hfaithful _ hreturns
  · cases hnone
  · rw [hfetches] at hasked
    obtain ⟨-, hsecond⟩ := List.cons.inj hasked
    have hasks : Client.asksFor ⟨"b", "r", "u:a"⟩
        (Resource.declaring "m" ⟨"b", "r", "u:a"⟩ true).wantsRemoval
        second = true :=
      (List.cons.inj hsecond).1
    rw [if_pos hasks] at hsets
    exact ⟨hreturns,
      hwrites.trans (congrArg (refreshed.server.store.writes + ·) hsets)⟩

end GrantKeeper
