import GrantKeeper.Proofs.Cycle.Verbs
import GrantKeeper.Proofs.Policy.Amended
import GrantKeeper.Proofs.Resource.Declared
import GrantKeeper.Proofs.Storage.Store

/-!
# Next to other writers

A cycle that shares a bucket with other writers can rely on little: before each
of its calls the stored policy may have become any other well-formed one, or the
bucket may be gone, and any call may fail.  The protocol `contended` says just
that.  Its state is what the store held when the last call took effect, so a set
is judged by what the get before it read.

## Main results

* `meets_observe_contended`, `meets_create_contended`, `meets_delete_contended`
  — what a verb that returns has found or brought about, and that all it sends
  amends what it read.
* `meets_reconcile_contended` — the same for a cycle.
-/

namespace GrantKeeper

open Program GrantKeeper.Membership

variable {τ : Type} {b : Binding} {removal : Bool} {stored : Option Json}
  {client : Client τ}

/-! ## Amendments -/

/-- The payload is the policy that was seen with one pair more, or one pair
less. -/
structure Amends (b : Binding) (removal : Bool) (seen payload : Json) :
    Prop where
  wellFormed : seen.isWellFormed = true
  role : b.role ≠ ""
  changes : (b.role, b.member) ∈ (Content.of seen).granted ↔ removal = true
  payload : payload = ((Content.of seen).settled.amended b removal).written
    (seen.get "etag")

theorem Amends.of_payload {seen payload : Json}
    (h : Amends b removal seen payload) :
    Content.of payload = (Content.of seen).settled.amended b removal := by
  have hproper :=
    ((Content.isProper_of h.wellFormed).settled).amended h.role removal
  rw [h.payload, Content.of_written hproper, Content.settled_amended,
    Content.settled_settled]

theorem Amends.isWellFormed {seen payload : Json}
    (h : Amends b removal seen payload) : payload.isWellFormed = true := by
  have hproper :=
    ((Content.isProper_of h.wellFormed).settled).amended h.role removal
  rw [h.payload]
  exact Content.isWellFormed_written hproper _

theorem Amends.get_etag {seen payload : Json}
    (h : Amends b removal seen payload) :
    payload.get "etag" = seen.get "etag" := by
  rw [h.payload, Content.written, get_etag_form]

/-- What the resolver makes of a well-formed policy is sent as an amendment of
it. -/
theorem amends_of_payloadOf {seen payload : Json} {d : Policy}
    (hwell : seen.isWellFormed = true)
    (hrole : b.role ≠ "") (hd : Client.policyOf seen = .ok d)
    (hholds : d.holds b.role b.member = removal)
    (hpayload : Client.payloadOf (d.amended b removal) = .ok payload) :
    Amends b removal seen payload := by
  obtain ⟨d', hd', hrep⟩ := Client.exists_policyOf hwell
  obtain rfl : d = d' := Except.ok.inj (hd.symm.trans hd')
  have hproper := ((Content.isProper_of hwell).settled).amended hrole removal
  have hsent := Client.payloadOf_represents (hrep.amended hrole removal) hproper
  refine ⟨hwell, hrole, ?_, Except.ok.inj (hpayload.symm.trans hsent)⟩
  rw [← hholds]
  exact hrep.holds_iff.symm

/-! ## The protocol -/

/-- The stored policy, if there is one, is well formed. -/
def Sound (stored : Option Json) : Prop :=
  ∀ policy ∈ stored, policy.isWellFormed = true

theorem sound_none : Sound none := fun policy hpolicy => by cases hpolicy

/-- The reply to a get is the stored policy, or a fault that reports a missing
bucket only if it is. -/
def Answers (stored : Option Json) : Outcome Json → Prop
  | .ok reply => stored = some reply
  | .error fault => fault.reportsMissing = true → stored = none

/-- What a cycle can rely on next to other writers, and what it owes them.  The
state is what the store held when the last get or set took effect. -/
def contended (b : Binding) (removal : Bool) :
    Protocol τ (StorageCall τ) Json (Option Json) where
  sees _ _ := True
  call s request post :=
    match request with
    | .connect _ => ∀ o, post o s
    | .get bucket _ _ =>
        bucket = b.resource ∧ ∀ stored o,
          Sound stored → Answers stored o → post o stored
    | .set bucket payload _ =>
        bucket = b.resource ∧ (∃ seen ∈ s, Amends b removal seen payload) ∧
        (∀ etag,
          post (.ok (payload.stamped etag)) (some (payload.stamped etag))) ∧
        ∀ stored fault, Sound stored → Answers stored (.error fault) →
          post (.error fault) stored
  mono {s request post post'} h := by
    cases request with
    | connect account => exact fun hcall o => h _ _ (hcall o)
    | get bucket version options =>
        rintro ⟨hbucket, hcall⟩
        exact ⟨hbucket, fun stored o hs ho => h _ _ (hcall stored o hs ho)⟩
    | set bucket payload options =>
        rintro ⟨hbucket, hamends, haccepted, hrefused⟩
        exact ⟨hbucket, hamends, fun etag => h _ _ (haccepted etag),
          fun stored fault hs hf => h _ _ (hrefused stored fault hs hf)⟩

/-- The member holds the role without condition in the stored policy. -/
def Bound (b : Binding) (stored : Option Json) : Prop :=
  ∃ policy ∈ stored, (b.role, b.member) ∈ (Content.of policy).granted

theorem bound_some {policy : Json} :
    Bound b (some policy) ↔
      (b.role, b.member) ∈ (Content.of policy).granted := by
  constructor
  · rintro ⟨p, hp, hgranted⟩
    cases hp
    exact hgranted
  · exact fun h => ⟨policy, rfl, h⟩

theorem not_bound_none : ¬ Bound b none := by
  rintro ⟨p, hp, -⟩
  cases hp

theorem Amends.bound_stamped {seen payload : Json}
    (h : Amends b removal seen payload)
    (etag : Json) :
    Bound b (some (payload.stamped etag)) ↔ removal = false := by
  rw [bound_some, Content.of_stamped, h.of_payload, Content.mem_granted_amended]

/-- The goal holds of what is returned, if anything is. -/
def Returns {α : Type} (goal : α → Prop) : Outcome α → Prop
  | .ok a => goal a
  | .error _ => True

theorem Returns.mono {α : Type} {goal goal' : α → Prop} {o : Outcome α}
    (h : Returns goal o) (hgoal : ∀ a, goal a → goal' a) : Returns goal' o := by
  cases o with
  | error fault => trivial
  | ok a => exact hgoal a h

theorem returns_of_forall {α : Type} {goal : α → Prop} (h : ∀ a, goal a)
    (o : Outcome α) : Returns goal o := by
  cases o with
  | error fault => trivial
  | ok a => exact h a

/-! ## Calls -/

/-- A policy that was fetched is that of the store. -/
theorem exists_of_fetched {stage : Stage} {o : Outcome Json} {d : Policy}
    (ho : Answers stored o) (h : fetched b stage o = .ok d) :
    ∃ policy, stored = some policy ∧ Client.policyOf policy = .ok d := by
  obtain ⟨reply, rfl, hreply⟩ := exists_reply_of_fetched h
  exact ⟨reply, ho, hreply⟩

theorem bound_of_fetched {stage : Stage} {o : Outcome Json} {d : Policy}
    (ho : Answers stored o)
    (h : fetched b stage o = .ok d) :
    Bound b stored ↔ d.holds b.role b.member = true := by
  obtain ⟨policy, rfl, hpolicy⟩ := exists_of_fetched ho h
  rw [bound_some, (Client.isReadingOf_policyOf hpolicy).holds_iff]

theorem reportsMissing_of_isNotFound {stage : Stage} {verb bucket : String}
    {fault : Fault}
    (h : isNotFound (atStage stage (Client.reported verb bucket fault)) =
      true) :
    fault.reportsMissing = true := by
  cases fault with
  | foreign failure =>
      rw [Client.reported] at h
      split at h
      · show failure.traits.notFound = true
        by_contra hfound
        rw [Bool.not_eq_true] at hfound
        have hclass : failure.traits.classify ≠ .notFound := by
          rw [Traits.classify, hfound, if_neg Bool.false_ne_true]
          split_ifs <;> exact fun heq => by cases heq
        cases hc : failure.traits.classify with
        | notFound => exact hclass hc
        | _ =>
            rw [hc] at h
            cases h
      · cases h
  | client kind message => cases kind <;> first | rfl | cases h
  | reconcile stage cause =>
      cases cause with
      | client kind message => cases kind <;> first | rfl | cases h
      | _ => cases h
  | writeConflict stage cause =>
      cases cause with
      | client kind message => cases kind <;> first | rfl | cases h
      | _ => cases h
  | _ => cases h

/-- A fetch only finds no policy if there is none. -/
theorem eq_none_of_fetched {stage : Stage} {o : Outcome Json} {fault : Fault}
    (ho : Answers stored o)
    (h : fetched b stage o = .error fault) (hnone : isNotFound fault = true) :
    stored = none := by
  cases o with
  | ok reply =>
      rw [fetched] at h
      cases hpolicy : Client.policyOf reply with
      | error cause =>
          rw [hpolicy] at h
          cases h
          cases hnone
      | ok d =>
          rw [hpolicy] at h
          cases h
  | error cause =>
      cases h
      exact ho (reportsMissing_of_isNotFound hnone)

/-- A replacement that returns leaves the goal behind in the store. -/
theorem meets_replace_contended (client : Client τ) (stage : Stage)
    {o : Outcome Json} {d : Policy}
    (hrole : b.role ≠ "") (hsound : Sound stored) (ho : Answers stored o)
    {fetch : Stage} (hd : fetched b fetch o = .ok d)
    (hholds : d.holds b.role b.member = removal) :
    Meets (contended b removal)
      ((replace b (d.amended b removal) stage).lower client.serve) stored
      fun o s' => Returns (fun _ => Bound b s' ↔ removal = false) o := by
  obtain ⟨seen, rfl, hseen⟩ := exists_of_fetched ho hd
  refine meets_replace (fun _ _ _ => trivial) (fun _ => trivial)
    (fun _ _ _ => trivial) ?_
  intro options payload _ hpayload
  have hamends :=
    amends_of_payloadOf (hsound seen rfl) hrole hseen hholds hpayload
  refine ⟨rfl, ⟨seen, rfl, hamends⟩, ?_, ?_⟩
  · intro etag
    exact returns_of_forall (fun _ => hamends.bound_stamped etag) _
  · intro stored fault _ _
    trivial

/-! ## Verbs -/

theorem meets_observe_contended {r : Resource} (hb : r.Declares b)
    {s : Option Json} :
    Meets (contended b removal) ((observe (.member r)).lower client.serve) s
      fun o s' =>
      Returns (fun found =>
        found = .inPlace ∧ Bound b s' ∨ found = .absent ∧ ¬ Bound b s') o := by
  refine meets_observe hb.binding (fun _ _ _ => trivial) ?_
  intro options
  refine ⟨rfl, ?_⟩
  intro stored o hsound ho
  show whenSeen _ b _ (fetched b .observeFetch o) stored
  cases hfetched : fetched b .observeFetch o with
  | error fault =>
      rw [whenSeen]
      split
      · rename_i hnone
        refine Or.inr ⟨rfl, ?_⟩
        rw [eq_none_of_fetched ho hfetched hnone]
        exact not_bound_none
      · trivial
  | ok d =>
      rw [whenSeen]
      split
      · rename_i hholds
        have hbound : Bound b stored :=
          (bound_of_fetched ho hfetched).mpr hholds
        intro m _
        cases m.wall with
        | error fault => trivial
        | ok time => exact Or.inl ⟨rfl, hbound⟩
      · rename_i hholds
        have hfree : ¬ Bound b stored := by
          intro hbound
          exact hholds ((bound_of_fetched ho hfetched).mp hbound)
        exact Or.inr ⟨rfl, hfree⟩

theorem meets_create_contended {r : Resource} (hb : r.Declares b)
    {s : Option Json} :
    Meets (contended b false) ((create (.member r)).lower client.serve) s
      fun o s' =>
      Returns (fun _ => Bound b s') o := by
  refine meets_create hb.binding (fun _ _ _ => trivial) ?_
  intro options
  refine ⟨rfl, ?_⟩
  intro stored o hsound ho
  show whenToCreate _ _ b _ (fetched b .createFetch o) stored
  cases hfetched : fetched b .createFetch o with
  | error fault => trivial
  | ok d =>
      rw [whenToCreate]
      split
      · rename_i hholds
        exact (bound_of_fetched ho hfetched).mpr hholds
      · rename_i hholds
        have hreplaces :=
          meets_replace_contended client .createWrite hb.role hsound ho hfetched
            (Bool.eq_false_iff.mpr hholds)
        refine meets_mono ?_ hreplaces
        intro o s' h
        exact h.mono fun _ hbound => hbound.mpr rfl

theorem meets_delete_contended {r : Resource} (hb : r.Declares b)
    {s : Option Json} :
    Meets (contended b true) ((delete (.member r)).lower client.serve) s
      fun o s' =>
      Returns (fun _ => ¬ Bound b s') o := by
  refine meets_delete hb.binding (fun _ _ _ => trivial) ?_
  intro options
  refine ⟨rfl, ?_⟩
  intro stored o hsound ho
  show whenToDelete _ _ b _ (fetched b .deleteFetch o) stored
  cases hfetched : fetched b .deleteFetch o with
  | error fault =>
      rw [whenToDelete]
      split
      · rename_i hnone
        rw [eq_none_of_fetched ho hfetched hnone]
        exact not_bound_none
      · trivial
  | ok d =>
      rw [whenToDelete]
      split
      · rename_i hholds
        have hreplaces := meets_replace_contended client .deleteWrite hb.role
          hsound ho hfetched hholds
        refine meets_mono ?_ hreplaces
        intro o s' h
        exact h.mono fun _ hbound => mt hbound.mp Bool.true_eq_false.mp
      · rename_i hholds
        intro hbound
        exact hholds ((bound_of_fetched ho hfetched).mp hbound)

/-! ## Cycles -/

/-- What holds when a verb returns holds when the cycle around it does. -/
private theorem andThen_done {P : Protocol τ (StorageCall τ) Json (Option Json)}
    {o : Outcome Unit}
    {s : Option Json} {result : CycleResult Bool} {goal : Option Json → Prop}
    (h : Returns (fun _ => goal s) o) :
    andThen P (fun _ => .done result)
    (fun o s' => Returns (fun _ => goal s') o) o s := by
  cases o with
  | error fault => trivial
  | ok u => exact h

/-- **A cycle that returns leaves the goal behind**, or found it when it last
looked. -/
theorem meets_reconcile_contended {r : Resource} (hb : r.Declares b)
    (c : Connector τ) {s : Option Json} :
    Meets (contended b r.wantsRemoval) (c.reconcile (.member r)) s fun o s' =>
      Returns (fun _ => Bound b s' ↔ r.wantsRemoval = false) o := by
  refine Connector.meets_reconcile hb.binding ?_
  intro o
  cases o with
  | error fault => trivial
  | ok reply =>
      refine meets_mono ?_ (meets_observe_contended hb)
      intro o s' hfound
      cases o with
      | error fault => trivial
      | ok found =>
          show Meets _ (Connector.act _ (.member r) found) s' _
          have hremoval : (Managed.member r).wantsRemoval =
              r.wantsRemoval := rfl
          obtain ⟨rfl, hbound⟩ | ⟨rfl, hfree⟩ := hfound
          · rw [Connector.act_inPlace, hremoval]
            cases hr : r.wantsRemoval with
            | true =>
                refine meets_bind.mpr
                  (meets_mono ?_ (meets_delete_contended hb))
                intro o s'' h
                exact andThen_done (h.mono fun _ hfree =>
                  iff_of_false hfree Bool.true_eq_false.mp)
            | false => exact iff_of_true hbound rfl
          · rw [Connector.act_absent, hremoval]
            cases hr : r.wantsRemoval with
            | true => exact iff_of_false hfree Bool.true_eq_false.mp
            | false =>
                refine meets_bind.mpr
                  (meets_mono ?_ (meets_create_contended hb))
                intro o s'' h
                exact andThen_done
                  (h.mono fun _ hbound => iff_of_true hbound rfl)

end GrantKeeper
