import GrantKeeper.Proofs.Cycle.Exchanges
import GrantKeeper.Proofs.Cycle.Operations
import GrantKeeper.Proofs.Policy.Worded
import GrantKeeper.Proofs.Resource.Declared
import GrantKeeper.Proofs.Storage.Returned

/-!
# What a verb calls

A verb makes one get and after it at most one set, both on the bucket of its
resource.  Whether it makes the set is decided by the reply to the get and by
the context after it, and by nothing else: the pair has to be missing for a verb
that gives the role, or there for one that takes it; the etag has to be one; and
the context must not be over.  What is sent is the policy of the reply with that
one pair changed, its entries in the order of their roles.

## Main results

* `Deed.exchanges_program` — the calls of a verb are the get and those of what
  follows it.
* `Deed.requests_followUp` — what follows a policy that was fetched makes one
  set or none.
* `Deed.calls_disciplined` — when there is a set, and what is sent.
* `reordered_when_sent` — what is sent need not be in the order of the written
  form.
-/

namespace GrantKeeper

open GrantKeeper.Membership

variable {τ : Type} [Seconds τ] {managed : Managed} {b : Binding}
  {w : World τ (StorageCall τ) Json Service}

/-! ## What is sent -/

/-- The set that is made in order to write a policy: none if the context is
over, if the policy has no etag or if it cannot be written. -/
def Client.sets (client : Client τ) (b : Binding) (d : Policy) (m : Moment τ) :
    List (StorageCall τ) :=
  if m.isOver then []
  else if d.etag.truthy then
    match payloadOf d with
    | .ok payload =>
        [.set b.resource payload (client.options (m.remaining?.map .seconds))]
    | .error _ => []
  else []

/-- After the reply to a set nothing is called. -/
theorem World.exchanges_recordedReply (stage : Stage) (o : Outcome Json) :
    w.exchanges (Service.remote τ) (recordedReply b stage o) = [] := by
  have hrecorded (o : Outcome Policy) : w.exchanges (Service.remote τ)
      (recorded b stage o) = [] := by
    cases o with
    | ok d => rfl
    | error fault =>
        cases fault with
        | client kind message => cases kind <;> rfl
        | _ => rfl
  cases o with
  | ok reply => exact hrecorded _
  | error fault => exact hrecorded _

/-- A replacement makes one set or none. -/
theorem World.requests_replace (client : Client τ) (d : Policy)
    (stage : Stage) :
    (w.exchanges (Service.remote τ)
      ((replace b d stage).lower client.serve)).map (·.request) =
        client.sets b d w.moment := by
  rw [replace_lower, World.exchanges, Client.sets]
  by_cases hover : w.moment.isOver = true
  · rw [if_pos hover, if_pos hover]
    rfl
  · rw [if_neg hover, if_neg hover]
    by_cases hetag : d.etag.truthy = true
    · rw [if_pos hetag, if_pos hetag]
      cases Client.payloadOf d with
      | error cause => rfl
      | ok payload =>
          simp only [World.exchanges, World.exchanges_recordedReply,
            List.map_cons, List.map_nil]
    · rw [if_neg hetag, if_neg hetag]
      rfl

/-- A policy without an etag is not replaced, and the verb says why. -/
theorem World.run_replace_of_missing {client : Client τ} {d : Policy}
    (stage : Stage)
    (hover : w.moment.isOver = false) (hetag : d.etag.truthy = false) :
    (w.run (Service.remote τ) ((replace b d stage).lower client.serve)).1 =
      .error (.reconcile stage.text (Client.missingToken b.resource)) := by
  rw [replace_lower, World.run, hover, hetag]
  rfl

namespace Deed

/-! ## Verbs call by call -/

/-- The stage of the fetch. -/
def fetchStage : Deed → Stage
  | .observe => .observeFetch
  | .create => .createFetch
  | .update => .createFetch
  | .delete => .deleteFetch

/-- The verb takes the role away. -/
def removes : Deed → Bool
  | .delete => true
  | _ => false

/-- The verb has something to change in the policy. -/
def isDue (deed : Deed) (b : Binding) (d : Policy) : Bool :=
  match deed with
  | .observe => false
  | .create => !d.holds b.role b.member
  | .update => !d.holds b.role b.member
  | .delete => d.holds b.role b.member

/-- What is left of a verb after its fetch. -/
def followUp (client : Client τ) (b : Binding) :
    (deed : Deed) → Outcome Policy → StorageProgram τ deed.Result
  | .observe => observed b
  | .create => created client b
  | .update => created client b
  | .delete => deleted client b

omit [Seconds τ] in
/-- A verb is a fetch, and what is left after it. -/
theorem program_eq (hb : managed.binding = .ok b) (client : Client τ)
    (deed : Deed) : deed.program client managed =
      ((fetch b deed.fetchStage).lower client.serve).attempt
        (deed.followUp client b) := by
  cases deed with
  | observe => exact observe_lower hb client
  | create => exact create_lower hb client
  | update => exact create_lower hb client
  | delete => exact delete_lower hb client

/-- After a fetch that failed nothing is called. -/
theorem exchanges_followUp_error (client : Client τ) (deed : Deed)
    (fault : Fault) :
    w.exchanges (Service.remote τ) (deed.followUp client b (.error fault)) =
      [] := by
  cases deed with
  | observe =>
      rw [followUp, observed]
      split <;> rfl
  | delete =>
      rw [followUp, deleted]
      split <;> rfl
  | _ => rfl

/-- **The calls of a verb are the get and those of what follows it.** -/
theorem exchanges_program (hb : managed.binding = .ok b) (client : Client τ)
    (deed : Deed) :
    w.exchanges (Service.remote τ) (deed.program client managed) =
      if w.moment.isOver then []
      else
        let before := w.written ⟨.fetching, b, deed.fetchStage⟩
        let request := .get b.resource Client.policyVersion
          (client.options (w.moment.remaining?.map .seconds))
        let served := before.served (Service.remote τ) request
        let rest := deed.followUp client b (fetched b deed.fetchStage served.1)
        ⟨before, request, served.1, served.2, rest⟩ ::
          served.2.exchanges (Service.remote τ) rest := by
  rw [program_eq hb, fetch_lower_attempt, World.exchanges]
  by_cases hover : w.moment.isOver = true
  · rw [if_pos hover, if_pos hover]
    exact exchanges_followUp_error client deed _
  · rw [if_neg hover, if_neg hover]
    rfl

/-- **What follows a policy that was fetched makes one set or none.** -/
theorem requests_followUp (client : Client τ) (deed : Deed) (d : Policy) :
    (w.exchanges (Service.remote τ) (deed.followUp client b (.ok d))).map
      (·.request) =
        if deed.isDue b d then client.sets b (d.amended b deed.removes) w.moment
          else [] := by
  have hcreated :
      (w.exchanges (Service.remote τ) (created client b (.ok d))).map
        (·.request) =
      if !d.holds b.role b.member then client.sets b (d.grant b).1 w.moment
        else [] := by
    rw [created]
    by_cases hholds : d.holds b.role b.member = true
    · rw [if_pos hholds, hholds]
      rfl
    · rw [if_neg hholds, World.requests_replace, Bool.eq_false_iff.mpr hholds]
      rfl
  cases deed with
  | observe =>
      rw [followUp, observed]
      by_cases hholds : d.holds b.role b.member = true
      · rw [if_pos hholds, World.exchanges]
        cases w.moment.wall <;> rfl
      · rw [if_neg hholds]
        rfl
  | create => exact hcreated
  | update => exact hcreated
  | delete =>
      rw [followUp, deleted]
      by_cases hholds : d.holds b.role b.member = true
      · rw [if_pos hholds, World.requests_replace, isDue, if_pos hholds]
        rfl
      · rw [if_neg hholds, isDue, if_neg hholds]
        rfl

/-- A verb that has something to change in a policy without an etag says so. -/
theorem run_followUp_of_missing (client : Client τ) (deed : Deed) {d : Policy}
    (hdue : deed.isDue b d = true) (hover : w.moment.isOver = false)
    (hetag : d.etag.truthy = false) :
    ∃ stage ∈ deed.stages.tail,
      (w.run (Service.remote τ) (deed.followUp client b (.ok d))).1 =
        .error (.reconcile stage.text (Client.missingToken b.resource)) := by
  have hcreated (h : (!d.holds b.role b.member) = true) :
      (w.run (Service.remote τ) (created client b (.ok d))).1 =
        .error (.reconcile Stage.createWrite.text
          (Client.missingToken b.resource)) := by
    rw [created, if_neg (by simpa using h)]
    exact World.run_replace_of_missing _ hover (by rwa [Policy.grant_etag])
  cases deed with
  | observe => cases hdue
  | create => exact ⟨.createWrite, List.mem_cons_self, hcreated hdue⟩
  | update => exact ⟨.createWrite, List.mem_cons_self, hcreated hdue⟩
  | delete =>
      have hholds : d.holds b.role b.member = true := hdue
      refine ⟨.deleteWrite, List.mem_cons_self, ?_⟩
      rw [followUp, deleted, if_pos hholds]
      exact World.run_replace_of_missing _ hover (by rwa [Policy.revoke_etag])

/-- The verb has something to change if the pair is granted, or is not. -/
def CallsFor (deed : Deed) (granted : Prop) : Prop :=
  match deed with
  | .observe => False
  | .create => ¬ granted
  | .update => ¬ granted
  | .delete => granted

theorem isDue_iff {d : Policy} {granted : Prop}
    (h : d.holds b.role b.member = true ↔ granted)
    (deed : Deed) : deed.isDue b d = true ↔ deed.CallsFor granted := by
  have hnot : (!d.holds b.role b.member) = true ↔ ¬ granted := by
    rw [Bool.not_eq_true', Bool.eq_false_iff, ne_eq, h]
  cases deed with
  | observe => exact ⟨Bool.false_ne_true, False.elim⟩
  | create => exact hnot
  | update => exact hnot
  | delete => exact h

end Deed

/-! ## Replies in words -/

/-- What is sent for a policy: the entries of its written form, in the order of
their roles.  Where nothing is conditional, that is the written form. -/
structure Policy.IsSentAs (d : Policy) (payload : Json) : Prop where
  entries : ∃ entries : List Fields,
    d.encode = .ok (assembled d.etag d.version (entries.map .obj)) ∧
    payload = assembled d.etag d.version ((inOrder entryRole entries).map .obj)
  plain : d.conditional = [] → d.encode = .ok payload

omit [Seconds τ] in
/-- A policy in words that was amended is sent, unless the context is over or
there is no etag. -/
theorem Client.exists_sets (client : Client τ) {value : Json} {d : Policy}
    (hd : policyOf value = .ok d)
    (hwords : d.InWords) (hrole : b.role ≠ "") (removal : Bool) (m : Moment τ) :
    ∃ payload, (d.amended b removal).IsSentAs payload ∧
      payload.get "etag" = d.etag ∧ client.sets b (d.amended b removal) m =
        if d.etag.truthy = true ∧ m.isOver = false then
          [.set b.resource payload (client.options (m.remaining?.map .seconds))]
        else [] := by
  have hwords' := hwords.amended (b := b) hrole removal
  have htexts : (d.amended b removal).IsTextual := by
    refine ⟨hwords'.roles, ?_⟩
    intro e he m hm
    obtain ⟨role, members, rfl, -⟩ := hwords'.tidy.entry e he
    obtain ⟨s, -, rfl⟩ := List.mem_map.mp hm
    rfl
  obtain ⟨entries, payload, hencode, hsorted, hplain, hpayload⟩ :=
    exists_payloadOf_of_isTextual
      ((isSettled_policyOf hd).amended b removal) htexts
  refine ⟨payload, ⟨⟨entries, hencode, hsorted⟩, hplain⟩, ?_, ?_⟩
  · rw [hsorted, Policy.get_etag_assembled, Policy.etag_amended]
  · rw [sets, hpayload, Policy.etag_amended]
    cases m.isOver <;> cases d.etag.truthy <;> rfl

namespace Deed

/-- What a verb does with a policy in words that its get returned. -/
structure Heeds (deed : Deed) (b : Binding) (value : Json) (isOver : Bool)
    (sent : List (StorageCall τ)) (o : Outcome deed.Result) : Prop where
  /-- There is a set exactly if there is something to change, the etag is one,
  and the context is not over. -/
  sends_iff : sent ≠ [] ↔
    deed.CallsFor (∃ entry ∈ (value.get "bindings").listed,
      entry.Lists b.role b.member) ∧
      (value.get "etag").truthy = true ∧ isOver = false
  /-- What is sent is the policy of the reply with the one pair changed, under
  the etag of the reply. -/
  payload : ∃ d wanted, Client.policyOf value = .ok d ∧ d.IsReadingOf value ∧
    d.IsAmendedAs wanted b deed.removes ∧ ∀ call ∈ sent, ∃ payload timeout,
      call = .set b.resource payload ⟨timeout, false⟩ ∧
      wanted.IsSentAs payload ∧
        payload.get "etag" = value.get "etag"
  /-- If only the etag is missing, the verb says so, and that to try again does
  not help. -/
  missing : deed.CallsFor (∃ entry ∈ (value.get "bindings").listed,
    entry.Lists b.role b.member) →
    (value.get "etag").truthy = false → isOver = false →
    ∃ stage ∈ deed.stages.tail, ∃ fault,
      o = .error fault ∧
      fault = .reconcile stage.text (Client.missingToken b.resource) ∧
        fault.retryable? = some false

/-- **A verb heeds a reply in words.** -/
theorem heeds_followUp (client : Client τ) (deed : Deed) (hrole : b.role ≠ "")
    {value : Json}
    (hvalue : value.isWorded = true)
    (w : World τ (StorageCall τ) Json Service) :
    let rest := deed.followUp client b (fetched b deed.fetchStage (.ok value))
    deed.Heeds b value w.moment.isOver
      ((w.exchanges (Service.remote τ) rest).map (·.request))
      (w.run (Service.remote τ) rest).1 := by
  intro rest
  obtain ⟨d, hd, hwords⟩ := Client.exists_policyOf_of_isWorded hvalue
  have hread := Client.isReadingOf_policyOf hd
  have hrest : rest = deed.followUp client b (.ok d) :=
    congrArg (fun x => deed.followUp client b (Outcome.ofShape x)) hd
  have hholds : d.holds b.role b.member = true ↔
      ∃ entry ∈ (value.get "bindings").listed, entry.Lists b.role b.member := by
    rw [hread.holds_iff, Content.mem_granted]
    exact and_iff_right hrole
  obtain ⟨payload, hsent, hetag, hsets⟩ :=
    client.exists_sets hd hwords hrole deed.removes w.moment
  have hrequests := requests_followUp (w := w) (b := b) client deed d
  rw [hsets, ← ite_and, hread.etag] at hrequests
  rw [hread.etag] at hetag
  rw [hrest, hrequests]
  refine
    { sends_iff := ?_
      payload := ⟨d, _, hd, hread,
        Policy.isAmendedAs_amended hread.distinct b deed.removes, ?_⟩
      missing := ?_ }
  · rw [ite_ne_right_iff, and_iff_left (List.cons_ne_nil _ _), isDue_iff hholds]
  · intro call hcall
    have hcall' := (List.mem_ite_nil_right.mp hcall).2
    exact ⟨payload, _, List.mem_singleton.mp hcall', hsent, hetag⟩
  · intro hdue hfalsy hover
    rw [← isDue_iff hholds] at hdue
    rw [← hread.etag] at hfalsy
    obtain ⟨stage, hstage, hrun⟩ :=
      run_followUp_of_missing client deed hdue hover hfalsy
    exact ⟨stage, hstage, _, hrun, rfl, rfl⟩

/-- Whatever the reply is, a verb makes one set or none after its get, and none
if it only looks. -/
theorem requests_followUp_cases (client : Client τ) (deed : Deed)
    (o : Outcome Policy) (w : World τ (StorageCall τ) Json Service) :
    let sent :=
      (w.exchanges (Service.remote τ) (deed.followUp client b o)).map
        (·.request)
    sent = [] ∨ deed ≠ .observe ∧
      ∃ payload timeout, sent = [.set b.resource payload ⟨timeout, false⟩] := by
  cases o with
  | error fault =>
      simp only [exchanges_followUp_error]
      exact Or.inl rfl
  | ok d =>
      simp only [requests_followUp]
      split
      · rename_i hdue
        unfold Client.sets
        split
        · exact Or.inl rfl
        · split
          · split
            · refine Or.inr ⟨?_, _, _, rfl⟩
              rintro rfl
              cases hdue
            · exact Or.inl rfl
          · exact Or.inl rfl
      · exact Or.inl rfl

/-- **What a verb calls.**  It makes a get, unless its context is over, and
after it one set or none, all on its own bucket and none of them tried again by
the service.  If the reply to the get holds a policy in words, what follows is
what `Deed.Heeds` says. -/
theorem calls_disciplined (client : Client τ) (deed : Deed) {r : Resource}
    (hb : r.Declares b) (w : World τ (StorageCall τ) Json Service) :
    let program := deed.program client (.member r)
    let calls := w.exchanges (Service.remote τ) program
    (w.moment.isOver = true ∧ calls = []) ∨
    ∃ get following, calls = get :: following ∧
      (∃ timeout,
        get.request = .get b.resource Client.policyVersion ⟨timeout, false⟩) ∧
      (following.map (·.request) = [] ∨ deed ≠ .observe ∧ ∃ payload timeout,
        following.map (·.request) =
          [.set b.resource payload ⟨timeout, false⟩]) ∧
      ∀ value, get.reply = .ok value → value.isWorded = true →
        deed.Heeds b value get.after.moment.isOver (following.map (·.request))
          (w.run (Service.remote τ) program).1 := by
  intro program calls
  have hcalls : calls = _ := exchanges_program hb.binding client deed
  by_cases hover : w.moment.isOver = true
  · rw [if_pos hover] at hcalls
    exact Or.inl ⟨hover, hcalls⟩
  · rw [if_neg hover] at hcalls
    refine Or.inr ⟨_, _, hcalls, ⟨_, rfl⟩,
      requests_followUp_cases client deed _ _, ?_⟩
    intro value hvalue hworded
    have hrun := World.run_rest (hcalls ▸ List.mem_cons_self)
    rw [← hrun]
    have hheeds := heeds_followUp client deed hb.role hworded
    simp only at hvalue
    rw [← hvalue] at hheeds
    exact hheeds _

end Deed

/-- A policy that grants one role, under a condition. -/
def provisional : Json :=
  .obj [("etag", .str "1"), ("bindings", .arr [.obj [("role", .str "r/1"),
    ("members", .arr [.str "u:a"]),
    ("condition", .obj [("title", .str "t")])]])]

/-- What is read of it. -/
def provisionalPolicy : Policy where
  etag := .str "1"
  version := .null
  grants? := some []
  conditional := [[("role", .str "r/1"), ("members", .arr [.str "u:a"]),
    ("condition", .obj [("title", .str "t")])]]

/-- A world in which it is stored. -/
def provisionally : World Int (StorageCall Int) Json Service :=
  .around 0 [("b", provisional)]

/-- A resource that asks for another role. -/
abbrev applicant : Resource := .declaring "m" ⟨"b", "r/2", "u:c"⟩ false

/-- The program that gives it the role. -/
abbrev application : StorageProgram Int Unit :=
  Deed.create.program ⟨30⟩ (.member applicant)

theorem calls_disciplined_applied :
    ∃ get payload timeout,
      (provisionally.exchanges (Service.remote Int) application).map
        (·.request) = [get, .set "b" payload ⟨timeout, false⟩] := by
  have hdeclares : applicant.Declares ⟨"b", "r/2", "u:c"⟩ := ⟨rfl, by decide⟩
  obtain ⟨hover, -⟩ | ⟨get, following, hcalls, -, hsent, hheeds⟩ :=
    Deed.calls_disciplined ⟨30⟩ .create hdeclares provisionally
  · cases hover
  · have hget : ((provisionally.exchanges (Service.remote Int)
        application).head?.map fun x => (x.reply, x.after.moment.isOver)) =
          some (.ok provisional, false) := by
      cbv
    rw [hcalls, List.head?_cons, Option.map_some, Option.some.injEq,
      Prod.mk.injEq] at hget
    have hissued := (hheeds provisional hget.1 (by decide)).sends_iff.mpr
      ⟨by unfold Deed.CallsFor; decide, by decide, hget.2⟩
    rcases hsent with hnone | ⟨-, payload, timeout, hone⟩
    · exact absurd hnone hissued
    · refine ⟨get.request, payload, timeout, ?_⟩
      rw [hcalls, List.map_cons, hone]

/-- What is sent need not be in the order of the written form. -/
theorem reordered_when_sent :
    let wanted := provisionalPolicy.amended ⟨"b", "r/2", "u:c"⟩ false
    provisional.isWorded = true ∧ Client.policyOf provisional =
      .ok provisionalPolicy ∧
      ∃ value sent options, wanted.encode = .ok value ∧ sent ≠ value ∧
        (provisionally.run (Service.remote Int) application).2.calls =
          [.get "b" Client.policyVersion options, .set "b" sent options] := by
  intro wanted
  have hread : Client.policyOf provisional = .ok provisionalPolicy := by
    cbv
  have hform : wanted.encode =
      .ok (.obj [("etag", .str "1"),
        ("bindings",
          .arr [ .obj [("role", .str "r/2"), ("members", .arr [.str "u:c"])],
      .obj [("role", .str "r/1"), ("members", .arr [.str "u:a"]),
        ("condition", .obj [("title", .str "t")])]])]) := by
    cbv
  have hcalls : (provisionally.run (Service.remote Int) application).2.calls =
      [.get "b" Client.policyVersion ⟨.seconds 30, false⟩,
        .set "b" (.obj [("etag", .str "1"), ("bindings", .arr [
          .obj [("role", .str "r/1"), ("members", .arr [.str "u:a"]),
            ("condition", .obj [("title", .str "t")])],
          .obj [("role", .str "r/2"), ("members", .arr [.str "u:c"])]])])
            ⟨.seconds 30, false⟩] := by
    cbv
  refine ⟨by decide, hread, _, _, _, hform, ?_, hcalls⟩
  simp

end GrantKeeper
