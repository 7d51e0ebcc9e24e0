import Mathlib
import GrantKeeper.Proofs.Cycle.Exchanges
import GrantKeeper.Proofs.Cycle.Gated
import GrantKeeper.Proofs.Cycle.Verbs

/-!
# Failures are reported once

A call of the service may fail for any reason, and a failure may be of several
kinds at once.  Nothing is called after it.  What is no failure of the service
is passed on as it is; all else is reported with the stage of the call and by
the first group that it belongs to.  There is one exception: where nothing can
be read, there is nothing to observe or to delete.

## Main results

* `Traits.classify_eq`, `ClientFault.retryable_ofGroup` — the groups, and where
  trying again may help.
* `Program.ends_of_failed` — who may not call any more ends with what is left.
* `Deed.meets_unforgiving` — every verb stops at a failure and reports it.
* `failures_reported` — the same for the calls of a run.
-/

namespace GrantKeeper

open Program GrantKeeper.Membership

/-! ## Groups of failures -/

/-- The groups of failures, in the order in which they are tried. -/
def Traits.groups : List (Traits → Bool) :=
  [fun t => t.notFound,
    fun t => t.forbidden || t.unauthorized,
    fun t => t.preconditionFailed || t.conflict,
    fun t => t.server || t.tooManyRequests || t.retry ||
      t.transport || t.system]

/-- The first group that a failure belongs to, counted from zero; what belongs
to none comes after all. -/
def Traits.group (t : Traits) : Nat := groups.findIdx fun belongs => belongs t

/-- What the failures of a group are reported as. -/
def ClientFault.ofGroup : Nat → ClientFault
  | 0 => .notFound
  | 1 => .permissionDenied
  | 2 => .versionConflict
  | 3 => .unavailable
  | _ => .unspecified

/-- Failures are classified by groups. -/
theorem Traits.classify_eq (t : Traits) : t.classify = .ofGroup t.group := by
  simp only [classify, group, groups, List.findIdx_cons, List.findIdx_nil]
  generalize t.notFound = first
  generalize (t.forbidden || t.unauthorized) = second
  generalize (t.preconditionFailed || t.conflict) = third
  generalize (t.server || t.tooManyRequests || t.retry || t.transport ||
    t.system) = fourth
  revert first second third fourth
  decide

theorem ClientFault.ofGroup_eq_notFound {n : Nat} :
    ofGroup n = .notFound ↔ n = 0 := by
  unfold ofGroup
  split <;> simp_all

theorem ClientFault.ofGroup_eq_versionConflict {n : Nat} :
    ofGroup n = .versionConflict ↔ n = 2 := by
  unfold ofGroup
  split <;> simp_all

/-- Trying again may help with the third group and the fourth. -/
theorem ClientFault.retryable_ofGroup (n : Nat) :
    (ofGroup n).retryable = (n == 2 || n == 3) := by
  unfold ofGroup
  split <;> simp_all [retryable]

/-! ## The protocol -/

/-- The failure of a call, if it is none of the program's own: its reply is a
fault, or cannot be read. -/
def Client.failure? (reply : Outcome Json) : Option Fault :=
  match reply.bind fun value => Outcome.ofShape (policyOf value) with
  | .ok _ => none
  | .error e => if e.isOwn then none else some e

/-- A call failed if its reply is a fault, or a value that cannot be read. -/
theorem Client.exists_of_failure? {reply : Outcome Json} {e : Fault}
    (h : failure? reply = some e) : e.isOwn = false ∧ (reply = .error e ∨
      ∃ value cause, reply = .ok value ∧ policyOf value = .error cause ∧
        e = .malformed cause) := by
  unfold failure? at h
  split at h
  · cases h
  rename_i e' he
  split at h
  · cases h
  rename_i hown
  cases h
  refine ⟨Bool.eq_false_iff.mpr hown, ?_⟩
  cases reply with
  | error fault =>
      cases he
      exact Or.inl rfl
  | ok value =>
      have hread : Outcome.ofShape (policyOf value) = .error e := he
      cases hpolicy : policyOf value with
      | ok d =>
          rw [hpolicy] at hread
          cases hread
      | error cause =>
          rw [hpolicy] at hread
          cases hread
          exact Or.inr ⟨value, cause, rfl, hpolicy, rfl⟩

section

variable {τ α : Type}

/-- Any reply may come; the state is the call that failed, after which nothing
may be called. -/
def unforgiving :
    Protocol τ (StorageCall τ) Json (Option (StorageCall τ × Fault)) where
  sees _ _ := True
  call failed request post :=
    failed = none ∧ ∀ o, post o ((Client.failure? o).map fun e => (request, e))
  mono h hcall := ⟨hcall.1, fun o => h _ _ (hcall.2 o)⟩

variable [Seconds τ] {remote : Remote (StorageCall τ) Json Service}
  {p : StorageProgram τ α} {w : World τ (StorageCall τ) Json Service}
  {post : Outcome α → Option (StorageCall τ × Fault) → Prop}

/-- What is left after a call meets what was wanted, in the state that the reply
leads to. -/
theorem Program.meets_rest {failed : Option (StorageCall τ × Fault)}
    (h : Meets unforgiving p failed post) : ∀ x ∈ w.exchanges remote p,
      Meets unforgiving x.rest
        ((Client.failure? x.reply).map fun e => (x.request, e)) post := by
  induction p generalizing w failed with
  | done a => exact fun x hx => absurd hx List.not_mem_nil
  | fail fault => exact fun x hx => absurd hx List.not_mem_nil
  | look next ih => exact ih _ (h _ trivial)
  | log entry next ih => exact ih h
  | note condition next ih => exact ih h
  | call request next ih =>
      intro x hx
      rcases World.mem_exchanges_call.mp hx with rfl | hrest
      · exact h.2 _
      · exact ih _ (h.2 _) x hrest

/-- **Who may not call any more ends with what is left.** -/
theorem Program.ends_of_failed {failure : StorageCall τ × Fault}
    (remote : Remote (StorageCall τ) Json Service)
    (w : World τ (StorageCall τ) Json Service)
    (h : Meets unforgiving p (some failure) post) :
    w.exchanges remote p = [] ∧ post (w.run remote p).1 (some failure) := by
  induction p generalizing w with
  | done a => exact ⟨rfl, h⟩
  | fail fault => exact ⟨rfl, h⟩
  | look next ih => exact ih _ w (h _ trivial)
  | log entry next ih => exact ih (w.written entry) h
  | note condition next ih => exact ih (w.noted condition) h
  | call request next ih => cases h.1

end

/-! ## What is reported -/

/-- Where the failures of the service come from: a call that failed, a retry
that was given up, a sign-in, and the system. -/
def Traits.sources : List (Traits → Bool) :=
  [fun t => t.call, fun t => t.retry, fun t => t.auth, fun t => t.system]

/-- A client tells failures of the service from others by where they come
from. -/
theorem Traits.isCallFailure_eq (t : Traits) :
    t.isCallFailure = sources.any fun source => source t := by
  simp [isCallFailure, sources, Bool.or_assoc]

/-- The failure is one of the service. -/
def Fault.isOfService : Fault → Bool
  | .foreign failure => Traits.sources.any fun source => source failure.traits
  | _ => false

/-- The first group that a failure of the service belongs to. -/
def Fault.group : Fault → Nat
  | .foreign failure => failure.traits.group
  | _ => Traits.unknown.group

/-- What a failed call on the policy of a bucket is reported as at a stage. -/
def StorageCall.report {τ : Type} (request : StorageCall τ) (bucket : String)
    (stage : Stage) (e : Fault) : Fault :=
  let verb := if request.isSet then "set" else "get"
  let cause := .client (.ofGroup e.group)
    ("Failed to " ++ verb ++ " IAM policy of bucket '" ++ bucket ++ "'.")
  if request.isSet && e.group == 2 then .writeConflict stage.text cause
  else .reconcile stage.text cause

/-- What a verb ends with if there is no policy to fetch, unless that is a
failure. -/
def Deed.absence? : (deed : Deed) → Option deed.Result
  | .observe => some .absent
  | .create => none
  | .update => none
  | .delete => some ()

/-- What a verb makes of a failed call. -/
structure Deed.Reports {τ : Type} (deed : Deed) (bucket : String)
    (request : StorageCall τ) (e : Fault) (o : Outcome deed.Result) : Prop where
  /-- What is no failure of the service is passed on. -/
  passed : e.isOfService = false → o = .error e
  /-- Without a policy there may be nothing to do. -/
  absent : e.isOfService = true → request.isSet = false → e.group = 0 →
    ∀ result, deed.absence? = some result → o = .ok result
  /-- All else is reported, with the stage of the call. -/
  reported : e.isOfService = true →
    (request.isSet = false → e.group = 0 → deed.absence? = none) →
    ∃ stage ∈ deed.stages,
      stage.isWrite = request.isSet ∧ o = .error (request.report bucket stage e)

section

variable {τ : Type} {b : Binding} {managed : Managed} {request : StorageCall τ}
  {e : Fault} {stage : Stage} {deed : Deed} {reply : Outcome Json}

/-- A report tells whether trying again may help. -/
theorem retryable?_report (request : StorageCall τ) (bucket : String)
    (stage : Stage) (e : Fault) :
    (request.report bucket stage e).retryable? =
      some (e.group == 2 || e.group == 3) := by
  rw [StorageCall.report, ← ClientFault.retryable_ofGroup]
  split <;> rfl

/-- A client passes on what is no failure of the service. -/
theorem Client.reported_of_other (h : e.isOfService = false)
    (verb bucket : String) : reported verb bucket e = e := by
  cases e with
  | foreign failure =>
      have hother : failure.traits.isCallFailure = false :=
        failure.traits.isCallFailure_eq.trans h
      exact if_neg (Bool.eq_false_iff.mp hother)
  | _ => rfl

/-- A client reports a failure of the service by its group. -/
theorem Client.reported_of_isOfService (h : e.isOfService = true)
    (verb bucket : String) : reported verb bucket e = .client (.ofGroup e.group)
      ("Failed to " ++ verb ++ " IAM policy of bucket '" ++ bucket ++
        "'.") := by
  cases e with
  | foreign failure =>
      rw [Fault.group, ← Traits.classify_eq]
      exact if_pos (failure.traits.isCallFailure_eq.trans h)
  | _ => cases h

namespace Membership

/-- A failed get is not a policy. -/
theorem fetched_of_failure? (h : Client.failure? reply = some e) :
    fetched b stage reply =
      .error (atStage stage (Client.reported "get" b.resource e)) := by
  obtain ⟨-, rfl | ⟨value, cause, rfl, hpolicy, rfl⟩⟩ :=
    Client.exists_of_failure? h
  · rfl
  · rw [fetched, hpolicy]
    rfl

/-- A failed set does not succeed. -/
theorem replaced_of_failure? (h : Client.failure? reply = some e) :
    replaced b stage reply =
      .error (atWrite stage (Client.reported "set" b.resource e)) := by
  obtain ⟨-, rfl | ⟨value, cause, rfl, hpolicy, rfl⟩⟩ :=
    Client.exists_of_failure? h
  · rfl
  · rw [replaced, hpolicy]
    rfl

theorem atStage_of_isOwn (h : e.isOwn = false) : atStage stage e = e := by
  cases e with
  | client kind message => cases h
  | _ => rfl

theorem atWrite_of_isOwn (h : e.isOwn = false) : atWrite stage e = e := by
  cases e with
  | client kind message => cases h
  | _ => rfl

theorem isNotFound_of_isOwn (h : e.isOwn = false) : isNotFound e = false := by
  cases e with
  | reconcile stage cause => cases h
  | writeConflict stage cause => cases h
  | _ => rfl

/-- A failed write is told from others by whether it came too late. -/
theorem atWrite_client (stage : Stage) (n : Nat) (message : String) :
    atWrite stage (.client (.ofGroup n) message) =
      if n == 2 then .writeConflict stage.text (.client (.ofGroup n) message)
      else .reconcile stage.text (.client (.ofGroup n) message) := by
  by_cases hn : n = 2
  · rw [hn]
    rfl
  · have hkind := mt ClientFault.ofGroup_eq_versionConflict.mp hn
    rw [if_neg (by simp [hn])]
    cases hgroup : ClientFault.ofGroup n with
    | versionConflict => exact absurd hgroup hkind
    | _ => rfl

/-- Only failures of the first group report that there is no policy. -/
theorem isNotFound_reconcile {stage : String} {kind : ClientFault}
    {message : String} :
    isNotFound (.reconcile stage (.client kind message)) = true ↔
      kind = .notFound := by
  cases kind <;> simp [isNotFound, Fault.cause?]

end Membership

/-! ## Verbs -/

/-- A failed get is passed on, or reported at the stage of the fetch. -/
theorem Deed.reports_get (hown : e.isOwn = false) (hset : request.isSet = false)
    (hstage : stage ∈ deed.stages) (hkind : stage.isWrite = false)
    (hfails : isNotFound (atStage stage (Client.reported "get" b.resource e)) =
      true → deed.absence? = none) :
    deed.Reports b.resource request e
      (.error (atStage stage (Client.reported "get" b.resource e))) := by
  cases he : e.isOfService with
  | false =>
      rw [Client.reported_of_other he, atStage_of_isOwn hown]
      refine ⟨fun _ => rfl, fun h => ?_, fun h => ?_⟩
      · cases he.symm.trans h
      · cases he.symm.trans h
  | true =>
      have hreported := Client.reported_of_isOfService he "get" b.resource
      rw [hreported] at hfails ⊢
      refine ⟨fun h => ?_, fun _ _ hgroup result hresult => ?_, fun _ _ => ?_⟩
      · cases he.symm.trans h
      · rw [hgroup] at hfails
        rw [hfails rfl] at hresult
        cases hresult
      · refine ⟨stage, hstage, hkind.trans hset.symm, ?_⟩
        rw [StorageCall.report, hset]
        rfl

/-- A get that finds nothing is no failure for a verb that needs nothing. -/
theorem Deed.reports_absence (hown : e.isOwn = false)
    (hset : request.isSet = false)
    (hnone : isNotFound
      (atStage stage (Client.reported "get" b.resource e)) = true)
    {result : deed.Result} (hresult : deed.absence? = some result) :
    deed.Reports b.resource request e (.ok result) := by
  cases he : e.isOfService with
  | false =>
      rw [Client.reported_of_other he, atStage_of_isOwn hown,
        isNotFound_of_isOwn hown] at hnone
      cases hnone
  | true =>
      rw [Client.reported_of_isOfService he, atStage, isNotFound_reconcile,
        ClientFault.ofGroup_eq_notFound] at hnone
      refine ⟨fun h => ?_, fun _ _ _ result' hresult' => ?_, fun _ hfails => ?_⟩
      · cases he.symm.trans h
      · rw [hresult] at hresult'
        cases hresult'
        rfl
      · rw [hfails hset hnone] at hresult
        cases hresult

/-- What a verb that needs nothing makes of a failed get. -/
theorem Deed.reports_fetch (hown : e.isOwn = false)
    (hset : request.isSet = false)
    (hstage : stage ∈ deed.stages) (hkind : stage.isWrite = false)
    {result : deed.Result} (hresult : deed.absence? = some result) :
    let fault := atStage stage (Client.reported "get" b.resource e)
    if isNotFound fault then deed.Reports b.resource request e (.ok result)
    else deed.Reports b.resource request e (.error fault) := by
  intro fault
  split
  · rename_i hnone
    exact Deed.reports_absence hown hset hnone hresult
  · rename_i hsome
    refine Deed.reports_get hown hset hstage hkind fun hnone => ?_
    exact absurd hnone hsome

/-- A failed set is passed on, or reported at the stage of the replacement. -/
theorem Deed.reports_set (hown : e.isOwn = false) (hset : request.isSet = true)
    (hstage : stage ∈ deed.stages) (hkind : stage.isWrite = true) :
    deed.Reports b.resource request e
      (.error (atWrite stage (Client.reported "set" b.resource e))) := by
  cases he : e.isOfService with
  | false =>
      rw [Client.reported_of_other he, atWrite_of_isOwn hown]
      refine ⟨fun _ => rfl, fun h => ?_, fun h => ?_⟩
      · cases he.symm.trans h
      · cases he.symm.trans h
  | true =>
      rw [Client.reported_of_isOfService he]
      refine ⟨fun h => ?_, fun _ h => ?_, fun _ _ => ?_⟩
      · cases he.symm.trans h
      · cases hset.symm.trans h
      · refine ⟨stage, hstage, hkind.trans hset.symm, ?_⟩
        rw [StorageCall.report, hset, atWrite_client]
        rfl

/-- What is wanted of a verb: it reports the failure of a call, if there was
one. -/
def Deed.Reported {τ : Type} (deed : Deed) (bucket : String)
    (o : Outcome deed.Result) : Option (StorageCall τ × Fault) → Prop
  | none => True
  | some (request, e) => deed.Reports bucket request e o

/-- A replacement reports the failure of its set. -/
theorem meets_replace_unforgiving {client : Client τ} {d : Policy}
    {post : Outcome Unit → Option (StorageCall τ × Fault) → Prop}
    (hnone : ∀ o, post o none)
    (hset : ∀ request e, StorageCall.isSet request = true → e.isOwn = false →
      post (.error (atWrite stage (Client.reported "set" b.resource e)))
      (some (request, e))) :
    Meets unforgiving ((replace b d stage).lower client.serve) none post := by
  refine meets_replace (fun _ _ _ => hnone _) (fun _ => hnone _)
    (fun _ _ _ => hnone _)
    fun options payload _ _ => ⟨rfl, fun o => ?_⟩
  cases hfailure : Client.failure? o with
  | none => exact hnone _
  | some e =>
      rw [replaced_of_failure? hfailure]
      exact hset _ e rfl (Client.exists_of_failure? hfailure).1

theorem meets_observe_unforgiving (client : Client τ)
    (hb : managed.binding = .ok b) :
    Meets unforgiving ((observe managed).lower client.serve) none
      (Deed.observe.Reported b.resource) := by
  refine meets_observe hb (fun _ _ _ => trivial) fun options =>
    ⟨rfl, fun o => ?_⟩
  cases hfailure : Client.failure? o with
  | none =>
      cases fetched b .observeFetch o with
      | error fault =>
          show if isNotFound fault then _ else _
          split <;> trivial
      | ok d =>
          show if d.holds b.role b.member then _ else _
          split
          · exact fun _ _ => trivial
          · trivial
  | some e =>
      rw [fetched_of_failure? hfailure]
      exact Deed.reports_fetch (Client.exists_of_failure? hfailure).1 rfl
        List.mem_cons_self rfl rfl

theorem meets_create_unforgiving (client : Client τ)
    (hb : managed.binding = .ok b) :
    Meets unforgiving ((create managed).lower client.serve) none
      (Deed.create.Reported b.resource) := by
  refine meets_create hb (fun _ _ _ => trivial) fun options =>
    ⟨rfl, fun o => ?_⟩
  cases hfailure : Client.failure? o with
  | none =>
      cases fetched b .createFetch o with
      | error fault => trivial
      | ok d =>
          show if d.holds b.role b.member then _ else _
          split
          · trivial
          · refine meets_replace_unforgiving (fun _ => trivial)
              fun request e hset hown => ?_
            exact Deed.reports_set hown hset
              (List.mem_cons_of_mem _ List.mem_cons_self) rfl
  | some e =>
      rw [fetched_of_failure? hfailure]
      exact Deed.reports_get (Client.exists_of_failure? hfailure).1 rfl
        List.mem_cons_self rfl
        fun _ => rfl

theorem meets_delete_unforgiving (client : Client τ)
    (hb : managed.binding = .ok b) :
    Meets unforgiving ((delete managed).lower client.serve) none
      (Deed.delete.Reported b.resource) := by
  refine meets_delete hb (fun _ _ _ => trivial) fun options =>
    ⟨rfl, fun o => ?_⟩
  cases hfailure : Client.failure? o with
  | none =>
      cases fetched b .deleteFetch o with
      | error fault =>
          show if isNotFound fault then _ else _
          split <;> trivial
      | ok d =>
          show if d.holds b.role b.member then _ else _
          split
          · refine meets_replace_unforgiving (fun _ => trivial)
              fun request e hset hown => ?_
            exact Deed.reports_set hown hset
              (List.mem_cons_of_mem _ List.mem_cons_self) rfl
          · trivial
  | some e =>
      rw [fetched_of_failure? hfailure]
      exact Deed.reports_fetch (Client.exists_of_failure? hfailure).1 rfl
        List.mem_cons_self rfl rfl

/-- **Every verb stops at a failure and reports it.** -/
theorem Deed.meets_unforgiving (client : Client τ)
    (hb : managed.binding = .ok b) (deed : Deed) :
    Meets unforgiving (deed.program client managed) none
      (deed.Reported b.resource) := by
  have hcreate := meets_create_unforgiving client hb
  cases deed with
  | observe => exact meets_observe_unforgiving client hb
  | create => exact hcreate
  | update =>
      refine meets_mono (fun o failed h => ?_) hcreate
      cases failed with
      | none => trivial
      | some failure => exact ⟨h.passed, h.absent, h.reported⟩
  | delete => exact meets_delete_unforgiving client hb

/-- **Failures are reported once.**  Say that a call of a verb raised something
that is none of the program's own faults.  Then nothing is called after it, and
the verb makes of it what `Deed.Reports` says: what is no failure of the service
is passed on, and all else is reported with the stage of that call and by the
first group that it belongs to, unless there was nothing to observe or to
delete.  To try again may help exactly with the third group and the fourth. -/
theorem failures_reported [Seconds τ] (client : Client τ) (deed : Deed)
    (managed : Managed) (w : World τ (StorageCall τ) Json Service) :
    let program := deed.program client managed
    ∀ x ∈ w.exchanges (Service.remote τ) program,
      ∀ e, Client.failure? x.reply = some e →
      x.after.exchanges (Service.remote τ) x.rest = [] ∧
      ∃ b, managed.binding = .ok b ∧
        deed.Reports b.resource x.request e
          (w.run (Service.remote τ) program).1 ∧
        ∀ stage, (x.request.report b.resource stage e).retryable? =
          some (e.group == 2 || e.group == 3) := by
  intro program x hx e hfailure
  cases hb : managed.binding with
  | error fault =>
      have hverb : (Operation.verb client deed managed).managed.binding =
          .error fault := hb
      have hfails : program = .fail fault := Operation.program_of_error hverb
      rw [hfails] at hx
      exact absurd hx List.not_mem_nil
  | ok b =>
      have hrest := Program.meets_rest (deed.meets_unforgiving client hb) x hx
      rw [hfailure] at hrest
      obtain ⟨hnone, hreports⟩ :=
        Program.ends_of_failed (Service.remote τ) x.after hrest
      rw [World.run_rest hx] at hreports
      exact ⟨hnone, b, rfl, hreports, fun stage => retryable?_report _ _ _ _⟩

end

/-- A world in which the second call fails. -/
def unsettled (failure : Foreign) : World Int (StorageCall Int) Json Service :=
  { World.around 0 [("b", .obj [("etag", .str "1")])] with
    happenings :=
      [.none, ⟨none, none, [], some fun _ => .error (.foreign failure)⟩] }

/-- An update whose set fails reports what a failure is, from whatever source it
comes, and passes on what comes from none. -/
theorem failures_reported_unsettled :
    let outcome (traits : Traits) : Outcome Unit :=
      ((unsettled ⟨"Failure", "", traits⟩).run (Service.remote Int)
        (Deed.update.program ⟨30⟩
          (.member (.declaring "m" ⟨"b", "r", "u:a"⟩ false)))).1
    let refused (kind : ClientFault) : Fault :=
      .client kind "Failed to set IAM policy of bucket 'b'."
    outcome { Traits.unknown with
      call := true, conflict := true, server := true } =
        .error (.writeConflict "create-write" (refused .versionConflict)) ∧
      outcome { Traits.unknown with retry := true } =
        .error (.reconcile "create-write" (refused .unavailable)) ∧
      outcome { Traits.unknown with auth := true } =
        .error (.reconcile "create-write" (refused .unspecified)) ∧
      outcome { Traits.unknown with system := true } =
        .error (.reconcile "create-write" (refused .unavailable)) ∧
      outcome .unknown = .error (.foreign ⟨"Failure", "", .unknown⟩) := by
  intro outcome refused
  have hreports (traits : Traits) : ∃ request : StorageCall Int,
      request.isSet = true ∧
      Deed.update.Reports "b" request (.foreign ⟨"Failure", "", traits⟩)
        (outcome traits) := by
    have hsecond :
        (((unsettled ⟨"Failure", "", traits⟩).exchanges (Service.remote Int)
          (Deed.update.program ⟨30⟩
            (.member (.declaring "m" ⟨"b", "r", "u:a"⟩ false))))[1]?.map
        fun x => (x.request.isSet, Client.failure? x.reply)) =
          some (true, some (.foreign ⟨"Failure", "", traits⟩)) := by
      cbv
    obtain ⟨x, hx, hfacts⟩ := Option.map_eq_some_iff.mp hsecond
    obtain ⟨hset, hfailure⟩ := Prod.mk.inj hfacts
    obtain ⟨-, b, hb, hreports, -⟩ := failures_reported ⟨30⟩ .update
      (.member (.declaring "m" ⟨"b", "r", "u:a"⟩ false)) _ x
      (List.mem_of_getElem? hx) _ hfailure
    cases hb
    exact ⟨x.request, hset, hreports⟩
  have hwrite : ∀ stage ∈ Deed.update.stages,
      stage.isWrite = true → stage = .createWrite := by
    decide
  have hrefused (traits : Traits)
      (h : Fault.isOfService (.foreign ⟨"Failure", "", traits⟩) = true) :
      outcome traits = .error (if traits.group == 2
        then .writeConflict "create-write" (refused (.ofGroup traits.group))
        else .reconcile "create-write" (refused (.ofGroup traits.group))) := by
    obtain ⟨request, hset, hreports⟩ := hreports traits
    obtain ⟨stage, hstage, hkind, houtcome⟩ :=
      hreports.reported h fun hget => by
      cases hset.symm.trans hget
    rw [houtcome, hwrite stage hstage (hkind.trans hset),
      StorageCall.report, hset]
    rfl
  obtain ⟨request, -, hunknown⟩ := hreports .unknown
  exact ⟨hrefused _ rfl, hrefused _ rfl, hrefused _ rfl, hrefused _ rfl,
    hunknown.passed rfl⟩

end GrantKeeper
