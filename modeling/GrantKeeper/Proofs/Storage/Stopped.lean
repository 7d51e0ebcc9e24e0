import GrantKeeper.Proofs.Storage.Accounted
import GrantKeeper.Proofs.Storage.Reported

/-!
# Where an operation stopped

An operation that ends with a fault of the program's own stopped at one place:
when it signed in, at a call that failed, or before a call that it was not to
make.  `StopsAt` reads that place off the calls that were made and the stages of
the operation.  The text of the fault names it.

## Main results

* `Operation.meets_stopped` — every operation names the place where it stopped.
* `Operation.exists_stopsAt` — the same for a run in a world that raises nothing
  of the program's own.
-/

namespace GrantKeeper

open Program GrantKeeper.Membership

variable {τ α : Type} {b : Binding} {managed : Managed} {client : Client τ}
  {stage : Stage} {stages : List Stage}

/-- The fault is about a call that was not made. -/
def Fault.precedesCall : Fault → Bool
  | .cancelled _ => true
  | .reconcile _ (.client .missingToken _) => true
  | _ => false

namespace Transcript

/-- How many gets and sets were made. -/
def made (t : Transcript (StorageCall τ) Json) : Nat :=
  t.countP fun e => (Service.remote τ).eventful e.1

/-- No call failed with a fault of the program's own. -/
def IsForeign (t : Transcript (StorageCall τ) Json) : Prop :=
  ∀ e ∈ t, ∀ fault, e.2 = .error fault → fault.isOwn = false

theorem made_concat (t : Transcript (StorageCall τ) Json)
    {request : StorageCall τ}
    (h : (Service.remote τ).eventful request = true) (o : Outcome Json) :
    made (t ++ [(request, o)]) = made t + 1 := by
  rw [made, List.countP_append, List.countP_singleton, if_pos h]
  rfl

theorem IsForeign.of_concat {t : Transcript (StorageCall τ) Json}
    {request : StorageCall τ}
    {cause : Fault} (h : IsForeign (t ++ [(request, .error cause)])) :
    cause.isOwn = false :=
  h (request, .error cause)
    (List.mem_append_right t List.mem_cons_self) cause rfl

end Transcript

/-- The place where an operation with these stages stopped, by its calls and by
its fault. -/
inductive StopsAt (stages : List Stage) :
    Transcript (StorageCall τ) Json → Fault → String → Prop
  /-- It could not sign in. -/
  | connecting (account : Account) (cause fault : Fault) :
      StopsAt stages [(.connect account, .error cause)] fault "connect"
  /-- Its last call failed. -/
  | failing {said : Transcript (StorageCall τ) Json} {request : StorageCall τ}
      {stage : Stage}
      {fault : Fault} (cause : Fault) (hafter : fault.precedesCall = false)
      (heventful : (Service.remote τ).eventful request = true)
      (hstage : stages[said.made]? = some stage) :
      StopsAt stages (said ++ [(request, .error cause)]) fault stage.text
  /-- The next call was not to be made. -/
  | before {said : Transcript (StorageCall τ) Json} {stage : Stage}
      {fault : Fault} (hbefore : fault.precedesCall = true)
      (hstage : stages[said.made]? = some stage) :
      StopsAt stages said fault stage.text

/-- A fault of the program's own names the place where it stopped, unless it was
raised by somebody else. -/
def Stopped (stages : List Stage) (o : Outcome α)
    (said : Transcript (StorageCall τ) Json) : Prop :=
  said.IsForeign → ∀ fault, o = .error fault → fault.isOwn = true →
    ∃ place, StopsAt stages said fault place ∧
      place.toList <:+: fault.text.toList

/-! ## Faults -/

theorem stopped_ok (a : α) (said : Transcript (StorageCall τ) Json) :
    Stopped stages (.ok a) said := fun _ _ h => by cases h

/-- The program has nothing to say where the fault is not its own. -/
theorem stopped_of_not_isOwn {fault : Fault} (h : fault.isOwn = false)
    (said : Transcript (StorageCall τ) Json) :
    Stopped stages (.error fault : Outcome α) said := by
  intro _ fault' heq hown
  cases heq
  cases h.symm.trans hown

/-- What is reported of a stage begins with its name. -/
theorem Fault.names_reconcile (stage : String) (cause : Fault) :
    stage.toList <:+: (reconcile stage cause).text.toList := by
  refine List.IsPrefix.isInfix ⟨(": " ++ cause.text).toList, ?_⟩
  rw [← String.toList_append, ← String.append_assoc]
  rfl

theorem stopped_cancelled {said : Transcript (StorageCall τ) Json}
    (hstage : stages[said.made]? = some stage) :
    Stopped stages (.error (.cancelled stage.text) : Outcome α) said := by
  intro _ fault heq _
  cases heq
  refine ⟨stage.text, .before rfl hstage, List.IsSuffix.isInfix ?_⟩
  exact ⟨"reconcile cycle cancelled before ".toList, String.toList_append.symm⟩

theorem stopped_missingToken {said : Transcript (StorageCall τ) Json}
    (hstage : stages[said.made]? = some stage) (bucket : String) :
    Stopped stages (.error (atStage stage (Client.missingToken bucket)) :
      Outcome α) said := by
  intro _ fault heq _
  cases heq
  exact ⟨stage.text, .before rfl hstage, Fault.names_reconcile _ _⟩

/-- What is left of the failures of calls is never that a token is missing. -/
theorem precedesCall_reconcile_ofGroup (stage : String) (n : Nat)
    (message : String) :
    (Fault.reconcile stage (.client (.ofGroup n) message)).precedesCall =
      false := by
  unfold ClientFault.ofGroup
  split <;> rfl

/-- A failed call stops at its stage. -/
theorem stopped_failing {said : Transcript (StorageCall τ) Json}
    {request : StorageCall τ}
    {cause : Fault} {blame : Stage → Fault → Fault} {verb bucket : String}
    (hpassed : ∀ e : Fault, e.isOwn = false → blame stage e = e)
    (hreported : ∀ n message,
      (blame stage (.client (.ofGroup n) message)).precedesCall = false ∧
      stage.text.toList <:+:
      (blame stage (.client (.ofGroup n) message)).text.toList)
    (heventful : (Service.remote τ).eventful request = true)
    (hstage : stages[said.made]? = some stage) :
    Stopped stages
      (.error (blame stage (Client.reported verb bucket cause)) : Outcome α)
      (said ++ [(request, .error cause)]) := by
  intro hforeign fault heq hown
  cases heq
  have hcause := hforeign.of_concat
  cases hfailure : cause.isOfService with
  | false =>
      rw [Client.reported_of_other hfailure, hpassed cause hcause] at hown
      cases hcause.symm.trans hown
  | true =>
      rw [Client.reported_of_isOfService hfailure]
      obtain ⟨hafter, hnames⟩ := hreported cause.group _
      exact ⟨stage.text, .failing cause hafter heventful hstage, hnames⟩

theorem stopped_fetched {said : Transcript (StorageCall τ) Json}
    {request : StorageCall τ} {o : Outcome Json} {fault : Fault}
    (hfetched : fetched b stage o = .error fault)
    (heventful : (Service.remote τ).eventful request = true)
    (hstage : stages[said.made]? = some stage) :
    Stopped stages (.error fault : Outcome α) (said ++ [(request, o)]) := by
  cases o with
  | ok reply =>
      refine stopped_of_not_isOwn ?_ _
      cases hpolicy : Client.policyOf reply with
      | ok d =>
          rw [fetched, hpolicy] at hfetched
          cases hfetched
      | error cause =>
          rw [fetched, hpolicy] at hfetched
          cases hfetched
          rfl
  | error cause =>
      cases hfetched
      exact stopped_failing (fun e => atStage_of_isOwn)
        (fun n message =>
          ⟨precedesCall_reconcile_ofGroup _ n message,
            Fault.names_reconcile _ _⟩)
        heventful hstage

theorem stopped_replaced {said : Transcript (StorageCall τ) Json}
    {request : StorageCall τ}
    (o : Outcome Json) (heventful : (Service.remote τ).eventful request = true)
    (hstage : stages[said.made]? = some stage) :
    Stopped stages (replaced b stage o) (said ++ [(request, o)]) := by
  cases o with
  | ok reply =>
      rw [replaced]
      cases Client.policyOf reply with
      | ok d => exact stopped_ok () _
      | error cause => exact stopped_of_not_isOwn rfl _
  | error cause =>
      refine stopped_failing (fun e => atWrite_of_isOwn) (fun n message => ?_)
        heventful hstage
      rw [atWrite_client]
      split
      · exact ⟨rfl, Fault.names_reconcile stage.text _⟩
      · exact ⟨precedesCall_reconcile_ofGroup _ n message,
          Fault.names_reconcile _ _⟩

/-! ## Verbs -/

/-- What a program sees of the calendar is no fault of its own. -/
def Moment.IsForeign (m : Moment τ) : Prop :=
  ∀ fault, m.wall = .error fault → fault.isOwn = false

/-- The calendar fails with no fault of the program's own if the seconds do
not. -/
theorem Clock.isOwn_of_wall [Seconds τ]
    (hmicros : ∀ time : τ,
      ∀ fault, Seconds.micros time = .error fault → fault.isOwn = false)
    (c : Clock τ) (fault : Fault) (h : c.wall = .error fault) :
    fault.isOwn = false := by
  rw [Clock.wall] at h
  cases hm : Seconds.micros (Seconds.sub c.now c.origin) with
  | error cause =>
      rw [hm] at h
      cases h
      exact hmicros _ _ hm
  | ok micros =>
      rw [hm] at h
      change (if _ then _ else _) = _ at h
      split at h
      · cases h
        rfl
      · cases h

theorem meets_replace_stopped {d : Policy}
    {said : Transcript (StorageCall τ) Json}
    (hstage : stages[said.made]? = some stage) :
    Meets (unrestricted Moment.IsForeign)
      ((replace b d stage).lower client.serve) said (Stopped stages) :=
  meets_replace (fun _ _ _ => stopped_cancelled hstage)
    (fun _ => stopped_missingToken hstage _)
    (fun _ _ _ => stopped_of_not_isOwn rfl _) fun _ _ _ _ o =>
      stopped_replaced o rfl hstage

theorem meets_observe_stopped (hb : managed.binding = .ok b)
    {said : Transcript (StorageCall τ) Json}
    (hstage : stages[said.made]? = some .observeFetch) :
    Meets (unrestricted Moment.IsForeign)
      ((observe managed).lower client.serve) said (Stopped stages) := by
  refine meets_observe hb (fun _ _ _ => stopped_cancelled hstage)
    fun options reply => ?_
  show whenSeen _ b _ (fetched b .observeFetch reply) _
  cases hfetched : fetched b .observeFetch reply with
  | error fault =>
      rw [whenSeen]
      split
      · exact stopped_ok _ _
      · exact stopped_fetched hfetched rfl hstage
  | ok d =>
      rw [whenSeen]
      split
      · intro m hm
        cases hwall : m.wall with
        | error fault => exact stopped_of_not_isOwn (hm fault hwall) _
        | ok time => exact stopped_ok _ _
      · exact stopped_ok _ _

theorem meets_create_stopped (hb : managed.binding = .ok b)
    {said : Transcript (StorageCall τ) Json}
    (hfetch : stages[said.made]? = some .createFetch)
    (hwrite : stages[said.made + 1]? = some .createWrite) :
    Meets (unrestricted Moment.IsForeign)
      ((create managed).lower client.serve) said (Stopped stages) := by
  refine meets_create hb (fun _ _ _ => stopped_cancelled hfetch)
    fun options reply => ?_
  show whenToCreate _ _ b _ (fetched b .createFetch reply) _
  cases hfetched : fetched b .createFetch reply with
  | error fault => exact stopped_fetched hfetched rfl hfetch
  | ok d =>
      rw [whenToCreate]
      split
      · exact stopped_ok _ _
      · refine meets_replace_stopped ?_
        rwa [said.made_concat rfl]

theorem meets_delete_stopped (hb : managed.binding = .ok b)
    {said : Transcript (StorageCall τ) Json}
    (hfetch : stages[said.made]? = some .deleteFetch)
    (hwrite : stages[said.made + 1]? = some .deleteWrite) :
    Meets (unrestricted Moment.IsForeign)
      ((delete managed).lower client.serve) said (Stopped stages) := by
  refine meets_delete hb (fun _ _ _ => stopped_cancelled hfetch)
    fun options reply => ?_
  show whenToDelete _ _ b _ (fetched b .deleteFetch reply) _
  cases hfetched : fetched b .deleteFetch reply with
  | error fault =>
      rw [whenToDelete]
      split
      · exact stopped_ok _ _
      · exact stopped_fetched hfetched rfl hfetch
  | ok d =>
      rw [whenToDelete]
      split
      · refine meets_replace_stopped ?_
        rwa [said.made_concat rfl]
      · exact stopped_ok _ _

/-- A verb names one of its stages, wherever they stand among those of the whole
operation. -/
theorem Deed.meets_stopped (hb : managed.binding = .ok b) (deed : Deed)
    {said : Transcript (StorageCall τ) Json}
    (hstages : stages.drop said.made = deed.stages) :
    Meets (unrestricted Moment.IsForeign) (deed.program client managed) said
      (Stopped stages) := by
  have hstage (i : Nat) : stages[said.made + i]? = deed.stages[i]? := by
    rw [← hstages, List.getElem?_drop]
  cases deed with
  | observe => exact meets_observe_stopped hb (hstage 0)
  | delete => exact meets_delete_stopped hb (hstage 0) (hstage 1)
  | _ => exact meets_create_stopped hb (hstage 0) (hstage 1)

/-! ## Operations -/

/-- A fault is the same whatever would have been returned instead. -/
theorem Stopped.error {β : Type} {fault : Fault}
    {said : Transcript (StorageCall τ) Json}
    (h : Stopped stages (.error fault : Outcome α) said) :
    Stopped stages (.error fault : Outcome β) said := by
  intro hforeign fault' heq hown
  cases heq
  exact h hforeign fault rfl hown

/-- Who cannot sign in says so. -/
theorem stopped_atConnect (account : Account) (cause : Fault) :
    Stopped stages (.error (Connector.atConnect cause) : Outcome α)
      ([(.connect account, .error cause)] : Transcript (StorageCall τ)
        Json) := by
  intro hforeign fault heq hown
  cases heq
  have hcause : cause.isOwn = false := hforeign _ List.mem_cons_self cause rfl
  refine ⟨"connect", .connecting account cause _, ?_⟩
  cases cause with
  | foreign failure =>
      rw [Connector.atConnect] at hown ⊢
      split at hown
      · rename_i hauth
        rw [if_pos hauth]
        refine List.IsPrefix.isInfix
          ⟨(": cannot create storage client: " ++ failure.text).toList, ?_⟩
        rw [← String.toList_append, ← String.append_assoc]
        rfl
      · cases hown
  | _ => cases hown.symm.trans hcause

/-- What a cycle goes on with names the place where it stopped. -/
theorem Connector.meets_act_stopped (hb : managed.binding = .ok b)
    {found : Observation Bool}
    (hfound : found = .absent ∨ found = .inPlace)
    {said : Transcript (StorageCall τ) Json}
    (hstages : stages.drop said.made = (Operation.follower managed).stages) :
    Meets (unrestricted Moment.IsForeign) (act client managed found) said
      (Stopped stages) := by
  have hgoesOn (deed : Deed) (result : CycleResult Bool)
      (hdeed : Operation.follower managed = deed) :
      Meets (unrestricted Moment.IsForeign)
        ((deed.program client managed).bind fun _ => .done result) said
        (Stopped stages) := by
    rw [hdeed] at hstages
    refine meets_bind.mpr
      (meets_mono (fun o t h => ?_) (Deed.meets_stopped hb deed hstages))
    cases o with
    | error fault => exact h.error
    | ok a => exact stopped_ok result t
  obtain rfl | rfl := hfound
  · rw [act_absent]
    split
    · exact stopped_ok _ _
    · rename_i hstays
      exact hgoesOn .create _ (if_neg hstays)
  · rw [act_inPlace]
    split
    · rename_i hgoes
      exact hgoesOn .delete _ (if_pos hgoes)
    · exact stopped_ok _ _

/-- **Every operation names the place where it stopped.** -/
theorem Operation.meets_stopped (op : Operation τ)
    (hb : op.managed.binding = .ok b) :
    Meets (unrestricted Moment.IsForeign) op.program []
      (Stopped op.stages) := by
  cases op with
  | verb client deed managed => exact Deed.meets_stopped hb deed rfl
  | visit c deed managed =>
      refine meets_bind.mpr (Connector.meets_connect hb fun o => ?_)
      cases o with
      | error cause => exact stopped_atConnect c.account cause
      | ok reply => exact Deed.meets_stopped hb deed rfl
  | cycle c managed =>
      refine Connector.meets_reconcile hb fun o => ?_
      cases o with
      | error cause => exact stopped_atConnect c.account cause
      | ok reply =>
          have hobserve : Meets (unrestricted Moment.IsForeign)
              ((observe managed).lower (Client.mk c.callTimeout).serve)
              [(.connect c.account, .ok reply)]
              (Stopped (Operation.cycle c managed).stages) :=
            meets_observe_stopped hb rfl
          refine meets_mono (fun o t h => ?_)
            (meets_and (meets_observe_accounted hb _) hobserve)
          obtain ⟨hlooked, hstopped⟩ := h
          cases o with
          | error fault => exact hstopped.error
          | ok found =>
              obtain ⟨hfound, options, first, rfl⟩ := hlooked
              exact Connector.meets_act_stopped hb hfound rfl

/-- A look makes one get or none. -/
theorem meets_observe_reads (hb : managed.binding = .ok b)
    {seen : Moment τ → Prop} (said : Transcript (StorageCall τ) Json) :
    Meets (unrestricted seen) ((observe managed).lower client.serve) said
      fun _ t =>
      t = said ∨ ∃ options reply,
        t = said ++
          [(.get b.resource Client.policyVersion options, reply)] := by
  refine meets_observe hb (fun _ _ _ => Or.inl rfl) fun options reply => ?_
  show whenSeen _ b _ (fetched b .observeFetch reply) _
  cases fetched b .observeFetch reply with
  | error fault =>
      rw [whenSeen]
      split <;> exact Or.inr ⟨options, reply, rfl⟩
  | ok d =>
      rw [whenSeen]
      split
      · exact fun m _ => Or.inr ⟨options, reply, rfl⟩
      · exact Or.inr ⟨options, reply, rfl⟩

/-- Who only looks never sets. -/
theorem Connector.meets_observe_reads (hb : managed.binding = .ok b)
    {seen : Moment τ → Prop} (c : Connector τ) :
    Meets (unrestricted seen) (c.observe managed) [] fun _ t =>
      ∀ e ∈ t, StorageCall.isSet e.1 = false := by
  refine meets_bind.mpr (Connector.meets_connect hb fun o => ?_)
  have hconnect :
      ∀ e ∈ ([(.connect c.account, o)] : Transcript (StorageCall τ) Json),
      e.1.isSet = false := List.forall_mem_singleton.mpr rfl
  cases o with
  | error cause => exact hconnect
  | ok reply =>
      refine meets_mono (fun o t h => ?_) (GrantKeeper.meets_observe_reads hb _)
      rcases h with rfl | ⟨options, reply, rfl⟩
      · exact hconnect
      · exact List.forall_mem_append.mpr
          ⟨hconnect, List.forall_mem_singleton.mpr rfl⟩

/-! ## Runs -/

/-- The faults of the store are not the program's own. -/
theorem Store.isOwn_of_set {s : Store} {bucket : String} {payload : Json}
    {fault : Fault}
    (h : (s.set bucket payload).1 = .error fault) : fault.isOwn = false := by
  rw [set_eq] at h
  split at h
  · cases h
    rfl
  · split at h
    · cases h
    · cases h
      rfl
  · cases h
    rfl

@[inherit_doc Store.isOwn_of_set]
theorem Store.isOwn_of_get {s : Store} {bucket : String} {fault : Fault}
    (h : s.get bucket = .error fault) : fault.isOwn = false := by
  rw [get_eq] at h
  split at h
  · cases h
  · cases h
    rfl

namespace World

/-- Whatever is raised in place of an answer is not the program's own. -/
structure IsForeign (w : World τ (StorageCall τ) Json Service) : Prop where
  reply : ∀ h ∈ w.happenings, ∀ reply, h.reply? = some reply →
    ∀ request fault, reply request = .error fault → fault.isOwn = false
  refusal : ∀ fault, w.server.refusal? = some fault → fault.isOwn = false

variable [Seconds τ] {w : World τ (StorageCall τ) Json Service}

theorem IsForeign.asked (h : w.IsForeign) (request : StorageCall τ) :
    (w.asked (Service.remote τ) request).IsForeign where
  reply := by
    rw [asked_happenings]
    exact fun g hg => h.reply g (List.mem_of_mem_tail hg)
  refusal := by
    rw [asked_server, Service.refusal?_edited]
    exact h.refusal

theorem IsForeign.served (h : w.IsForeign) (request : StorageCall τ) :
    (∀ fault, (w.served (Service.remote τ) request).1 = .error fault →
      fault.isOwn = false) ∧
      (w.served (Service.remote τ) request).2.IsForeign := by
  have hasked := h.asked request
  have hraised (reply : StorageCall τ → Outcome Json)
      (hreply : w.upcoming.reply? = some reply) :
      ∀ fault, reply request = .error fault → fault.isOwn = false :=
    h.reply _ (upcoming_mem hreply) reply hreply request
  cases request with
  | connect account =>
      rw [served_uneventful rfl]
      cases hrefusal : w.server.refusal? with
      | some fault =>
          simp only [Service.remote, hrefusal]
          exact ⟨fun fault' heq => Except.error.inj heq ▸
            h.refusal fault hrefusal, h.reply, h.refusal⟩
      | none =>
          rw [Service.answer_connect hrefusal]
          exact ⟨fun fault heq => (by cases heq), h.reply, h.refusal⟩
  | get bucket version options =>
      rw [served_eventful rfl]
      cases hreply : w.upcoming.reply? with
      | some reply => exact ⟨hraised reply hreply, hasked⟩
      | none =>
          exact ⟨fun fault => Store.isOwn_of_get, hasked.reply, hasked.refusal⟩
  | set bucket payload options =>
      rw [served_eventful rfl]
      cases hreply : w.upcoming.reply? with
      | some reply => exact ⟨hraised reply hreply, hasked⟩
      | none =>
          exact ⟨fun fault => Store.isOwn_of_set, hasked.reply, hasked.refusal⟩

end World

/-- **An operation in a world that raises nothing of the program's own names the
place where it stopped**, if it ends with a fault of the program's own. -/
theorem Operation.exists_stopsAt [Seconds τ]
    (hcalendar : ∀ c : Clock τ,
      ∀ fault, c.wall = .error fault → fault.isOwn = false)
    {op : Operation τ} (hb : op.managed.binding = .ok b)
    {w : World τ (StorageCall τ) Json Service}
    (hw : w.IsForeign) {fault : Fault} (hfails : (op.run w).1 = .error fault)
    (hown : fault.isOwn = true) :
    ∃ place, StopsAt op.stages (w.transcript (Service.remote τ) op.program)
      fault place ∧ place.toList <:+: fault.text.toList := by
  have hforeign : (w.transcript (Service.remote τ) op.program).IsForeign :=
    World.forall_transcript (fun _ h => ⟨h.reply, h.refusal⟩)
      (fun _ h => ⟨h.reply, h.refusal⟩)
      (fun request h => h.served request) hw op.program
  exact Program.meets_transcript (Service.remote τ) Moment.IsForeign
    (fun v => hcalendar v.clock)
    (op.meets_stopped hb) w hforeign fault hfails hown

end GrantKeeper
