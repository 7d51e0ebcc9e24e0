import GrantKeeper.Proofs.Storage.Stopped

/-!
# Programs that write down what they did

A program is audited if what it writes to the log tells what became of its sets:
after the reply to a set that was accepted comes an entry that says so, before
anything else can happen; a conflict is written down right before the program
fails with it; and all other entries are for debugging.  The rules follow the
actions of a program, so that the verbs are audited part by part, each at the
one stage at which it writes.

## Main results

* `Program.IsAudited.bind` — programs put together.
* `Membership.isAudited_replace` — the one place where something is owed to the
  log.
* `Operation.isAudited_program` — every operation is audited.
-/

namespace GrantKeeper

open Program GrantKeeper.Membership

/-! ## Faults -/

/-- The fault says that another writer changed the policy. -/
def Fault.isConflict : Fault → Bool
  | .writeConflict .. => true
  | _ => false

/-- A conflict is one of the faults of the program's own. -/
theorem Fault.isConflict_of_isOwn {fault : Fault} (h : fault.isOwn = false) :
    fault.isConflict = false := by
  cases fault with
  | writeConflict stage cause => cases h
  | _ => rfl

/-- Only a program says that there was a conflict, the client does not. -/
theorem Client.isConflict_reported (verb bucket : String) (fault : Fault) :
    (reported verb bucket fault).isConflict = fault.isConflict := by
  cases fault with
  | foreign failure =>
      rw [reported]
      split <;> rfl
  | _ => rfl

theorem Membership.isConflict_atStage (stage : Stage) (fault : Fault) :
    (atStage stage fault).isConflict = fault.isConflict := by
  cases fault <;> rfl

theorem Connector.isConflict_atConnect (fault : Fault) :
    (atConnect fault).isConflict = fault.isConflict := by
  cases fault with
  | foreign failure =>
      rw [atConnect]
      split <;> rfl
  | _ => rfl

variable {τ α β : Type} {b : Binding} {stage : Stage} {managed : Managed}
  {client : Client τ}

/-! ## Audited programs -/

/-- What the program writes to the log tells what became of its sets, all of
which go to the resource of the binding.  An entry may be owed for a set that
was accepted. -/
def Program.IsAudited (b : Binding) (stage : Stage) (owed : Bool) :
    StorageProgram τ α → Prop
  | .done _ => owed = false
  | .fail fault => owed = false ∧ fault.isConflict = false
  | .look next => ∀ m : Moment τ, m.IsForeign → IsAudited b stage owed (next m)
  | .note _ next => IsAudited b stage owed next
  | .log entry next =>
      match entry.event.severity with
      | .debug => IsAudited b stage owed next
      | .info =>
          owed = true ∧ entry = ⟨.updated, b, stage⟩ ∧
            IsAudited b stage false next
      | .warning => owed = false ∧ entry = ⟨.changedConcurrently, b, stage⟩ ∧
          ∃ cause, next = .fail (.writeConflict stage.text cause)
  | .call request next => owed = false ∧
      (∀ bucket payload options,
        request = .set bucket payload options → bucket = b.resource) ∧
      (∀ fault : Fault,
        fault.isOwn = false → IsAudited b stage false (next (.error fault))) ∧
      ∀ reply, (request.isSet = true → ∃ d, Client.policyOf reply = .ok d) →
        IsAudited b stage request.isSet (next (.ok reply))

namespace Program

theorem IsAudited.bind {owed : Bool} {p : StorageProgram τ α}
    (hp : IsAudited b stage owed p)
    {f : α → StorageProgram τ β} (hf : ∀ a, IsAudited b stage false (f a)) :
    IsAudited b stage owed (p.bind f) := by
  induction p generalizing owed with
  | done a =>
      obtain rfl : owed = false := hp
      exact hf a
  | fail fault => exact hp
  | look next ih => exact fun m hm => ih m (hp m hm)
  | note condition next ih => exact ih hp
  | log entry next ih =>
      rw [Program.bind]
      unfold IsAudited at hp ⊢
      split at hp
      · exact ih hp
      · exact ⟨hp.1, hp.2.1, ih hp.2.2⟩
      · obtain ⟨howed, hentry, cause, rfl⟩ := hp
        exact ⟨howed, hentry, cause, rfl⟩
  | call request next ih =>
      obtain ⟨howed, hbucket, hfault, hreply⟩ := hp
      exact ⟨howed, hbucket, fun fault h => ih _ (hfault fault h),
        fun reply h => ih _ (hreply reply h)⟩

theorem isAudited_ofOutcome {o : Outcome α}
    (h : ∀ fault, o = .error fault → fault.isConflict = false) :
    IsAudited b stage false (ofOutcome o : StorageProgram τ α) := by
  cases o with
  | ok a => rfl
  | error fault => exact ⟨rfl, h fault rfl⟩

end Program

/-! ## Verbs -/

/-- A value without its shape is no conflict. -/
theorem Outcome.isConflict_of_ofShape {x : Except Malformed α} {fault : Fault}
    (h : Outcome.ofShape x = .error fault) : fault.isConflict = false := by
  cases x with
  | ok a => cases h
  | error cause =>
      cases h
      rfl

namespace Membership

/-- What is made of a get is no conflict, unless the get failed with one. -/
theorem isConflict_of_fetched {o : Outcome Json}
    (ho : ∀ cause, o = .error cause → cause.isOwn = false)
    {fault : Fault} (h : fetched b stage o = .error fault) :
    fault.isConflict = false := by
  cases o with
  | ok reply => exact Outcome.isConflict_of_ofShape h
  | error cause =>
      cases h
      rw [isConflict_atStage, Client.isConflict_reported]
      exact Fault.isConflict_of_isOwn (ho cause rfl)

/-- A fetch is audited if what follows it is. -/
theorem isAudited_fetch_attempt {fetching : Stage}
    {f : Outcome Policy → StorageProgram τ α}
    (hf : ∀ o, (∀ fault, o = .error fault → fault.isConflict = false) →
      IsAudited b stage false (f o)) :
    IsAudited b stage false
      (((fetch b fetching).lower client.serve).attempt f) := by
  rw [fetch_lower_attempt]
  intro m hm
  show IsAudited b stage false (if m.isOver then _ else _)
  split
  · refine hf _ fun fault h => ?_
    cases h
    rfl
  · refine ⟨rfl, fun _ _ _ h => (by cases h),
      fun cause hcause => hf _ fun fault h => ?_, fun reply _ =>
        hf _ fun fault h => isConflict_of_fetched (fun _ h => (by cases h)) h⟩
    exact isConflict_of_fetched (fun _ h => Except.error.inj h ▸ hcause) h

/-- What failed on the side of the service is written down if it was a
conflict. -/
theorem isAudited_recorded_error (b : Binding) (stage : Stage) {fault : Fault}
    (h : fault.isConflict = false) :
    IsAudited b stage false
      (recorded b stage (.error fault) : StorageProgram τ Unit) := by
  unfold recorded
  split
  · rename_i hok
    cases hok
  · exact ⟨rfl, rfl, _, rfl⟩
  · rename_i fault' _ herror
    cases herror
    exact ⟨rfl, (isConflict_atStage stage fault).trans h⟩

/-- **A replacement is audited**: it writes down that its set was accepted. -/
theorem isAudited_replace (b : Binding) (d : Policy) (stage : Stage) :
    IsAudited b stage false ((replace b d stage).lower client.serve) := by
  rw [replace_lower]
  intro m hm
  show IsAudited b stage false (if m.isOver then _ else _)
  split
  · exact ⟨rfl, rfl⟩
  · split
    · split
      · refine ⟨rfl, fun bucket payload options h => (by cases h; rfl),
          fun cause hcause => ?_, fun reply hreply => ?_⟩
        · refine isAudited_recorded_error b stage ?_
          rw [Client.isConflict_reported]
          exact Fault.isConflict_of_isOwn hcause
        · obtain ⟨back, hback⟩ := hreply rfl
          rw [recordedReply, hback]
          exact ⟨rfl, rfl, rfl⟩
      · exact ⟨rfl, rfl⟩
    · exact ⟨rfl, rfl⟩

theorem isAudited_observe (hb : managed.binding = .ok b) (stage : Stage) :
    IsAudited b stage false ((observe managed).lower client.serve) := by
  rw [observe_lower hb]
  refine isAudited_fetch_attempt fun o ho => ?_
  cases o with
  | error fault =>
      show IsAudited b stage false (if isNotFound fault then _ else _)
      split
      · exact rfl
      · exact ⟨rfl, ho fault rfl⟩
  | ok d =>
      show IsAudited b stage false (if d.holds b.role b.member then _ else _)
      split
      · intro m hm
        refine (isAudited_ofOutcome fun fault h => ?_).bind fun time => rfl
        exact Fault.isConflict_of_isOwn (hm fault h)
      · exact rfl

theorem isAudited_create (hb : managed.binding = .ok b) :
    IsAudited b .createWrite false ((create managed).lower client.serve) := by
  rw [create_lower hb]
  refine isAudited_fetch_attempt fun o ho => ?_
  cases o with
  | error fault => exact ⟨rfl, ho fault rfl⟩
  | ok d =>
      show IsAudited b .createWrite false
        (if d.holds b.role b.member then _ else _)
      split
      · exact rfl
      · exact isAudited_replace b _ .createWrite

theorem isAudited_delete (hb : managed.binding = .ok b) :
    IsAudited b .deleteWrite false ((delete managed).lower client.serve) := by
  rw [delete_lower hb]
  refine isAudited_fetch_attempt fun o ho => ?_
  cases o with
  | error fault =>
      show IsAudited b .deleteWrite false (if isNotFound fault then _ else _)
      split
      · exact rfl
      · exact ⟨rfl, ho fault rfl⟩
  | ok d =>
      show IsAudited b .deleteWrite false
        (if d.holds b.role b.member then _ else _)
      split
      · exact isAudited_replace b _ .deleteWrite
      · exact rfl

end Membership

/-! ## Operations -/

/-- The stage at which a verb writes, if it writes. -/
def Deed.writeStage : Deed → Stage
  | .delete => .deleteWrite
  | _ => .createWrite

/-- The stage at which an operation writes, if it writes. -/
def Operation.writeStage : Operation τ → Stage
  | .verb _ deed _ => deed.writeStage
  | .visit _ deed _ => deed.writeStage
  | .cycle _ managed => (follower managed).writeStage

theorem Deed.isAudited_program (hb : managed.binding = .ok b) (deed : Deed) :
    IsAudited b deed.writeStage false (deed.program client managed) := by
  cases deed with
  | observe => exact isAudited_observe hb _
  | create => exact isAudited_create hb
  | update => exact isAudited_create hb
  | delete => exact isAudited_delete hb

theorem Connector.isAudited_connect (hb : managed.binding = .ok b)
    (c : Connector τ) (stage : Stage) :
    IsAudited b stage false (c.connect managed) := by
  rw [connect_eq hb]
  refine ⟨rfl, fun _ _ _ h => (by cases h), fun cause hcause => ⟨rfl, ?_⟩,
    fun reply _ => rfl⟩
  rw [isConflict_atConnect]
  exact Fault.isConflict_of_isOwn hcause

/-- A cycle writes at the stage of the one verb that it may go on with. -/
theorem Connector.isAudited_act (hb : managed.binding = .ok b)
    (found : Observation Bool) :
    IsAudited b (Operation.follower managed).writeStage false
      (act client managed found) := by
  have hcreate : IsAudited b .createWrite false
      (external client managed).create := isAudited_create hb
  have hdelete : IsAudited b .deleteWrite false
      (external client managed).delete := isAudited_delete hb
  unfold act
  split
  · rename_i hremoval
    rw [Operation.follower, if_pos hremoval]
    split
    · exact hdelete.bind fun _ => rfl
    · exact rfl
  · rename_i hremoval
    rw [Operation.follower, if_neg hremoval]
    split
    · exact hcreate.bind fun _ => rfl
    · split
      · exact hcreate.bind fun _ => rfl
      · exact rfl

/-- **Every operation is audited.** -/
theorem Operation.isAudited_program (op : Operation τ)
    (hb : op.managed.binding = .ok b) :
    IsAudited b op.writeStage false op.program := by
  cases op with
  | verb client deed managed => exact deed.isAudited_program hb
  | visit c deed managed =>
      exact (c.isAudited_connect hb _).bind fun client =>
        deed.isAudited_program hb
  | cycle c managed =>
      show IsAudited b _ false (c.reconcile managed)
      rw [Connector.reconcile_eq]
      exact (c.isAudited_connect hb _).bind fun client =>
        (isAudited_observe hb _).bind fun found =>
          Connector.isAudited_act hb found

end GrantKeeper
