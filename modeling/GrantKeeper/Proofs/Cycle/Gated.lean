import GrantKeeper.Proofs.Cycle.Operations
import GrantKeeper.Proofs.Storage.World

/-!
# Gates before calls

Every get and every set of an operation stands behind a gate: a look at the
moment that ends the operation if its cycle is over, with the stage of the call
that was not made.  What comes between a gate and its call only writes to the
log.  `Gated` says so of a program, one constructor for each kind of action,
along with the stages that are still to come.

## Main results

* `Membership.gated_fetch`, `Membership.gated_replace` — the two calls with
  their gates.
* `Operation.gated_program` — every operation is gated by its stages.
-/

namespace GrantKeeper

/-- The stage is about a set. -/
def Stage.isWrite : Stage → Bool
  | .createWrite => true
  | .deleteWrite => true
  | _ => false

/-- How long a get or a set may take. -/
def StorageCall.timeout? {τ : Type} : StorageCall τ → Option (Timeout τ)
  | .connect _ => none
  | .get _ _ options => some options.timeout
  | .set _ _ options => some options.timeout

/-- A program in which every get and set stands behind a gate, one for each of
the stages at most and in their order.  If a gate was just passed, `seen` is
what was seen there. -/
inductive Gated {τ α : Type} (standard : τ) :
    (seen : Option (Moment τ)) → List Stage → StorageProgram τ α → Prop where
  | done {seen stages} (a : α) : Gated standard seen stages (.done a)
  | fail {seen stages} (fault : Fault) :
      Gated standard seen stages (.fail fault)
  | log {seen stages next} (entry : Entry)
      (h : Gated standard seen stages next) :
      Gated standard seen stages (.log entry next)
  | note {seen stages next} (condition : Condition)
      (h : Gated standard seen stages next) :
      Gated standard seen stages (.note condition next)
  /-- A look at the calendar. -/
  | calendar {seen stages next}
      (hwall : ∀ m m' : Moment τ, m.wall = m'.wall → next m = next m')
      (h : ∀ m, Gated standard seen stages (next m)) : Gated standard seen
      stages (.look next)
  /-- To sign in takes no gate. -/
  | connect {seen stages next} (account : Account)
      (h : ∀ o, Gated standard none stages (next o)) :
      Gated standard seen stages (.call (.connect account) next)
  | gate {seen stage stages next}
      (hover : ∀ m : Moment τ,
        m.isOver = true → next m = .fail (.cancelled stage.text))
      (h : ∀ m : Moment τ,
        m.isOver = false → Gated standard (some m) (stage :: stages) (next m)) :
      Gated standard seen (stage :: stages) (.look next)
  | call {m : Moment τ} {stage stages next} {request : StorageCall τ}
      (hopen : m.isOver = false) (hkind : request.isSet = stage.isWrite)
      (htimeout : request.timeout? =
        some (.seconds (m.remaining?.getD standard)))
      (h : ∀ o, Gated standard none stages (next o)) :
      Gated standard (some m) (stage :: stages) (.call request next)

namespace Gated

variable {τ α β : Type} {standard : τ} {seen : Option (Moment τ)}
  {stages : List Stage}

/-- A step that needs nothing from outside. -/
theorem ofOutcome_bind {o : Outcome α} {f : α → StorageProgram τ β}
    (h : ∀ a, o = .ok a → Gated standard seen stages (f a)) :
    Gated standard seen stages ((Program.ofOutcome o).bind f) := by
  cases o with
  | error fault => exact .fail fault
  | ok a => exact h a rfl

end Gated

open Program

variable {τ α : Type} {client : Client τ} {managed : Managed} {b : Binding}
  {seen : Option (Moment τ)} {stages : List Stage}

theorem Client.timeout_options (client : Client τ) (remaining? : Option τ) :
    (client.options (remaining?.map .seconds)).timeout =
      .seconds (remaining?.getD client.standardTimeout) := by
  cases remaining? <;> rfl

namespace Membership

/-! ## Calls -/

/-- A fetch is a gate and a get. -/
theorem gated_fetch {stage : Stage} (hkind : stage.isWrite = false)
    {f : Outcome Policy → StorageProgram τ α}
    (hcancelled : f (.error (.cancelled stage.text)) =
      .fail (.cancelled stage.text))
    (h : ∀ o,
      Gated client.standardTimeout none stages (f (fetched b stage o))) :
    Gated client.standardTimeout seen (stage :: stages)
      (((fetch b stage).lower client.serve).attempt f) := by
  rw [fetch_lower_attempt]
  refine .gate (fun m hover => ?_) fun m hopen => ?_
  · rw [if_pos hover, hcancelled]
  · rw [if_neg (Bool.eq_false_iff.mp hopen)]
    refine .log _ (.call hopen hkind.symm ?_ h)
    exact congrArg some (client.timeout_options m.remaining?)

/-- A replacement is a gate and a set, if it gets as far. -/
theorem gated_replace {d : Policy} {stage : Stage}
    (hkind : stage.isWrite = true)
    {k : Unit → StorageProgram τ α}
    (hk : ∀ stages, Gated client.standardTimeout none stages (k ())) :
    Gated client.standardTimeout seen (stage :: stages)
      (((replace b d stage).lower client.serve).bind k) := by
  have hrecorded (o : Outcome Policy) :
      Gated client.standardTimeout none stages
        ((recorded b stage o).bind k) := by
    unfold recorded
    split
    · exact .log _ (hk stages)
    · exact .log _ (.fail _)
    · exact .fail _
  have hreply (o : Outcome Json) :
      Gated client.standardTimeout none stages
        ((recordedReply b stage o).bind k) := by
    cases o <;> exact hrecorded _
  rw [replace_lower]
  refine .gate (fun m hover => ?_) fun m hopen => ?_
  · show Program.bind (if m.isOver then _ else _) k = _
    rw [if_pos hover]
    rfl
  · show Gated _ _ _ (Program.bind (if m.isOver then _ else _) k)
    rw [if_neg (Bool.eq_false_iff.mp hopen)]
    split
    · split
      · refine .call hopen hkind.symm ?_ hreply
        exact congrArg some (client.timeout_options m.remaining?)
      · exact .fail _
    · exact .fail _

/-! ## Verbs -/

/-- An observation is a fetch; what follows it may have gates of its own. -/
theorem gated_observe (hb : managed.binding = .ok b)
    {k : Observation Bool → StorageProgram τ α}
    (hk : ∀ found, Gated client.standardTimeout none stages (k found)) :
    Gated client.standardTimeout seen (.observeFetch :: stages)
      (((observe managed).lower client.serve).bind k) := by
  rw [observe_lower hb, attempt_bind]
  refine gated_fetch rfl rfl fun o => ?_
  cases fetched b .observeFetch o with
  | error fault =>
      show Gated _ _ _ (Program.bind (if isNotFound fault then _ else _) k)
      split
      · exact .log _ (hk _)
      · exact .fail fault
  | ok d =>
      show Gated _ _ _
        (Program.bind (if d.holds b.role b.member then _ else _) k)
      split
      · refine .calendar (fun m m' hwall => ?_) fun m => ?_
        · show Program.bind (Program.bind (ofOutcome m.wall) _) k = _
          rw [hwall]
        · rw [bind_bind]
          exact .ofOutcome_bind fun time _ => .note _ (hk _)
      · exact hk _

/-- A creation is a fetch and perhaps a replacement. -/
theorem gated_create (hb : managed.binding = .ok b)
    {k : Unit → StorageProgram τ α}
    (hk : ∀ stages, Gated client.standardTimeout none stages (k ())) :
    Gated client.standardTimeout seen [.createFetch, .createWrite]
      (((create managed).lower client.serve).bind k) := by
  rw [create_lower hb, attempt_bind]
  refine gated_fetch rfl rfl fun o => ?_
  cases fetched b .createFetch o with
  | error fault => exact .fail fault
  | ok d =>
      show Gated _ _ _
        (Program.bind (if d.holds b.role b.member then _ else _) k)
      split
      · exact .log _ (hk _)
      · exact gated_replace rfl hk

/-- A deletion is a fetch and perhaps a replacement. -/
theorem gated_delete (hb : managed.binding = .ok b)
    {k : Unit → StorageProgram τ α}
    (hk : ∀ stages, Gated client.standardTimeout none stages (k ())) :
    Gated client.standardTimeout seen [.deleteFetch, .deleteWrite]
      (((delete managed).lower client.serve).bind k) := by
  rw [delete_lower hb, attempt_bind]
  refine gated_fetch rfl rfl fun o => ?_
  cases fetched b .deleteFetch o with
  | error fault =>
      show Gated _ _ _ (Program.bind (if isNotFound fault then _ else _) k)
      split
      · exact .log _ (hk _)
      · exact .fail fault
  | ok d =>
      show Gated _ _ _
        (Program.bind (if d.holds b.role b.member then _ else _) k)
      split
      · exact gated_replace rfl hk
      · exact .log _ (hk _)

end Membership

/-! ## Operations -/

/-- A verb is gated by its stages, whatever is done with its result. -/
theorem Deed.gated_program (hb : managed.binding = .ok b) (deed : Deed)
    {k : deed.Result → StorageProgram τ α}
    (hk : ∀ a stages, Gated client.standardTimeout none stages (k a)) :
    Gated client.standardTimeout seen deed.stages
      ((deed.program client managed).bind k) := by
  cases deed with
  | observe => exact Membership.gated_observe hb fun found => hk found _
  | create => exact Membership.gated_create hb (hk ())
  | update => exact Membership.gated_create hb (hk ())
  | delete => exact Membership.gated_delete hb (hk ())

theorem Connector.gated_connect (hb : managed.binding = .ok b) (c : Connector τ)
    {k : Client τ → StorageProgram τ α}
    (hk : Gated c.callTimeout none stages (k ⟨c.callTimeout⟩)) :
    Gated c.callTimeout seen stages ((c.connect managed).bind k) := by
  rw [connect_eq hb]
  refine .connect _ fun o => ?_
  cases o with
  | error fault => exact .fail _
  | ok reply => exact hk

/-- What a cycle does after it observed is gated by the stages of one verb. -/
theorem Connector.gated_act (hb : managed.binding = .ok b) (client : Client τ)
    (found : Observation Bool) : Gated client.standardTimeout seen
      (Operation.follower managed).stages (act client managed found) := by
  have hdone {β : Type} (result : β → CycleResult Bool) (a : β)
      (stages : List Stage) :
      Gated client.standardTimeout none stages
        (.done (result a) : StorageProgram τ _) := .done _
  unfold act Operation.follower
  split
  · split
    · exact Deed.gated_program hb .delete (hdone fun _ => ⟨.deleted, found⟩)
    · exact .done _
  · split
    · exact Deed.gated_program hb .create (hdone fun _ => ⟨.created, found⟩)
    · split
      · exact Deed.gated_program hb .update (hdone fun _ => ⟨.updated, found⟩)
      · exact .done _

/-- **Every operation is gated by its stages.** -/
theorem Operation.gated_program (op : Operation τ) :
    Gated op.callTimeout none op.stages op.program := by
  have hverb (client : Client τ) {managed : Managed} {b : Binding}
      (hb : managed.binding = .ok b)
      (deed : Deed) : Gated client.standardTimeout none deed.stages
      (deed.program client managed) := by
    rw [← bind_done (deed.program client managed)]
    exact Deed.gated_program hb deed fun a stages => .done a
  cases hb : op.managed.binding with
  | error fault =>
      rw [program_of_error hb]
      exact .fail fault
  | ok b =>
      cases op with
      | verb client deed managed => exact hverb client hb deed
      | visit c deed managed =>
          exact Connector.gated_connect hb c (hverb ⟨c.callTimeout⟩ hb deed)
      | cycle c managed =>
          rw [program, Connector.reconcile_eq]
          exact Connector.gated_connect hb c
            (Membership.gated_observe hb
              (Connector.gated_act hb ⟨c.callTimeout⟩))

end GrantKeeper
