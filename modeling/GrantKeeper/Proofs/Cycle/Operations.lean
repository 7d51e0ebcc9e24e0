import GrantKeeper.Proofs.Cycle.Served
import GrantKeeper.Storage.World

/-!
# Operations

What is done with a membership is one of three things: a verb through a client
that is there, a verb through a client of its own, and a whole cycle.  An
operation names the stages that it can come to, in the order in which it comes
to them, and operations can be run one after the other in one world.  Of a
resource, an operation takes the binding that it declares; a cycle takes also
whether it is to be removed.

Main definitions:

* `Deed`, `Operation`: the verbs, and all that can be run;
* `Operation.stages`: the places where an operation can stop;
* `World.turns`: the operations of a run, each with the world in which it
  starts.

Main results:

* `Deed.program_congr`, `Connector.reconcile_congr`: what a verb and a cycle
  take from a resource.
-/

namespace GrantKeeper

/-- The verbs. -/
inductive Deed where
  | observe
  | create
  | update
  | delete
deriving DecidableEq, Repr

namespace Deed

variable {τ : Type}

/-- What a verb ends with. -/
abbrev Result : Deed → Type
  | .observe => Observation Bool
  | .create => Unit
  | .update => Unit
  | .delete => Unit

/-- The verb on a resource through a client. -/
def program (client : Client τ) (managed : Managed) :
    (deed : Deed) → StorageProgram τ deed.Result
  | .observe => (Connector.external client managed).observe
  | .create => (Connector.external client managed).create
  | .update => (Connector.external client managed).update
  | .delete => (Connector.external client managed).delete

/-- The stages of a verb: to update is to create. -/
def stages : Deed → List Stage
  | .observe => [.observeFetch]
  | .create => [.createFetch, .createWrite]
  | .update => [.createFetch, .createWrite]
  | .delete => [.deleteFetch, .deleteWrite]

end Deed

/-- What can be run. -/
inductive Operation (τ : Type) where
  /-- A verb through a client that is there. -/
  | verb (client : Client τ) (deed : Deed) (managed : Managed)
  /-- A verb through a client of its own. -/
  | visit (connector : Connector τ) (deed : Deed) (managed : Managed)
  /-- A cycle. -/
  | cycle (connector : Connector τ) (managed : Managed)

namespace Operation

variable {τ : Type}

/-- What an operation ends with. -/
abbrev Result : Operation τ → Type
  | .verb _ deed _ => deed.Result
  | .visit _ deed _ => deed.Result
  | .cycle _ _ => CycleResult Bool

/-- The program of an operation. -/
def program : (op : Operation τ) → StorageProgram τ op.Result
  | .verb client deed managed => deed.program client managed
  | .visit connector deed managed =>
      (connector.connect managed).bind fun client => deed.program client managed
  | .cycle connector managed => connector.reconcile managed

/-- The resource that an operation works on. -/
def managed : Operation τ → Managed
  | .verb _ _ managed => managed
  | .visit _ _ managed => managed
  | .cycle _ managed => managed

/-- The operation has to make a client first. -/
def signsIn : Operation τ → Bool
  | .verb .. => false
  | .visit .. => true
  | .cycle .. => true

/-- How long a call may take when nobody says so. -/
def callTimeout : Operation τ → τ
  | .verb client _ _ => client.standardTimeout
  | .visit connector _ _ => connector.callTimeout
  | .cycle connector _ => connector.callTimeout

/-- The verb that a cycle may go on with. -/
def follower (managed : Managed) : Deed :=
  if managed.wantsRemoval then .delete else .create

/-- The stages of an operation, one for every get and set that it can make. -/
def stages : Operation τ → List Stage
  | .verb _ deed _ => deed.stages
  | .visit _ deed _ => deed.stages
  | .cycle _ managed => .observeFetch :: (follower managed).stages

/-- An operation on a value that is no membership fails at once. -/
theorem program_of_error {op : Operation τ} {fault : Fault}
    (h : op.managed.binding = .error fault) : op.program = .fail fault := by
  have hverb (client : Client τ) (deed : Deed) {managed : Managed}
      (hb : managed.binding = .error fault) :
      deed.program client managed = .fail fault := by
    cases deed with
    | observe =>
        show (Membership.observe managed).lower client.serve = _
        rw [Membership.observe, hb]
        rfl
    | delete =>
        show (Membership.delete managed).lower client.serve = _
        rw [Membership.delete, hb]
        rfl
    | _ =>
        show (Membership.create managed).lower client.serve = _
        rw [Membership.create, hb]
        rfl
  have hconnect (c : Connector τ) {managed : Managed}
      (hb : managed.binding = .error fault) :
      c.connect managed = .fail fault := by
    rw [Connector.connect, hb]
    rfl
  cases op with
  | verb client deed managed => exact hverb client deed h
  | visit c deed managed =>
      have hb : managed.binding = .error fault := h
      rw [program, hconnect c hb]
      rfl
  | cycle c managed =>
      have hb : managed.binding = .error fault := h
      rw [program, Connector.reconcile_eq, hconnect c hb]
      rfl

variable [Seconds τ]

/-- Runs an operation in a world. -/
def run (op : Operation τ) (w : World τ (StorageCall τ) Json Service) :
    Outcome op.Result × World τ (StorageCall τ) Json Service :=
  w.run (Service.remote τ) op.program

end Operation

/-! ## What an operation takes from a resource -/

section

variable {τ : Type} {managed managed' : Managed}

theorem Membership.external_congr (h : managed.binding = managed'.binding)
    (client : Client τ) :
    Connector.external client managed = Connector.external client managed' := by
  have hobserve : Membership.observe (τ := τ) managed =
    Membership.observe managed' := by
    rw [observe, observe, h]
  have hcreate : Membership.create (τ := τ) managed =
    Membership.create managed' := by
    rw [create, create, h]
  have hdelete : Membership.delete (τ := τ) managed =
    Membership.delete managed' := by
    rw [delete, delete, h]
  rw [Connector.external, Connector.external, update, update, hobserve,
    hcreate, hdelete]

namespace Connector

theorem connect_congr (c : Connector τ)
    (h : managed.binding = managed'.binding) :
    c.connect managed = c.connect managed' := by
  rw [connect, connect, h]

/-- To look at a resource takes its binding. -/
theorem observe_congr (c : Connector τ)
    (h : managed.binding = managed'.binding) :
    c.observe managed = c.observe managed' := by
  rw [observe, observe, c.connect_congr h]
  simp only [Membership.external_congr h]

/-- A cycle takes the binding of a resource, and whether it is to be removed. -/
theorem reconcile_congr (c : Connector τ)
    (h : managed.binding = managed'.binding)
    (hremoval : managed.wantsRemoval = managed'.wantsRemoval) :
    c.reconcile managed = c.reconcile managed' := by
  rw [reconcile, reconcile, c.connect_congr h, hremoval]
  simp only [Membership.external_congr h]

end Connector

/-- Of the resource that it is called on, a verb takes the binding. -/
theorem Deed.program_congr (h : managed.binding = managed'.binding)
    (client : Client τ) (deed : Deed) :
    deed.program client managed = deed.program client managed' := by
  cases deed <;> simp only [program, Membership.external_congr h]

end

/-! ## Runs -/

/-- Operations one after the other, each with the world in which it starts. -/
def World.turns {τ : Type} [Seconds τ] :
    List (Operation τ) → World τ (StorageCall τ) Json Service →
    List (Operation τ × World τ (StorageCall τ) Json Service)
  | [], _ => []
  | op :: ops, w => (op, w) :: turns ops (op.run w).2

end GrantKeeper
