import GrantKeeper.Json.Basic

/-!
# One reconcile cycle

A cycle connects, observes, and then does the one thing that brings the external
state in line with what a resource asks for, or nothing.  It does not matter
what the steps are made of: `reconcile` runs in any monad, over any values that
can stand for a yes or a no.

Main definitions:

* `Observation`, `Action`, `CycleResult`: what was found and what was done;
* `External`: the four verbs that a cycle drives;
* `reconcile`: the cycle.
-/

namespace GrantKeeper

/-- What a look at the external state found. -/
structure Observation (β : Type) where
  present : β
  upToDate : β
deriving DecidableEq, Repr

namespace Observation

/-- Nothing is there. -/
def absent : Observation Bool := ⟨false, false⟩

/-- Everything is as it should be. -/
def inPlace : Observation Bool := ⟨true, true⟩

end Observation

/-- What a cycle did. -/
inductive Action where
  | none
  | created
  | updated
  | deleted
deriving DecidableEq, Repr

namespace Action

/-- The name of an action. -/
def text : Action → String
  | .none => "none"
  | .created => "created"
  | .updated => "updated"
  | .deleted => "deleted"

/-- All actions. -/
def all : List Action := [.none, .created, .updated, .deleted]

end Action

/-- What a cycle did, and what it had found before. -/
structure CycleResult (β : Type) where
  action : Action
  observation : Observation β
deriving DecidableEq, Repr

/-- The verbs that a cycle drives, as steps in `m`. -/
structure External (m : Type → Type) (β : Type) where
  observe : m (Observation β)
  create : m Unit
  update : m Unit
  delete : m Unit

/-- Runs one cycle.  A resource that asks for its removal is deleted if it is
there; any other is created if it is not there, and updated if it is there but
has drifted. -/
def reconcile {m : Type → Type} [Monad m] {β : Type} [Truthy β]
    (connect : m (External m β)) (removal : Bool) : m (CycleResult β) := do
  let external ← connect
  let found ← external.observe
  if removal then
    if Truthy.truthy found.present then
      external.delete
      return ⟨.deleted, found⟩
    else return ⟨.none, found⟩
  else if !Truthy.truthy found.present then
    external.create
    return ⟨.created, found⟩
  else if !Truthy.truthy found.upToDate then
    external.update
    return ⟨.updated, found⟩
  else return ⟨.none, found⟩

end GrantKeeper
