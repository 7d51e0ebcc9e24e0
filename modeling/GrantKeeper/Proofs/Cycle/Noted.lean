import GrantKeeper.Proofs.Cycle.Exchanges
import GrantKeeper.Proofs.Cycle.Operations

/-!
# What is noted on a resource

Of all that an operation does only a look at the policy touches the resource at
hand, and only if it finds the binding in place: then it notes the time that the
calendar shows.  `Program.IsQuiet` says of a program that it notes nothing.
Whether an operation looks at all is `Operation.look?`; a cycle looks before it
acts.

## Main results

* `Membership.noted_observe` — what a look comes to, and what it leaves of the
  resource at hand.
* `Operation.resource?_run` — an operation leaves of the resource what its look
  leaves of it.
-/

namespace GrantKeeper

/-! ## Programs that note nothing -/

/-- The program notes nothing, whatever it is told. -/
def Program.IsQuiet {τ ρ ι α : Type} : Program τ ρ ι α → Prop
  | .done _ => True
  | .fail _ => True
  | .look next => ∀ m, (next m).IsQuiet
  | .log _ next => next.IsQuiet
  | .note _ _ => False
  | .call _ next => ∀ o, (next o).IsQuiet

namespace Program

variable {τ ρ ι α β : Type}

theorem IsQuiet.attempt {p : Program τ ρ ι α} (hp : p.IsQuiet)
    {f : Outcome α → Program τ ρ ι β}
    (hf : ∀ o, (f o).IsQuiet) : (p.attempt f).IsQuiet := by
  induction p with
  | done a => exact hf _
  | fail fault => exact hf _
  | look next ih => exact fun m => ih m (hp m)
  | log entry next ih => exact ih hp
  | note condition next ih => exact hp.elim
  | call request next ih => exact fun o => ih o (hp o)

theorem isQuiet_ofOutcome (o : Outcome α) :
    (ofOutcome o : Program τ ρ ι α).IsQuiet := by
  cases o <;> trivial

theorem IsQuiet.bind {p : Program τ ρ ι α} (hp : p.IsQuiet)
    {f : α → Program τ ρ ι β}
    (hf : ∀ a, (f a).IsQuiet) : (p.bind f).IsQuiet := by
  rw [bind_eq_attempt]
  refine hp.attempt fun o => ?_
  cases o with
  | ok a => exact hf a
  | error fault => trivial

end Program

namespace World

variable {τ ρ ι κ α β : Type} [Seconds τ] {remote : Remote ρ ι κ}

theorem resource?_served (w : World τ ρ ι κ) (request : ρ) :
    (w.served remote request).2.resource? = w.resource? := by
  obtain ⟨clock, contexts, happenings, server, calls, heq⟩ :=
    w.exists_served remote request
  rw [heq]

/-- A program that notes nothing leaves the resource at hand as it is. -/
theorem resource?_run (remote : Remote ρ ι κ) {p : Program τ ρ ι α}
    (hp : p.IsQuiet) (w : World τ ρ ι κ) :
    (w.run remote p).2.resource? = w.resource? := by
  induction p generalizing w with
  | done a => rfl
  | fail fault => rfl
  | look next ih => exact ih _ (hp _) w
  | log entry next ih => exact ih hp (w.written entry)
  | note condition next ih => exact hp.elim
  | call request next ih =>
      exact (ih _ (hp _) _).trans (resource?_served w request)

/-- What a program is followed by makes no difference to the resource at hand if
it notes nothing. -/
theorem resource?_run_bind (p : Program τ ρ ι α) {f : α → Program τ ρ ι β}
    (hf : ∀ a, (f a).IsQuiet) (w : World τ ρ ι κ) :
    (w.run remote (p.bind f)).2.resource? = (w.run remote p).2.resource? := by
  rw [run_bind]
  cases (w.run remote p).1 with
  | ok a => exact resource?_run remote (hf a) _
  | error fault => rfl

end World

/-! ## Verbs -/

open Program

variable {τ : Type} {client : Client τ} {managed : Managed} {b : Binding}

namespace Membership

theorem isQuiet_fetch (client : Client τ) (b : Binding) (stage : Stage) :
    ((fetch b stage).lower client.serve).IsQuiet := by
  rw [fetch_lower]
  intro m
  show Program.IsQuiet (if m.isOver then _ else _)
  split
  · trivial
  · exact fun o => isQuiet_ofOutcome _

theorem isQuiet_recordedReply (b : Binding) (stage : Stage) (o : Outcome Json) :
    (recordedReply b stage o : StorageProgram τ Unit).IsQuiet := by
  have hrecorded (o : Outcome Policy) :
      (recorded b stage o : StorageProgram τ Unit).IsQuiet := by
    unfold recorded
    split <;> trivial
  cases o <;> exact hrecorded _

theorem isQuiet_replace (b : Binding) (d : Policy) (stage : Stage) :
    ((replace b d stage).lower client.serve).IsQuiet := by
  rw [replace_lower]
  intro m
  show Program.IsQuiet (if m.isOver then _ else _)
  split
  · trivial
  · split
    · split
      · exact isQuiet_recordedReply b stage
      · trivial
    · trivial

theorem isQuiet_create (managed : Managed) :
    ((create managed).lower client.serve).IsQuiet := by
  cases hb : managed.binding with
  | error fault =>
      rw [create, hb]
      trivial
  | ok b =>
      rw [create_lower hb]
      refine (isQuiet_fetch client b _).attempt fun o => ?_
      cases o with
      | error fault => trivial
      | ok d =>
          show Program.IsQuiet (if d.holds b.role b.member then _ else _)
          split
          · trivial
          · exact isQuiet_replace b _ _

theorem isQuiet_delete (managed : Managed) :
    ((delete managed).lower client.serve).IsQuiet := by
  cases hb : managed.binding with
  | error fault =>
      rw [delete, hb]
      trivial
  | ok b =>
      rw [delete_lower hb]
      refine (isQuiet_fetch client b _).attempt fun o => ?_
      cases o with
      | error fault =>
          show Program.IsQuiet (if isNotFound fault then _ else _)
          split <;> trivial
      | ok d =>
          show Program.IsQuiet (if d.holds b.role b.member then _ else _)
          split
          · exact isQuiet_replace b _ _
          · trivial

/-- What a look at a policy comes to, and what it leaves of the resource at
hand. -/
inductive Noted [Seconds τ] (w : World τ (StorageCall τ) Json Service) :
    Outcome (Observation Bool) × World τ (StorageCall τ) Json Service → Prop
  | failed (fault : Fault) {w'} (h : w'.resource? = w.resource?) :
      Noted w (.error fault, w')
  | absent {w'} (h : w'.resource? = w.resource?) : Noted w (.ok .absent, w')
  /-- The time that the calendar shows in the end is noted. -/
  | inPlace {w' time} (hwall : w'.clock.wall = .ok time)
      (h : w'.resource? = w.resource?.map (·.setConditions [.available time])) :
      Noted w (.ok .inPlace, w')

variable [Seconds τ]

/-- **What a look comes to, and what it leaves of the resource at hand.** -/
theorem noted_observe (client : Client τ) (managed : Managed)
    (w : World τ (StorageCall τ) Json Service) :
    Noted w (w.run (Service.remote τ)
      ((observe managed).lower client.serve)) := by
  cases hb : managed.binding with
  | error fault =>
      rw [observe, hb]
      exact .failed fault rfl
  | ok b =>
      rw [observe_lower hb, World.run_attempt]
      have hkept := World.resource?_run (Service.remote τ)
        (isQuiet_fetch client b .observeFetch) w
      generalize w.run (Service.remote τ)
        ((fetch b .observeFetch).lower client.serve) = run at hkept ⊢
      obtain ⟨o, w'⟩ := run
      cases o with
      | error fault =>
          show Noted w (w'.run _ (if isNotFound fault then _ else _))
          split
          · exact .absent hkept
          · exact .failed fault hkept
      | ok d =>
          show Noted w (w'.run _ (if d.holds b.role b.member then _ else _))
          split
          · show Noted w (w'.run _ ((ofOutcome w'.clock.wall).bind _))
            cases hwall : w'.clock.wall with
            | error fault => exact .failed fault hkept
            | ok time => exact .inPlace hwall (congrArg (Option.map _) hkept)
          · exact .absent hkept

end Membership

/-! ## Operations -/

theorem Connector.isQuiet_connect (c : Connector τ) (managed : Managed) :
    (c.connect managed).IsQuiet := by
  cases hb : managed.binding with
  | error fault =>
      rw [connect, hb]
      trivial
  | ok b =>
      rw [connect_eq hb]
      exact fun o => isQuiet_ofOutcome _

theorem Connector.isQuiet_act (client : Client τ) (managed : Managed)
    (found : Observation Bool) : (act client managed found).IsQuiet := by
  have hcreate : (external client managed).create.IsQuiet :=
    Membership.isQuiet_create managed
  have hdelete : (external client managed).delete.IsQuiet :=
    Membership.isQuiet_delete managed
  unfold act
  split
  · split
    · exact hdelete.bind fun _ => trivial
    · trivial
  · split
    · exact hcreate.bind fun _ => trivial
    · split
      · exact hcreate.bind fun _ => trivial
      · trivial

/-- The look at the policy that an operation begins with, if it does. -/
def Operation.look? : Operation τ → Option (StorageProgram τ (Observation Bool))
  | .verb client .observe managed =>
      some (Connector.external client managed).observe
  | .visit connector .observe managed => some (connector.observe managed)
  | .cycle connector managed => some (connector.observe managed)
  | _ => none

variable [Seconds τ]

/-- **A look of any operation**: to sign in leaves the resource at hand as it
is. -/
theorem Operation.noted_look {op : Operation τ}
    {p : StorageProgram τ (Observation Bool)}
    (h : op.look? = some p) (w : World τ (StorageCall τ) Json Service) :
    Membership.Noted w (w.run (Service.remote τ) p) := by
  have hvisit (c : Connector τ) (managed : Managed) :
      Membership.Noted w (w.run (Service.remote τ) (c.observe managed)) := by
    have hkept :=
      World.resource?_run (Service.remote τ) (c.isQuiet_connect managed) w
    rw [show c.observe managed = (c.connect managed).bind fun client =>
      (Membership.observe managed).lower client.serve from rfl, World.run_bind]
    generalize w.run (Service.remote τ) (c.connect managed) = run at hkept ⊢
    obtain ⟨o, w'⟩ := run
    cases o with
    | error fault => exact .failed fault hkept
    | ok client =>
        show Membership.Noted w
          (w'.run _ ((Membership.observe managed).lower client.serve))
        have hlook := Membership.noted_observe client managed w'
        generalize w'.run (Service.remote τ)
          ((Membership.observe managed).lower client.serve) = run
          at hlook ⊢
        cases hlook with
        | failed fault h => exact .failed fault (h.trans hkept)
        | absent h => exact .absent (h.trans hkept)
        | inPlace hwall h =>
            exact .inPlace hwall (h.trans (congrArg (Option.map _) hkept))
  cases op with
  | verb client deed managed =>
      cases deed with
      | observe =>
          cases h
          exact Membership.noted_observe client managed w
      | _ => cases h
  | visit c deed managed =>
      cases deed with
      | observe =>
          cases h
          exact hvisit c managed
      | _ => cases h
  | cycle c managed =>
      cases h
      exact hvisit c managed

/-- **An operation leaves of the resource what its look leaves of it**, and one
that does not look leaves it as it is. -/
theorem Operation.resource?_run (op : Operation τ)
    (w : World τ (StorageCall τ) Json Service) :
    (op.run w).2.resource? = match op.look? with
      | some p => (w.run (Service.remote τ) p).2.resource?
      | none => w.resource? := by
  have hquiet (client : Client τ) (managed : Managed) (deed : Deed)
      (h : deed ≠ .observe) :
      (deed.program client managed).IsQuiet := by
    cases deed with
    | observe => exact absurd rfl h
    | delete => exact Membership.isQuiet_delete managed
    | _ => exact Membership.isQuiet_create managed
  have hvisit (c : Connector τ) (managed : Managed) (deed : Deed)
      (h : deed ≠ .observe) :
      (w.run (Service.remote τ)
        ((c.connect managed).bind fun client =>
          deed.program client managed)).2.resource? =
            w.resource? :=
    World.resource?_run _ ((c.isQuiet_connect managed).bind fun client =>
      hquiet client managed deed h) w
  cases op with
  | verb client deed managed =>
      cases deed with
      | observe => rfl
      | create =>
          exact World.resource?_run _ (hquiet client managed .create nofun) w
      | update =>
          exact World.resource?_run _ (hquiet client managed .update nofun) w
      | delete =>
          exact World.resource?_run _ (hquiet client managed .delete nofun) w
  | visit c deed managed =>
      cases deed with
      | observe => rfl
      | create => exact hvisit c managed .create nofun
      | update => exact hvisit c managed .update nofun
      | delete => exact hvisit c managed .delete nofun
  | cycle c managed =>
      show (w.run _ (c.reconcile managed)).2.resource? =
        (w.run _ (c.observe managed)).2.resource?
      rw [Connector.reconcile_eq,
        show c.observe managed = (c.connect managed).bind fun client =>
        (Connector.external client managed).observe from rfl, World.run_bind,
          World.run_bind]
      cases (w.run (Service.remote τ) (c.connect managed)).1 with
      | error fault => rfl
      | ok client =>
          exact World.resource?_run_bind _
            (Connector.isQuiet_act client managed) _

end GrantKeeper
