import GrantKeeper.Cycle.Membership
import GrantKeeper.Proofs.Resource.Grammar

/-!
# What a checked resource declares

A resource that was made through the checks declares a binding, and the role of
that binding is not empty. Nothing that a cycle notes on the resource changes
this.

## Main results

* `Resource.exists_madeFrom` — all that a resource is made from.
* `Resource.MadeFrom.declares` — a resource that passed the checks declares a
  binding.
* `Resource.Declares.setConditions` — and still does after conditions were set.
-/

namespace GrantKeeper

namespace Resource

/-- The resource declares the binding, and the role in it is one. -/
structure Declares (r : Resource) (b : Binding) : Prop where
  binding : (Managed.member r).binding = .ok b
  role : b.role ≠ ""

theorem Declares.setConditions {r : Resource} {b : Binding} (h : r.Declares b)
    (news : List Condition) : (r.setConditions news).Declares b := by
  refine ⟨?_, h.role⟩
  have hb := h.binding
  rw [Managed.binding] at hb ⊢
  rw [binding_setConditions]
  exact hb

/-- What is known of a resource that passed the checks, and of the fields that
it was made from. -/
structure MadeFrom (fields : Fields) (r : Resource) (p : Parameters)
    (conditions : Conditions) (deletion : Bool) : Prop where
  spec : r.spec = .valid ⟨.valid p⟩
  status : r.status = .valid ⟨.valid conditions⟩
  deletionRequested : r.deletionRequested = .bool deletion
  parameters : ∃ spec parameters, fields.lookup "spec" = some (.obj spec) ∧
    List.lookup "for_provider" spec = some (.obj parameters) ∧
    Parameters.check parameters = .ok p
  deletion : Check.optional fields "deletion_requested" false Check.boolean =
    .ok deletion

/-- **All that a resource is made from.** -/
theorem exists_madeFrom {now : Time.Timestamp} {fields : Fields} {r : Resource}
    (h : ofFields now fields = .ok r) :
    ∃ p conditions deletion, MadeFrom fields r p conditions deletion := by
  have hcheck : check now fields = .ok r := mapError_eq_ok_iff.mp h
  obtain ⟨⟨name, spec, status, deletion⟩, hboth, hr⟩ :=
    exists_of_bind_eq_ok hcheck
  cases hr
  obtain ⟨hspec, hrest⟩ :=
    Checked.both_eq_ok_iff.mp (Checked.both_eq_ok_iff.mp hboth).2
  obtain ⟨hstatus, hdeletion⟩ := Checked.both_eq_ok_iff.mp hrest
  obtain ⟨value, hvalue, hspec⟩ := Check.required_eq_ok_iff.mp hspec
  obtain ⟨specFields, rfl, hspec⟩ := Check.object_eq_ok_iff.mp hspec
  obtain ⟨p, hp, hs⟩ := exists_of_bind_eq_ok hspec
  cases hs
  obtain ⟨value, hvalue', hp⟩ := Check.required_eq_ok_iff.mp hp
  obtain ⟨parameters, rfl, hp⟩ := Check.object_eq_ok_iff.mp hp
  have hconditions : ∃ conditions, status = ⟨.valid conditions⟩ := by
    obtain ⟨-, rfl⟩ | ⟨value, -, hstatus⟩ := Check.cases_of_optional hstatus
    · exact ⟨[], rfl⟩
    · obtain ⟨statusFields, -, hstatus⟩ := Check.object_eq_ok_iff.mp hstatus
      obtain ⟨conditions, -, hs⟩ := exists_of_bind_eq_ok hstatus
      cases hs
      exact ⟨conditions, rfl⟩
  obtain ⟨conditions, rfl⟩ := hconditions
  exact ⟨p, conditions, deletion, rfl, rfl, rfl,
    ⟨specFields, parameters, hvalue, hvalue', hp⟩, hdeletion⟩

theorem MadeFrom.declares {fields : Fields} {r : Resource} {p : Parameters}
    {conditions : Conditions}
    {deletion : Bool} (h : MadeFrom fields r p conditions deletion) :
    r.Declares ⟨p.bucket, p.role, p.member⟩ := by
  obtain ⟨spec, parameters, -, -, hp⟩ := h.parameters
  refine ⟨?_, (Parameters.check_eq_ok_iff.mp hp).2.1.2⟩
  rw [Managed.binding, binding, declared, h.spec]
  rfl

end Resource

/-- A resource and the binding it declares. -/
structure Declared where
  resource : Resource
  binding : Binding
  declares : resource.Declares binding

namespace Declared

/-- The resource is to be removed. -/
def removal (r : Declared) : Bool := r.resource.wantsRemoval

/-- What the resource looks for in a policy. -/
def pair (r : Declared) : String × String := (r.binding.role, r.binding.member)

end Declared

end GrantKeeper
