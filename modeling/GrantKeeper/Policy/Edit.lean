import GrantKeeper.Policy.Basic

/-!
# Granting and revoking

`Policy.grant` and `Policy.revoke` bring one pair of role and member into a
policy or take it out, and tell whether anything had to change; if not, they
return the policy they were given.  Etag, version and conditional bindings stay,
so the result can be written back.
-/

namespace GrantKeeper.Policy

/-- The policy in which the member holds the role, and whether that is a
change. -/
def grant (d : Policy) (b : Binding) : Policy × Bool :=
  if d.holds b.role b.member then (d, false)
  else
    let members := (d.members b.role).insert (.str b.member)
    ({ d with grants? := some (d.grants.put (.str b.role) members) }, true)

/-- The policy in which the member does not hold the role, and whether that is a
change.  A role that loses its last member is not listed any more. -/
def revoke (d : Policy) (b : Binding) : Policy × Bool :=
  if d.holds b.role b.member then
    let members := (d.members b.role).remove (.str b.member)
    let grants :=
      if members.isEmpty then d.grants.remove (.str b.role)
      else d.grants.put (.str b.role) members
    ({ d with grants? := some grants }, true)
  else (d, false)

theorem grant_of_holds {d : Policy} {b : Binding}
    (h : d.holds b.role b.member) : d.grant b = (d, false) := by
  simp [grant, h]

theorem revoke_of_not_holds {d : Policy} {b : Binding}
    (h : d.holds b.role b.member = false) : d.revoke b = (d, false) := by
  simp [revoke, h]

@[simp] theorem grant_changed (d : Policy) (b : Binding) :
    (d.grant b).2 = !d.holds b.role b.member := by
  unfold grant; split <;> simp_all

@[simp] theorem revoke_changed (d : Policy) (b : Binding) :
    (d.revoke b).2 = d.holds b.role b.member := by
  unfold revoke; split <;> simp_all

@[simp] theorem grant_etag (d : Policy) (b : Binding) :
    (d.grant b).1.etag = d.etag := by
  unfold grant; split <;> rfl

@[simp] theorem revoke_etag (d : Policy) (b : Binding) :
    (d.revoke b).1.etag = d.etag := by
  unfold revoke; split <;> rfl

@[simp] theorem grant_version (d : Policy) (b : Binding) :
    (d.grant b).1.version = d.version := by
  unfold grant; split <;> rfl

@[simp] theorem revoke_version (d : Policy) (b : Binding) :
    (d.revoke b).1.version = d.version := by
  unfold revoke; split <;> rfl

@[simp] theorem grant_conditional (d : Policy) (b : Binding) :
    (d.grant b).1.conditional = d.conditional := by
  unfold grant; split <;> rfl

@[simp] theorem revoke_conditional (d : Policy) (b : Binding) :
    (d.revoke b).1.conditional = d.conditional := by
  unfold revoke; split <;> rfl

end GrantKeeper.Policy
