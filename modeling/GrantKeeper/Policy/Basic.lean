import GrantKeeper.Json.Shape

/-!
# Access policies

A policy grants roles to members.  Next to its plain grants, which map a role to
the set of members that hold it, it carries conditional bindings, which are
never interpreted, a version, and an etag that names the state of the resource
it was read from.

Main definitions:

* `Binding`: one member that should hold one role on one resource;
* `Grants`: the map from roles to sets of members;
* `Policy`, `Policy.members`, `Policy.holds`: a policy and who holds a role in
  it;
* `Policy.same`: equality of policies, in which sets and maps have no order.
-/

namespace GrantKeeper

/-- The member that should hold a role on a resource. -/
structure Binding where
  resource : String
  role : String
  member : String
deriving DecidableEq, Repr, Inhabited

/-- Roles with the members that hold them; a role is listed once. -/
abbrev Grants := List (Json × Keys)

namespace Grants

/-- The entry of a role. -/
def entry? (grants : Grants) (role : Json) : Option (Json × Keys) :=
  grants.find? fun entry => role.same entry.1

/-- The members of a role; none when the role is not listed. -/
def members (grants : Grants) (role : Json) : Keys :=
  ((grants.entry? role).map Prod.snd).getD []

/-- Lists a role with these members, in place of those it had. -/
def put (grants : Grants) (role : Json) (members : Keys) : Grants :=
  match grants with
  | [] => [(role, members)]
  | (r, ms) :: rest =>
      if role.same r then (r, members) :: rest else (r, ms) ::
        put rest role members

/-- Removes a role. -/
def remove (grants : Grants) (role : Json) : Grants :=
  grants.filter fun entry => !role.same entry.1

/-- The two maps list the same roles with the same members. -/
def same (xs ys : Grants) : Bool :=
  xs.length == ys.length &&
    xs.all fun (role, members) =>
      ys.any fun (r, ms) => role.same r && members.same ms

end Grants

/-- An access policy.  Policies made by hand may lack the map of grants
altogether. -/
structure Policy where
  etag : Json
  version : Json
  grants? : Option Grants
  conditional : List Fields
deriving Repr, Inhabited

namespace Policy

/-- The policy that grants nothing and comes from nowhere. -/
def empty : Policy := ⟨.null, .null, some [], []⟩

/-- The grants, a missing map read as empty. -/
def grants (d : Policy) : Grants := d.grants?.getD []

/-- The members that hold a role without condition. -/
def members (d : Policy) (role : String) : Keys := d.grants.members (.str role)

/-- A member holds a role without condition. -/
def holds (d : Policy) (role member : String) : Bool :=
  (d.members role).has (.str member)

/-- Equality of policies. -/
def same (d e : Policy) : Bool :=
  d.etag.same e.etag && d.version.same e.version &&
    (match d.grants?, e.grants? with
      | none, none => true
      | some xs, some ys => xs.same ys
      | _, _ => false) &&
    Json.same (.arr (d.conditional.map .obj)) (.arr (e.conditional.map .obj))

end Policy

end GrantKeeper
