import GrantKeeper.Proofs.Policy.Canonical

/-!
# Amended policies

A cycle amends a policy by one pair: it puts the pair in, or takes it out if the
resource is to be removed. An amendment that changes nothing leaves the content
as it is, and amendments by different pairs can be made in either order.

## Main results

* `Content.mem_granted_amended`, `Content.mem_granted_amended_of_ne` — the pairs
  of an amended content.
* `Content.amended_comm` — the order of two amendments does not matter.
* `Policy.Represents.amended` — amending a policy amends the content it
  represents.
-/

namespace GrantKeeper

/-- The content with the pair in it, or without it if it is to be removed. -/
def Content.amended (c : Content) (b : Binding) (removal : Bool) : Content :=
  if removal then c.revoking b else c.granting b

/-- The policy with the pair in it, or without it if it is to be removed. -/
def Policy.amended (d : Policy) (b : Binding) (removal : Bool) : Policy :=
  if removal then (d.revoke b).1 else (d.grant b).1

/-! ## Contents -/

namespace Content

variable {c : Content} {b other : Binding} {removal removal' : Bool}

theorem IsProper.amended (h : c.IsProper) (hrole : b.role ≠ "")
    (removal : Bool) : (c.amended b removal).IsProper := by
  cases removal with
  | true => exact h.revoking b
  | false => exact h.granting hrole

theorem mem_granted_amended :
    (b.role, b.member) ∈ (c.amended b removal).granted ↔ removal = false := by
  cases removal with
  | true => simp [amended, revoking]
  | false => simp [amended, granting]

/-- An amendment changes one pair only. -/
theorem mem_granted_amended_of_ne {p : String × String}
    (h : p ≠ (b.role, b.member)) :
    p ∈ (c.amended b removal).granted ↔ p ∈ c.granted := by
  cases removal with
  | true => exact Finset.mem_erase.trans (and_iff_right h)
  | false => exact Finset.mem_insert.trans (or_iff_right h)

theorem settled_amended (c : Content) (b : Binding) (removal : Bool) :
    (c.amended b removal).settled = c.settled.amended b removal := by
  cases removal <;> rfl

/-- An amendment that has been made already changes nothing. -/
theorem amended_eq_self (h : (b.role, b.member) ∈ c.granted ↔ removal = false) :
    c.amended b removal = c := by
  cases removal with
  | true =>
      have hnone : (b.role, b.member) ∉ c.granted := fun hmem => by
        cases h.mp hmem
      show { c with granted := c.granted.erase (b.role, b.member) } = c
      rw [Finset.erase_eq_of_notMem hnone]
  | false =>
      show { c with granted := insert (b.role, b.member) c.granted } = c
      rw [Finset.insert_eq_of_mem (h.mpr rfl)]

/-- **Amendments by different pairs can be made in either order.** -/
theorem amended_comm (h : (b.role, b.member) ≠ (other.role, other.member)) :
    (c.amended b removal).amended other removal' =
      (c.amended other removal').amended b removal := by
  cases removal with
  | true =>
      cases removal' with
      | true =>
          exact congrArg (Content.mk c.version · c.conditional)
            Finset.erase_right_comm
      | false =>
          exact congrArg (Content.mk c.version · c.conditional)
            (Finset.erase_insert_of_ne h.symm).symm
  | false =>
      cases removal' with
      | true =>
          exact congrArg (Content.mk c.version · c.conditional)
            (Finset.erase_insert_of_ne h)
      | false =>
          exact congrArg (Content.mk c.version · c.conditional)
            (Finset.insert_comm _ _ _)

end Content

/-! ## Policies -/

namespace Policy

open Grants

variable {d : Policy} {b : Binding} {removal : Bool}

theorem Represents.amended {etag : Json} {c : Content} (h : d.Represents etag c)
    (hrole : b.role ≠ "") (removal : Bool) :
    (d.amended b removal).Represents etag (c.amended b removal) := by
  cases removal with
  | true => exact h.revoke hrole
  | false => exact h.grant hrole

@[simp] theorem etag_amended (d : Policy) (b : Binding) (removal : Bool) :
    (d.amended b removal).etag = d.etag := by
  cases removal with
  | true => exact revoke_etag d b
  | false => exact grant_etag d b

theorem version_amended (d : Policy) (b : Binding) (removal : Bool) :
    (d.amended b removal).version = d.version := by
  cases removal with
  | true => exact revoke_version d b
  | false => exact grant_version d b

theorem conditional_amended (d : Policy) (b : Binding) (removal : Bool) :
    (d.amended b removal).conditional = d.conditional := by
  cases removal with
  | true => exact revoke_conditional d b
  | false => exact grant_conditional d b

theorem lists_amended (h : d.grants.Distinct) :
    (d.amended b removal).grants.Lists b.role b.member ↔ removal = false := by
  cases removal with
  | true =>
      refine (lists_revoke h).trans ?_
      simp
  | false =>
      refine (lists_grant h).trans ?_
      simp

/-- The policies differ in nothing but one pair, which the second one lists
unless it is to be removed. -/
structure IsAmendedAs (d e : Policy) (b : Binding) (removal : Bool) : Prop where
  etag : e.etag = d.etag
  version : e.version = d.version
  conditional : e.conditional = d.conditional
  pair : e.grants.Lists b.role b.member ↔ removal = false
  others : ∀ r m,
    (r, m) ≠ (b.role, b.member) → (e.grants.Lists r m ↔ d.grants.Lists r m)

theorem isAmendedAs_amended (h : d.grants.Distinct) (b : Binding)
    (removal : Bool) : d.IsAmendedAs (d.amended b removal) b removal := by
  refine
    { etag := etag_amended d b removal
      version := version_amended d b removal
      conditional := conditional_amended d b removal
      pair := lists_amended h
      others := ?_ }
  intro r m hne
  have hne' : ¬ (r = b.role ∧ m = b.member) := by simpa using hne
  cases removal with
  | true => exact (lists_revoke h).trans (and_iff_right hne')
  | false => exact (lists_grant h).trans (or_iff_right hne')

end Policy

end GrantKeeper
