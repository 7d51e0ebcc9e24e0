import GrantKeeper.Fault.Catalog
import GrantKeeper.Storage.Client

/-!
# A store of policies

The store holds one policy a bucket, as any JSON value.  A write is accepted
only if it carries the etag of the policy that is stored, and then the policy
gets an etag that no write before it got.

Main definitions:

* `Store`, `Store.policy?`: the store and what it holds;
* `Store.edited`: another writer replaces or removes a policy;
* `Store.get`, `Store.set`: the calls of the service.
-/

namespace GrantKeeper

/-- The stored policies by bucket, and how many writes were accepted. -/
structure Store where
  policies : Fields
  writes : Nat
deriving Repr

namespace Store

/-- A store in which nothing was written yet. -/
def holding (policies : Fields) : Store := ⟨policies, 0⟩

/-- The policy of a bucket. -/
def policy? (s : Store) (bucket : String) : Option Json :=
  s.policies.lookup bucket

/-- Another writer puts a policy in place, or removes the bucket. -/
def edited (s : Store) (bucket : String) (policy? : Option Json) : Store :=
  match policy? with
  | some policy => { s with policies := Fields.put s.policies bucket policy }
  | none => { s with policies := Fields.erase s.policies bucket }

/-- There is no such bucket. -/
def noBucket (bucket : String) : Fault :=
  .foreign (Catalog.service "NotFound" bucket)

/-- The stored policy is not the one that a write was made for. -/
def staleEtag (bucket : String) : Fault :=
  .foreign (Catalog.service "PreconditionFailed" bucket)

/-- The etag of a write. -/
def etagOf (number : Nat) : Json := .str ("etag-" ++ Decimal.digitsText number)

/-- Reads a policy. -/
def get (s : Store) (bucket : String) : Outcome Json :=
  match s.policy? bucket with
  | some policy => .ok policy
  | none => .error (noBucket bucket)

/-- Writes a policy, if its etag is that of the stored one. -/
def set (s : Store) (bucket : String) (policy : Json) : Outcome Json × Store :=
  match s.policy? bucket with
  | none => (.error (noBucket bucket), s)
  | some (.obj stored) =>
      if (Fields.get stored "etag").equals (policy.get "etag") then
        let fields := match policy with
          | .obj fields => fields
          | _ => []
        let written := .obj (Fields.put fields "etag" (etagOf (s.writes + 1)))
        (.ok written, ⟨Fields.put s.policies bucket written, s.writes + 1⟩)
      else (.error (staleEtag bucket), s)
  | some _ => (.error (.malformed .noFields), s)

/-- Answers a call of the service.  Making a client asks nothing of the
store. -/
def answer {τ : Type} (s : Store) : StorageCall τ → Outcome Json × Store
  | .connect _ => (.ok .null, s)
  | .get bucket _ _ => (s.get bucket, s)
  | .set bucket policy _ => s.set bucket policy

@[simp] theorem policy?_holding (policies : Fields) (bucket : String) :
    (holding policies).policy? bucket = policies.lookup bucket := rfl

theorem get_of_policy? {s : Store} {bucket : String} {policy : Json}
    (h : s.policy? bucket = some policy) : s.get bucket = .ok policy := by
  simp [get, h]

end Store

end GrantKeeper
