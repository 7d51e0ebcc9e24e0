import GrantKeeper.Proofs.Policy.Canonical
import GrantKeeper.Storage.World

/-!
# The store

A write that the store accepts puts the policy that was sent in place of the one
with its etag, under a new etag; a write that it refuses changes nothing.  An
edit touches one bucket.

## Main results

* `Store.set_cases` — all that a write can do.
* `Store.policy?_edited` — all that an edit does.
* `Content.of_stamped` — a new etag does not change what a policy says.
-/

namespace GrantKeeper

/-! ## Stamping -/

/-- A policy under another etag, as the store keeps it. -/
def Json.stamped (policy etag : Json) : Json :=
  let fields := match policy with
    | .obj fields => fields
    | _ => []
  .obj (Fields.put fields "etag" etag)

@[simp] theorem Json.get_etag_stamped (policy etag : Json) :
    (policy.stamped etag).get "etag" = etag := Fields.get_put_self _ _ _

theorem Json.isWellFormed_stamped {policy : Json}
    (h : policy.isWellFormed = true) (etag : Json) :
    (policy.stamped etag).isWellFormed = true := by
  cases policy with
  | obj fields => exact (isWellFormed_put_etag fields etag).trans h
  | _ => cases h

/-- A new etag does not change what a policy says. -/
theorem Content.of_stamped (policy etag : Json) :
    of (policy.stamped etag) = of policy := by
  cases policy with
  | obj fields => exact of_put_etag fields etag
  | _ => exact of_put_etag [] etag

/-! ## Reports that there is no bucket -/

/-- A call that fails with this fault counts as one for which there is no
bucket. -/
def Fault.reportsMissing : Fault → Bool
  | .foreign failure => failure.traits.notFound
  | .client .notFound _ => true
  | .reconcile _ (.client .notFound _) => true
  | .writeConflict _ (.client .notFound _) => true
  | _ => false

namespace Store

/-! ## Reading and writing -/

variable {s : Store} {bucket other : String} {policy : Json}

/-- **All that an edit does.** -/
theorem policy?_edited (s : Store) (bucket other : String)
    (policy? : Option Json) :
    (s.edited bucket policy?).policy? other =
      if other = bucket then policy? else s.policy? other := by
  by_cases h : other = bucket
  · subst h
    rw [if_pos rfl]
    cases policy? with
    | none => exact Fields.lookup_erase_self _ _
    | some policy => exact Fields.lookup_put_self _ _ _
  · rw [if_neg h]
    cases policy? with
    | none => exact Fields.lookup_erase_of_ne h _
    | some policy => exact Fields.lookup_put_of_ne h _ _

/-- The store after a write was accepted. -/
def accepted (s : Store) (bucket : String) (policy : Json) : Store :=
  ⟨Fields.put s.policies bucket (policy.stamped (etagOf (s.writes + 1))),
    s.writes + 1⟩

theorem policy?_accepted (s : Store) (bucket other : String) (policy : Json) :
    (s.accepted bucket policy).policy? other =
      if other = bucket then some (policy.stamped (etagOf (s.writes + 1)))
      else s.policy? other := by
  by_cases h : other = bucket
  · subst h
    rw [if_pos rfl]
    exact Fields.lookup_put_self _ _ _
  · rw [if_neg h]
    exact Fields.lookup_put_of_ne h _ _

theorem set_eq (s : Store) (bucket : String) (policy : Json) :
    s.set bucket policy = match s.policy? bucket with
      | none => (.error (noBucket bucket), s)
      | some (.obj stored) =>
          if (Fields.get stored "etag").equals (policy.get "etag") then
            (.ok (policy.stamped (etagOf (s.writes + 1))),
              s.accepted bucket policy)
          else (.error (staleEtag bucket), s)
      | some _ => (.error (.malformed .noFields), s) := by
  unfold set
  cases policy <;> rfl

/-- A write is accepted if the stored policy has its etag. -/
theorem set_of_equals {stored : Json} (h : s.policy? bucket = some stored)
    (hobj : stored.isWellFormed = true)
    (hetag : (stored.get "etag").equals (policy.get "etag") = true) :
    s.set bucket policy =
      (.ok (policy.stamped (etagOf (s.writes + 1))),
        s.accepted bucket policy) := by
  obtain ⟨fields, -, rfl, -⟩ := Json.exists_of_isWellFormed hobj
  rw [set_eq, h]
  exact if_pos hetag

/-- **All that a write can do.** -/
theorem set_cases (s : Store) (bucket : String) (policy : Json) :
    (∃ fault, s.set bucket policy = (.error fault, s) ∧
      (fault.reportsMissing = true → s.policy? bucket = none)) ∨
    (∃ stored, s.policy? bucket = some stored ∧
      (stored.get "etag").equals (policy.get "etag") = true ∧
      s.set bucket policy =
        (.ok (policy.stamped (etagOf (s.writes + 1))),
          s.accepted bucket policy)) := by
  rw [set_eq]
  cases hstored : s.policy? bucket with
  | none => exact Or.inl ⟨noBucket bucket, rfl, fun _ => rfl⟩
  | some stored =>
      cases stored with
      | obj fields =>
          by_cases hetag : (Fields.get fields "etag").equals
            (policy.get "etag") = true
          · exact Or.inr ⟨.obj fields, rfl, hetag, if_pos hetag⟩
          · refine Or.inl ⟨staleEtag bucket, if_neg hetag, ?_⟩
            intro h
            cases h
      | _ => exact Or.inl ⟨.malformed .noFields, rfl, fun h => by cases h⟩

theorem get_eq (s : Store) (bucket : String) :
    s.get bucket = match s.policy? bucket with
      | some policy => .ok policy
      | none => .error (noBucket bucket) := rfl

end Store

end GrantKeeper
