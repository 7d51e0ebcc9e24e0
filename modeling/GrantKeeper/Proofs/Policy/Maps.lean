import GrantKeeper.Proofs.Json.KeySets
import GrantKeeper.Proofs.Policy.Grants

/-!
# Maps of sets

A list of grants is a map if no role in it equals one before it and the members
of each role are a set.  Roles and members need not be texts.  What a map has
then tells it apart from every other map, up to roles without members; without
such roles, two maps that have the same are the same.

## Main results

* `Grants.IsMap.put`, `Grants.IsMap.remove` — what stays a map.
* `Grants.same_of_has` — maps without empty roles are the same when they have
  the same.
-/

namespace GrantKeeper.Grants

variable {g g' : Grants} {role x y : Json} {keys : Keys}

/-- No role equals one before it, and the members of each are a set. -/
structure IsMap (g : Grants) : Prop where
  roles : Keys.IsSet (g.map Prod.fst)
  members : ∀ e ∈ g, Keys.IsSet e.2

instance : Decidable g.IsMap :=
  decidable_of_iff (Keys.IsSet (g.map Prod.fst) ∧ ∀ e ∈ g, Keys.IsSet e.2)
    ⟨fun h => ⟨h.1, h.2⟩, fun h => ⟨h.roles, h.members⟩⟩

/-- Every role that is listed has members. -/
def IsPruned (g : Grants) : Prop := ∀ e ∈ g, e.2 ≠ []

instance : Decidable g.IsPruned :=
  inferInstanceAs (Decidable (∀ e ∈ g, e.2 ≠ []))

theorem IsMap.distinct (h : g.IsMap) : g.Distinct := h.roles.nodup_texts

/-! ## Putting in and taking out -/

/-- The roles of a map are themselves a set, into which a role is put. -/
theorem map_fst_put (g : Grants) (role : Json) (keys : Keys) :
    (g.put role keys).map Prod.fst = Keys.insert (g.map Prod.fst) role := by
  induction g with
  | nil => rfl
  | cons e rest ih =>
      obtain ⟨z, old⟩ := e
      unfold put Keys.insert
      by_cases hs : role.same z = true
      · simp [Keys.has, hs]
      · rw [if_neg hs, List.map_cons, ih, Keys.insert]
        have hhas : Keys.has (((z, old) :: rest).map Prod.fst) role =
            Keys.has (rest.map Prod.fst) role := by
          simp [Keys.has, hs]
        rw [hhas]
        split <;> rfl

theorem IsMap.put (h : g.IsMap) (hrole : role.isKey = true)
    (hkeys : keys.IsSet) : (g.put role keys).IsMap := by
  refine ⟨map_fst_put g role keys ▸ h.roles.insert hrole, fun e he => ?_⟩
  rcases mem_or_of_mem_put he with hold | ⟨hnew, -⟩
  · exact h.members e hold
  · rwa [hnew]

theorem IsMap.remove (h : g.IsMap) (role : Json) : (g.remove role).IsMap where
  roles :=
    ⟨fun r hr => h.roles.key r ((List.filter_sublist.map Prod.fst).subset hr),
      h.roles.apart.sublist (List.filter_sublist.map Prod.fst)⟩
  members e he := h.members e (List.mem_filter.mp he).1

theorem IsMap.isSet_members (h : g.IsMap) (role : Json) :
    (g.members role).IsSet := by
  rw [Grants.members]
  cases hentry : g.entry? role with
  | none => exact Keys.isSet_nil
  | some e => exact h.members e (List.mem_of_find?_eq_some hentry)

theorem IsPruned.put (h : g.IsPruned) (role : Json) (hkeys : keys ≠ []) :
    (g.put role keys).IsPruned := by
  intro e he
  rcases mem_or_of_mem_put he with hold | ⟨hnew, -⟩
  · exact h e hold
  · rwa [hnew]

theorem IsPruned.remove (h : g.IsPruned) (role : Json) :
    (g.remove role).IsPruned :=
  fun e he => h e (List.mem_filter.mp he).1

/-! ## What tells maps apart -/

theorem IsMap.mem_iff_has (h : g.IsMap) (he : (x, keys) ∈ g) :
    y ∈ keys ↔ g.Has x y := by
  constructor
  · intro hy
    exact ⟨keys, he, hy⟩
  · rintro ⟨ks, hks, hy⟩
    have heq := List.inj_on_of_nodup_map h.roles.nodup hks he rfl
    cases heq
    exact hy

theorem IsPruned.mem_keys_iff (h : g.IsPruned) :
    x ∈ g.map Prod.fst ↔ ∃ y, g.Has x y := by
  constructor
  · intro hx
    obtain ⟨e, he, rfl⟩ := List.mem_map.mp hx
    obtain ⟨y, hy⟩ := List.exists_mem_of_ne_nil e.2 (h e he)
    exact ⟨y, e.2, he, hy⟩
  · rintro ⟨y, keys, he, -⟩
    exact List.mem_map_of_mem he

/-- **Maps without empty roles are the same when they have the same.** -/
theorem same_of_has (h : g.IsMap) (h' : g'.IsMap) (hpruned : g.IsPruned)
    (hpruned' : g'.IsPruned)
    (hhas : ∀ x y, g.Has x y ↔ g'.Has x y) : g.same g' = true := by
  have hkeys (x : Json) : x ∈ g.map Prod.fst ↔ x ∈ g'.map Prod.fst := by
    rw [hpruned.mem_keys_iff, hpruned'.mem_keys_iff]
    simp only [hhas]
  have hperm :=
    (List.perm_ext_iff_of_nodup h.roles.nodup h'.roles.nodup).mpr hkeys
  rw [Grants.same, Bool.and_eq_true, beq_iff_eq, List.all_eq_true]
  refine ⟨by simpa using hperm.length_eq, ?_⟩
  rintro ⟨x, keys⟩ he
  obtain ⟨⟨x', keys'⟩, he', rfl⟩ :=
    List.mem_map.mp ((hkeys x).mp (List.mem_map_of_mem he))
  have hmembers : ∀ y, y ∈ keys ↔ y ∈ keys' := by
    intro y
    rw [h.mem_iff_has he, hhas, h'.mem_iff_has he']
  refine List.any_eq_true.mpr ⟨_, he', ?_⟩
  rw [Bool.and_eq_true]
  exact ⟨Json.same_self_of_isKey (h'.roles.key _ (List.mem_map_of_mem he')),
    (h.members _ he).same_of_mem_iff (h'.members _ he') hmembers⟩

/-! ## Tidy grants -/

theorem Tidy.isMap (h : g.Tidy) : g.IsMap where
  roles := by
    rw [← h.ofTexts.map_str_roles]
    exact Keys.isSet_map_str h.distinct
  members e he := by
    obtain ⟨role, members, rfl, -, hnodup, -⟩ := h.entry e he
    exact Keys.isSet_map_str hnodup

theorem Tidy.isPruned (h : g.Tidy) : g.IsPruned := by
  intro e he hnil
  obtain ⟨role, members, rfl, -, -, hne⟩ := h.entry e he
  exact hne (List.map_eq_nil_iff.mp hnil)

theorem Tidy.has_iff (h : g.Tidy) :
    g.Has x y ↔
      ∃ role member, x = .str role ∧ y = .str member ∧ g.Lists role member := by
  constructor
  · rintro ⟨keys, he, hy⟩
    obtain ⟨role, members, heq, -⟩ := h.entry _ he
    cases heq
    obtain ⟨member, -, rfl⟩ := List.mem_map.mp hy
    exact ⟨role, member, rfl, rfl, _, he, hy⟩
  · rintro ⟨role, member, rfl, rfl, hlists⟩
    exact hlists

/-- **Tidy grants are the same when they list the same pairs.** -/
theorem same_of_lists (h : g.Tidy) (h' : g'.Tidy)
    (hlists : ∀ r m, g.Lists r m ↔ g'.Lists r m) : g.same g' = true := by
  refine same_of_has h.isMap h'.isMap h.isPruned h'.isPruned fun x y => ?_
  rw [h.has_iff, h'.has_iff]
  simp only [hlists]

end GrantKeeper.Grants
