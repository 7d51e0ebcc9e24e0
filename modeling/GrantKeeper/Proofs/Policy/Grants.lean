import GrantKeeper.Policy.Edit
import GrantKeeper.Proofs.Json.Texts

/-!
# Who holds which role

A map of grants may list roles and members that are no texts.  None of them
matters for who holds which role: `Grants.Lists` only looks at texts, and as
long as each of these roles is listed once, putting in, taking out, granting and
revoking change it in the one place they are about.  So they leave all else that
the map has, texts or not, as it is.

## Main results

* `Policy.holds_iff` — a policy answers what its grants list.
* `Policy.has_grant`, `Policy.has_revoke` — one pair is added or taken out, and
  nothing else changes.
* `Policy.tidy_grant`, `Policy.tidy_revoke` — grants that could have been
  written stay so.
-/

namespace GrantKeeper

namespace Grants

/-- The roles that are texts. -/
def roles (g : Grants) : List String := Json.texts (g.map Prod.fst)

/-- No text is listed as a role twice. -/
def Distinct (g : Grants) : Prop := g.roles.Nodup

/-- The member is listed under the role. -/
def Lists (g : Grants) (role member : String) : Prop :=
  ∃ keys : Keys, (Json.str role, keys) ∈ g ∧ Json.str member ∈ keys

/-- The member is listed under the role, and neither has to be a text. -/
def Has (g : Grants) (role member : Json) : Prop :=
  ∃ keys : Keys, (role, keys) ∈ g ∧ member ∈ keys

/-- A map from texts to sets of texts. -/
structure OfTexts (g : Grants) : Prop where
  distinct : g.Distinct
  entry : ∀ e ∈ g, ∃ (role : String) (members : List String),
    e = (.str role, members.map .str) ∧
    members.Nodup

/-- A map from names, which are texts that are not empty, to sets of texts. -/
structure OfNames (g : Grants) : Prop extends OfTexts g where
  named : ∀ r ∈ g.roles, r ≠ ""

/-- Grants that could have been written: roles and members are texts, no role is
listed twice, and each has members. -/
structure Tidy (g : Grants) : Prop where
  distinct : g.Distinct
  entry : ∀ e ∈ g, ∃ (role : String) (members : List String),
    e = (.str role, members.map .str) ∧
    role ≠ "" ∧ members.Nodup ∧ members ≠ []

variable {g : Grants} {role r m : String} {keys ks : Keys}

theorem mem_roles : r ∈ g.roles ↔ ∃ keys, (Json.str r, keys) ∈ g := by
  rw [roles, Json.mem_texts, List.mem_map]
  constructor
  · rintro ⟨⟨x, keys⟩, he, hx⟩
    cases hx
    exact ⟨keys, he⟩
  · rintro ⟨keys, he⟩
    exact ⟨(.str r, keys), he, rfl⟩

theorem roles_cons (e : Json × Keys) (rest : Grants) :
    roles (e :: rest) = Json.texts [e.1] ++ roles rest := by
  rw [roles, roles, List.map_cons, Json.texts, Json.texts, Json.texts,
    ← List.filterMap_append, List.singleton_append]

theorem Distinct.tail {e : Json × Keys} {rest : Grants}
    (h : Distinct (e :: rest)) : Distinct rest := by
  rw [Distinct, roles_cons, List.nodup_append] at h
  exact h.2.1

/-- A text that the first entry lists is listed by no other. -/
theorem Distinct.not_mem_tail {rest : Grants}
    (h : Distinct ((.str r, keys) :: rest)) : (Json.str r, ks) ∉ rest := by
  rw [Distinct, roles_cons, List.nodup_append] at h
  intro hmem
  exact h.2.2 r (by simp) r (mem_roles.mpr ⟨ks, hmem⟩) rfl

theorem Distinct.filter (h : Distinct g) (p : Json × Keys → Bool) :
    Distinct (g.filter p) := by
  have hsub : (roles (g.filter p)).Sublist (roles g) :=
    ((List.filter_sublist (p := p)).map Prod.fst).filterMap Json.text?
  exact List.Nodup.sublist hsub h

/-! ## Looking up -/

/-- The members of a role that is listed. -/
theorem members_of_mem (h : Distinct g) (he : (Json.str r, keys) ∈ g) :
    g.members (.str r) = keys := by
  induction g with
  | nil => exact absurd he List.not_mem_nil
  | cons e rest ih =>
      obtain ⟨x, ks⟩ := e
      rw [members]
      by_cases hx : x = .str r
      · subst hx
        have hfirst : entry? ((.str r, ks) :: rest) (.str r) =
            some (.str r, ks) :=
          List.find?_cons_of_pos (Json.same_str_left_iff.mpr rfl)
        rw [hfirst]
        rcases List.mem_cons.mp he with heq | hrest
        · cases heq
          rfl
        · exact absurd hrest h.not_mem_tail
      · have hskip : entry? ((x, ks) :: rest) (.str r) = entry? rest (.str r) :=
          List.find?_cons_of_neg fun hs => hx (Json.same_str_left_iff.mp hs)
        rw [hskip]
        rcases List.mem_cons.mp he with heq | hrest
        · cases heq
          exact absurd rfl hx
        · exact ih h.tail hrest

/-- A role that is not listed has no members. -/
theorem members_of_not_mem (h : r ∉ g.roles) : g.members (.str r) = [] := by
  have hnone : g.entry? (.str r) = none := by
    rw [ entry?, List.find?_eq_none]
    rintro ⟨x, keys⟩ he hs
    obtain rfl : x = .str r := Json.same_str_left_iff.mp hs
    exact h (mem_roles.mpr ⟨keys, he⟩)
  rw [members, hnone]
  rfl

theorem mem_members_iff (h : Distinct g) {x : Json} :
    x ∈ g.members (.str r) ↔ g.Has (.str r) x := by
  by_cases hr : r ∈ g.roles
  · obtain ⟨keys, he⟩ := mem_roles.mp hr
    rw [members_of_mem h he]
    constructor
    · intro hx
      exact ⟨keys, he, hx⟩
    · rintro ⟨ks, hks, hx⟩
      rwa [← members_of_mem h he, members_of_mem h hks]
  · rw [members_of_not_mem hr]
    constructor
    · intro hx
      exact absurd hx List.not_mem_nil
    · rintro ⟨keys, he, -⟩
      exact absurd (mem_roles.mpr ⟨keys, he⟩) hr

theorem str_mem_members_iff (h : Distinct g) :
    .str m ∈ g.members (.str r) ↔ g.Lists r m :=
  mem_members_iff h

/-! ## Putting in and taking out -/

/-- The entries for texts after a role was put in; the role itself need not be a
text. -/
theorem mem_put (h : Distinct g) {key : Json} :
    (Json.str r, ks) ∈ g.put key keys ↔
      key = .str r ∧ ks = keys ∨ key ≠ .str r ∧ (Json.str r, ks) ∈ g := by
  induction g with
  | nil =>
      simp only [put, List.mem_singleton, Prod.mk.injEq, List.not_mem_nil,
        and_false, or_false, eq_comm (a := key)]
  | cons e rest ih =>
      obtain ⟨x, old⟩ := e
      unfold put
      by_cases hs : key.same x = true
      · rw [if_pos hs, List.mem_cons, List.mem_cons, Prod.mk.injEq,
          Prod.mk.injEq]
        by_cases hkey : key = .str r
        · subst hkey
          obtain rfl : x = .str r := Json.same_str_left_iff.mp hs
          have hrest : (Json.str r, ks) ∉ rest := h.not_mem_tail
          simp [hrest]
        · have hx : Json.str r ≠ x := by
            rintro rfl
            exact hkey (Json.same_str_right_iff.mp hs)
          simp [hkey, hx]
      · rw [if_neg hs, List.mem_cons, List.mem_cons, ih h.tail]
        by_cases hkey : key = .str r
        · subst hkey
          have hx : Json.str r ≠ x := by
            rintro rfl
            exact hs (Json.same_str_left_iff.mpr rfl)
          simp [hx]
        · simp [hkey]

theorem lists_put (h : Distinct g) {key : Json} :
    (g.put key keys).Lists r m ↔
      key = .str r ∧ .str m ∈ keys ∨ key ≠ .str r ∧ g.Lists r m := by
  constructor
  · rintro ⟨ks, hks, hm⟩
    rcases (mem_put h).mp hks with ⟨hkey, rfl⟩ | ⟨hkey, hg⟩
    · exact Or.inl ⟨hkey, hm⟩
    · exact Or.inr ⟨hkey, ks, hg, hm⟩
  · rintro (⟨hkey, hm⟩ | ⟨hkey, ks, hg, hm⟩)
    · exact ⟨keys, (mem_put h).mpr (Or.inl ⟨hkey, rfl⟩), hm⟩
    · exact ⟨ks, (mem_put h).mpr (Or.inr ⟨hkey, hg⟩), hm⟩

/-- The entries of other roles stay when a text is put in. -/
theorem mem_put_of_ne {x : Json} (h : x ≠ .str role) :
    (x, ks) ∈ g.put (.str role) keys ↔ (x, ks) ∈ g := by
  induction g with
  | nil => simp [put, h]
  | cons e rest ih =>
      obtain ⟨z, old⟩ := e
      unfold put
      by_cases hs : (Json.str role).same z = true
      · obtain rfl : z = .str role := Json.same_str_left_iff.mp hs
        simp [h]
      · rw [if_neg hs, List.mem_cons, List.mem_cons, ih]

theorem has_put (h : Distinct g) {x y : Json} :
    (g.put (.str role) keys).Has x y ↔
      x = .str role ∧ y ∈ keys ∨ x ≠ .str role ∧ g.Has x y := by
  by_cases hx : x = .str role
  · subst hx
    simp [Has, mem_put h]
  · simp [Has, mem_put_of_ne hx, hx]

/-- An entry after a role was put in is one from before, or has the new
members. -/
theorem mem_or_of_mem_put {key : Json} {e : Json × Keys}
    (he : e ∈ g.put key keys) :
    e ∈ g ∨ e.2 = keys ∧ (key.same e.1 = true ∨ e.1 = key) := by
  induction g with
  | nil =>
      rw [put, List.mem_singleton] at he
      exact Or.inr ⟨congrArg Prod.snd he, Or.inr (congrArg Prod.fst he)⟩
  | cons d rest ih =>
      obtain ⟨x, old⟩ := d
      unfold put at he
      split at he
      · rename_i hs
        rcases List.mem_cons.mp he with rfl | hrest
        · exact Or.inr ⟨rfl, Or.inl hs⟩
        · exact Or.inl (List.mem_cons_of_mem _ hrest)
      · rcases List.mem_cons.mp he with rfl | hrest
        · exact Or.inl List.mem_cons_self
        · rcases ih hrest with hold | hnew
          · exact Or.inl (List.mem_cons_of_mem _ hold)
          · exact Or.inr hnew

/-- A text that is put in is the role of the entry that has the new members. -/
theorem mem_or_eq_of_mem_put {e : Json × Keys}
    (he : e ∈ g.put (.str role) keys) : e ∈ g ∨ e = (.str role, keys) := by
  rcases mem_or_of_mem_put he with hold | ⟨hkeys, hsame | hrole⟩
  · exact Or.inl hold
  · exact Or.inr (Prod.ext (Json.same_str_left_iff.mp hsame) hkeys)
  · exact Or.inr (Prod.ext hrole hkeys)

/-- The roles after a role was put in. -/
theorem fst_of_mem_put {key : Json} {e : Json × Keys}
    (he : e ∈ g.put key keys) : e.1 = key ∨ e.1 ∈ g.map Prod.fst := by
  induction g with
  | nil =>
      rw [put, List.mem_singleton] at he
      exact Or.inl (congrArg Prod.fst he)
  | cons d rest ih =>
      obtain ⟨x, old⟩ := d
      rw [List.map_cons, List.mem_cons]
      unfold put at he
      split at he
      · rcases List.mem_cons.mp he with rfl | hrest
        · exact Or.inr (Or.inl rfl)
        · exact Or.inr (Or.inr (List.mem_map_of_mem hrest))
      · rcases List.mem_cons.mp he with rfl | hrest
        · exact Or.inr (Or.inl rfl)
        · exact (ih hrest).imp_right Or.inr

/-- A role that is not listed is put in at the end. -/
theorem put_of_fresh (h : ∀ e ∈ g, e.1 ≠ .str r) :
    g.put (.str r) keys = g ++ [(.str r, keys)] := by
  induction g with
  | nil => rfl
  | cons e rest ih =>
      obtain ⟨x, old⟩ := e
      have hx : ¬ (Json.str r).same x = true := fun hs =>
        h (x, old) List.mem_cons_self (Json.same_str_left_iff.mp hs)
      rw [put, if_neg hx, ih fun d hd => h d (List.mem_cons_of_mem _ hd),
        List.cons_append]

theorem members_of_fresh (h : ∀ e ∈ g, e.1 ≠ .str r) :
    g.members (.str r) = [] := by
  apply members_of_not_mem
  intro hr
  obtain ⟨keys, he⟩ := mem_roles.mp hr
  exact h _ he rfl

theorem Distinct.put (h : Distinct g) (key : Json) (keys : Keys) :
    Distinct (g.put key keys) := by
  induction g with
  | nil =>
      rw [Grants.put, Distinct, roles, Json.texts]
      cases hkey : key.text? with
      | none => simp [hkey]
      | some s => simp [hkey]
  | cons e rest ih =>
      obtain ⟨x, old⟩ := e
      unfold Grants.put
      split
      · rw [Distinct, roles_cons]
        rw [Distinct, roles_cons] at h
        exact h
      · rename_i hs
        have htail := ih h.tail
        rw [Distinct, roles_cons, List.nodup_append]
        refine ⟨?_, htail, ?_⟩
        · rw [Distinct, roles_cons, List.nodup_append] at h
          exact h.1
        · -- the role put in differs from the first one, or it would have been
          -- put in there
          rintro s hs' t ht rfl
          rw [Json.mem_texts, List.mem_singleton] at hs'
          obtain rfl : Json.str s = x := hs'
          obtain ⟨ks, hks⟩ := mem_roles.mp ht
          rcases (mem_put h.tail).mp hks with ⟨hkey, -⟩ | ⟨-, hrest⟩
          · exact hs (hkey ▸ Json.same_str_left_iff.mpr rfl)
          · exact h.not_mem_tail hrest

theorem mem_remove {e : Json × Keys} :
    e ∈ g.remove (.str r) ↔ e ∈ g ∧ e.1 ≠ .str r := by
  rw [remove, List.mem_filter, Bool.not_eq_true', Bool.eq_false_iff, ne_eq,
    Json.same_str_left_iff]

theorem has_remove {x y : Json} :
    (g.remove (.str role)).Has x y ↔ x ≠ .str role ∧ g.Has x y := by
  constructor
  · rintro ⟨keys, hkeys, hy⟩
    obtain ⟨hg, hne⟩ := mem_remove.mp hkeys
    exact ⟨hne, keys, hg, hy⟩
  · rintro ⟨hne, keys, hg, hy⟩
    exact ⟨keys, mem_remove.mpr ⟨hg, hne⟩, hy⟩

/-! ## Maps of texts -/

theorem ofTexts_iff : OfTexts g ↔ g.roles.Nodup ∧
    ∀ e ∈ g, e.1.isStr = true ∧ e.2.all Json.isStr = true ∧
      (Json.texts e.2).Nodup := by
  constructor
  · intro h
    refine ⟨h.distinct, ?_⟩
    intro e he
    obtain ⟨role, members, rfl, hnodup⟩ := h.entry e he
    exact ⟨rfl, Json.all_isStr_map_str members, by rwa [Json.texts_map_str]⟩
  · rintro ⟨hdistinct, hentry⟩
    refine ⟨hdistinct, ?_⟩
    rintro ⟨key, keys⟩ he
    obtain ⟨hrole, hmembers, hnodup⟩ := hentry _ he
    cases key with
    | str role =>
        exact ⟨role, Json.texts keys,
          by rw [Json.map_str_texts hmembers], hnodup⟩
    | _ => cases hrole

instance : Decidable (OfTexts g) := decidable_of_iff _ ofTexts_iff.symm

instance : Decidable (OfNames g) :=
  decidable_of_iff (OfTexts g ∧ ∀ r ∈ g.roles, r ≠ "")
    ⟨fun h => ⟨h.1, h.2⟩, fun h => ⟨h.1, h.2⟩⟩

theorem ofNames_nil : OfNames [] := ⟨⟨List.nodup_nil, by simp⟩, by simp [roles]⟩

/-- The members of a role are texts. -/
theorem OfTexts.exists_members (h : OfTexts g) (r : String) :
    ∃ members : List String,
      g.members (.str r) = members.map .str ∧ members.Nodup := by
  by_cases hr : r ∈ g.roles
  · obtain ⟨keys, he⟩ := mem_roles.mp hr
    obtain ⟨role, members, heq, hnodup⟩ := h.entry _ he
    cases heq
    exact ⟨members, members_of_mem h.distinct he, hnodup⟩
  · exact ⟨[], members_of_not_mem hr, List.nodup_nil⟩

theorem OfTexts.filter (h : OfTexts g) (p : Json × Keys → Bool) :
    OfTexts (g.filter p) :=
  ⟨h.distinct.filter p, fun e he => h.entry e (List.mem_filter.mp he).1⟩

theorem OfNames.put (h : OfNames g) (hrole : role ≠ "") {members : List String}
    (hnodup : members.Nodup) :
    OfNames (g.put (.str role) (members.map .str)) := by
  refine ⟨⟨h.distinct.put _ _, ?_⟩, ?_⟩
  · intro e he
    rcases mem_or_eq_of_mem_put he with hold | rfl
    · exact h.entry e hold
    · exact ⟨role, members, rfl, hnodup⟩
  · intro r hr
    obtain ⟨keys, he⟩ := mem_roles.mp hr
    rcases (mem_put h.distinct).mp he with ⟨heq, -⟩ | ⟨-, hold⟩
    · rwa [← Json.str.inj heq]
    · exact h.named r (mem_roles.mpr ⟨keys, hold⟩)

/-! ## Tidy grants -/

theorem Tidy.ofTexts (h : Tidy g) : OfTexts g := by
  refine ⟨h.distinct, ?_⟩
  intro e he
  obtain ⟨role, members, heq, -, hnodup, -⟩ := h.entry e he
  exact ⟨role, members, heq, hnodup⟩

/-- The keys of a map of texts are its roles. -/
theorem OfTexts.map_str_roles (h : OfTexts g) :
    g.roles.map .str = g.map Prod.fst := by
  apply Json.map_str_texts
  rw [List.all_map, List.all_eq_true]
  intro e he
  obtain ⟨role, members, rfl, -⟩ := h.entry e he
  rfl

theorem OfTexts.nodup_keys (h : OfTexts g) : (g.map Prod.fst).Nodup := by
  rw [← h.map_str_roles]
  exact List.pairwise_map.mpr
    (List.Pairwise.imp (fun hne heq => hne (Json.str.inj heq)) h.distinct)

/-- In tidy grants a role is a key iff somebody holds it. -/
theorem Tidy.mem_keys (h : Tidy g) {key : Json} :
    key ∈ g.map Prod.fst ↔
      ∃ role member, key = .str role ∧ g.Lists role member := by
  constructor
  · intro hkey
    obtain ⟨e, he, rfl⟩ := List.mem_map.mp hkey
    obtain ⟨role, members, rfl, -, -, hne⟩ := h.entry e he
    obtain ⟨member, hmember⟩ := List.exists_mem_of_ne_nil members hne
    exact ⟨role, member, rfl, _, he, Json.str_mem_map_str.mpr hmember⟩
  · rintro ⟨role, member, rfl, keys, he, -⟩
    exact List.mem_map_of_mem he

/-- Without the roles that have no members, grants could have been written. -/
theorem OfNames.tidy (h : OfNames g) :
    Tidy (g.filter fun e => !e.2.isEmpty) := by
  refine ⟨h.distinct.filter _, ?_⟩
  intro e he
  obtain ⟨hin, hsome⟩ := List.mem_filter.mp he
  obtain ⟨role, members, rfl, hnodup⟩ := h.entry e hin
  refine ⟨role, members, rfl, h.named role (mem_roles.mpr ⟨_, hin⟩), hnodup, ?_⟩
  rintro rfl
  simp at hsome

theorem Tidy.put (h : Tidy g) (hrole : role ≠ "") {members : List String}
    (hnodup : members.Nodup)
    (hne : members ≠ []) : Tidy (g.put (.str role) (members.map .str)) := by
  refine ⟨h.distinct.put _ _, ?_⟩
  intro e he
  rcases mem_or_eq_of_mem_put he with hold | rfl
  · exact h.entry e hold
  · exact ⟨role, members, rfl, hrole, hnodup, hne⟩

theorem Tidy.remove (h : Tidy g) (r : String) : Tidy (g.remove (.str r)) :=
  ⟨h.distinct.filter _, fun e he => h.entry e (mem_remove.mp he).1⟩

end Grants

/-! ## Granting and revoking -/

namespace Policy

open Grants

variable {d : Policy} {b : Binding} {r m : String}

/-- A policy answers what its grants list. -/
theorem holds_iff (h : d.grants.Distinct) :
    d.holds r m = true ↔ d.grants.Lists r m := by
  rw [holds, members, Keys.has_str_iff, str_mem_members_iff h]

theorem grants_grant (h : d.holds b.role b.member = false) :
    (d.grant b).1.grants =
      d.grants.put (.str b.role)
        ((d.members b.role).insert (.str b.member)) := by
  rw [grant, if_neg (by rw [h]; exact Bool.false_ne_true)]
  rfl

theorem grants_revoke (h : d.holds b.role b.member = true) :
    (d.revoke b).1.grants =
      if ((d.members b.role).remove (.str b.member)).isEmpty then
        d.grants.remove (.str b.role)
      else d.grants.put (.str b.role)
        ((d.members b.role).remove (.str b.member)) := by
  rw [revoke, if_pos h]
  rfl

theorem distinct_revoke (h : d.grants.Distinct) (b : Binding) :
    (d.revoke b).1.grants.Distinct := by
  cases hb : d.holds b.role b.member with
  | false => rwa [revoke_of_not_holds hb]
  | true =>
      rw [grants_revoke hb]
      split
      · exact h.filter _
      · exact h.put _ _

/-- **Granting adds one pair.** -/
theorem has_grant (h : d.grants.Distinct) {x y : Json} :
    (d.grant b).1.grants.Has x y ↔
      x = .str b.role ∧ y = .str b.member ∨ d.grants.Has x y := by
  cases hb : d.holds b.role b.member with
  | true =>
      rw [grant_of_holds hb]
      constructor
      · exact Or.inr
      · rintro (⟨rfl, rfl⟩ | hhas)
        · exact (holds_iff h).mp hb
        · exact hhas
  | false =>
      rw [grants_grant hb, has_put h, Keys.mem_insert_str, members,
        mem_members_iff h]
      by_cases hx : x = .str b.role
      · subst hx
        simp [or_comm]
      · simp [hx]

/-- **Revoking takes out one pair.** -/
theorem has_revoke (h : d.grants.Distinct) {x y : Json} :
    (d.revoke b).1.grants.Has x y ↔
      ¬ (x = .str b.role ∧ y = .str b.member) ∧ d.grants.Has x y := by
  cases hb : d.holds b.role b.member with
  | false =>
      rw [revoke_of_not_holds hb]
      constructor
      · intro hhas
        refine ⟨?_, hhas⟩
        rintro ⟨rfl, rfl⟩
        exact absurd ((holds_iff h).mpr hhas) (Bool.eq_false_iff.mp hb)
      · exact And.right
  | true =>
      have hrest {z : Json} : z ∈ (d.members b.role).remove (.str b.member) ↔
          d.grants.Has (.str b.role) z ∧ z ≠ .str b.member := by
        rw [Keys.mem_remove_str, members, mem_members_iff h]
      rw [grants_revoke hb]
      split
      · rename_i hempty
        rw [has_remove]
        constructor
        · rintro ⟨hne, hhas⟩
          exact ⟨fun hxy => hne hxy.1, hhas⟩
        · rintro ⟨hne, hhas⟩
          refine ⟨?_, hhas⟩
          -- a member that stays would keep the role
          rintro rfl
          have hin := hrest.mpr ⟨hhas, fun hy => hne ⟨rfl, hy⟩⟩
          rw [List.isEmpty_iff] at hempty
          rw [hempty] at hin
          exact List.not_mem_nil hin
      · rw [has_put h, hrest]
        by_cases hx : x = .str b.role
        · subst hx
          simp [and_comm]
        · simp [hx]

theorem lists_grant (h : d.grants.Distinct) :
    (d.grant b).1.grants.Lists r m ↔
      r = b.role ∧ m = b.member ∨ d.grants.Lists r m := by
  have hpair := has_grant (b := b) h (x := .str r) (y := .str m)
  rwa [Json.str.injEq, Json.str.injEq] at hpair

theorem lists_revoke (h : d.grants.Distinct) :
    (d.revoke b).1.grants.Lists r m ↔
      ¬ (r = b.role ∧ m = b.member) ∧ d.grants.Lists r m := by
  have hpair := has_revoke (b := b) h (x := .str r) (y := .str m)
  rwa [Json.str.injEq, Json.str.injEq] at hpair

theorem tidy_grant (h : d.grants.Tidy) (hrole : b.role ≠ "") :
    (d.grant b).1.grants.Tidy := by
  cases hb : d.holds b.role b.member with
  | true => rwa [grant_of_holds hb]
  | false =>
      obtain ⟨old, hold, hnodup⟩ := h.ofTexts.exists_members b.role
      have hnew : b.member ∉ old := by
        intro hmem
        have hin : Json.str b.member ∈ d.members b.role := by
          rw [members, hold]
          exact Json.str_mem_map_str.mpr hmem
        have hhas : d.holds b.role b.member = true := Keys.has_str_iff.mpr hin
        rw [hb] at hhas
        cases hhas
      have hinsert : (d.members b.role).insert (.str b.member) =
          (old ++ [b.member]).map .str := by
        rw [Keys.insert, if_neg, members, hold, List.map_append,
          List.map_singleton]
        exact fun hhas => Bool.eq_false_iff.mp hb hhas
      have happend : (old ++ [b.member]).Nodup := by
        refine List.nodup_append.mpr ⟨hnodup, List.pairwise_singleton _ _, ?_⟩
        intro x hx y hy heq
        rw [List.mem_singleton] at hy
        exact hnew (hy ▸ heq ▸ hx)
      rw [grants_grant hb, hinsert]
      exact h.put hrole happend (by simp)

theorem tidy_revoke (h : d.grants.Tidy) (hrole : b.role ≠ "") :
    (d.revoke b).1.grants.Tidy := by
  cases hb : d.holds b.role b.member with
  | false => rwa [revoke_of_not_holds hb]
  | true =>
      obtain ⟨old, hold, hnodup⟩ := h.ofTexts.exists_members b.role
      have hremove : (d.members b.role).remove (.str b.member) =
          (old.filter (· ≠ b.member)).map .str := by
        rw [members, hold, Keys.remove, List.filter_map]
        congr 1
        apply List.filter_congr
        intro s _
        rw [Function.comp_apply, Json.same_str]
        by_cases hs : s = b.member
        · simp [hs]
        · simp [hs, Ne.symm hs]
      rw [grants_revoke hb, hremove]
      split
      · exact h.remove _
      · rename_i hne
        refine h.put hrole (hnodup.filter _) ?_
        intro hnil
        exact hne (by rw [hnil]; rfl)

end Policy

end GrantKeeper
