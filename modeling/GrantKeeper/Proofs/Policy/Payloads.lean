import GrantKeeper.Proofs.Policy.Written

/-!
# One payload for what is the same

What is sent for a policy lists its grants in the order of roles and members and
the conditional entries after them.  Nothing of how the map came about is left
in it, and nothing that matters is lost: two payloads are equal exactly when the
policies agree.  For the second half the end of the plain entries has to be
found again in the list; it is where entries begin to have a condition.

## Main results

* `Policy.same_assembled_iff` — what was put together is equal part by part.
* `Policy.exists_listing` — the entries that are written, roles and members
  rising.
* `Policy.same_encode_iff` — payloads are equal exactly when the policies agree.
* `Policy.exists_common_payload` — policies that list the same pairs are written
  alike.
-/

namespace GrantKeeper

/-- Lists that match, where the front of neither matches the back of the other,
match front by front and back by back. -/
theorem forall₂_split {α β : Type} {R : α → β → Prop} {as cs : List α}
    {bs ds : List β}
    (hfront : ∀ a ∈ as, ∀ d ∈ ds, ¬ R a d) (hback : ∀ c ∈ cs, ∀ b ∈ bs, ¬ R c b)
    (h : List.Forall₂ R (as ++ cs) (bs ++ ds)) :
    List.Forall₂ R as bs ∧ List.Forall₂ R cs ds := by
  induction as generalizing bs with
  | nil =>
      cases bs with
      | nil => exact ⟨.nil, h⟩
      | cons b bs =>
          cases cs with
          | nil => cases h
          | cons c cs =>
              cases h with
              | cons hcb =>
                  exact absurd hcb
                    (hback c List.mem_cons_self b List.mem_cons_self)
  | cons a as ih =>
      cases bs with
      | nil =>
          cases ds with
          | nil => cases h
          | cons d ds =>
              cases h with
              | cons had =>
                  exact absurd had
                    (hfront a List.mem_cons_self d List.mem_cons_self)
      | cons b bs =>
          cases h with
          | cons hab hrest =>
              obtain ⟨hfirst, hlast⟩ :=
                ih (fun x hx => hfront x (List.mem_cons_of_mem a hx))
                  (fun c hc x hx =>
                    hback c hc x (List.mem_cons_of_mem b hx)) hrest
              exact ⟨.cons hab hfirst, hlast⟩

/-! ## Parts of a policy -/

namespace Policy

variable {etag version etag' version' : Json} {entries entries' : List Json}

/-- The names of what was put together are among three. -/
private theorem names_sublist (etag version : Json) (entries : List Json) :
    ((optionalField "etag" etag ++ optionalField "version" version ++
      arrayField "bindings" entries).map Prod.fst).Sublist ["etag", "version",
      "bindings"] := by
  have hoptional (name : String) (value : Json) :
      ((optionalField name value).map Prod.fst).Sublist [name] := by
    cases value <;> simp [optionalField]
  have harray : ((arrayField "bindings" entries).map Prod.fst).Sublist
      ["bindings"] := by
    unfold arrayField
    split <;> simp
  rw [List.map_append, List.map_append]
  exact ((hoptional "etag" etag).append (hoptional "version" version)).append
    harray

private theorem ne_null_of_mem (etag version : Json) (entries : List Json) :
    ∀ p ∈ optionalField "etag" etag ++ optionalField "version" version ++
      arrayField "bindings" entries, p.2 ≠ .null := by
  have hoptional {name : String} {value : Json} :
      ∀ p ∈ optionalField name value, p.2 ≠ .null := by
    cases value <;> simp [optionalField]
  intro p hp
  rw [List.mem_append, List.mem_append] at hp
  rcases hp with (hetag | hversion) | hbindings
  · exact hoptional p hetag
  · exact hoptional p hversion
  · unfold arrayField at hbindings
    split at hbindings
    · cases hbindings
    · rw [List.mem_singleton.mp hbindings]
      simp

private theorem get_bindings_assembled (etag version : Json)
    (entries : List Json) : (assembled etag version entries).get "bindings" =
      if entries.isEmpty then .null else .arr entries := by
  rw [assembled, Json.get_obj, Fields.get, lookup_bindings]
  split <;> rfl

private theorem get_assembled_of_ne {name : String} (hetag : name ≠ "etag")
    (hversion : name ≠ "version") (hbindings : name ≠ "bindings") :
    (assembled etag version entries).get name = .null := by
  rw [assembled, Json.get_obj]
  apply Fields.get_of_lookup_none
  rw [List.lookup_eq_none_iff]
  intro p hp
  have hname :=
    (names_sublist etag version entries).subset (List.mem_map_of_mem hp)
  rw [bne_iff_ne]
  rintro rfl
  simp [hetag, hversion, hbindings] at hname

/-- **What was put together is equal part by part.** -/
theorem same_assembled_iff :
    (assembled etag version entries).same (assembled etag' version' entries') =
      true ↔ etag.same etag' = true ∧ version.same version' = true ∧
        Json.same (.arr entries) (.arr entries') = true := by
  have hnodup : ["etag", "version", "bindings"].Nodup := by decide
  have hbindings : Json.same (if entries.isEmpty then .null else .arr entries)
      (if entries'.isEmpty then .null else .arr entries') =
        Json.same (.arr entries) (.arr entries') := by
    cases entries <;> cases entries' <;> simp [Json.same, Json.same.sameItems]
  rw [assembled, assembled,
    Json.same_obj_iff (hnodup.sublist (names_sublist _ _ _))
    (hnodup.sublist (names_sublist _ _ _)) (ne_null_of_mem _ _ _)
    (ne_null_of_mem _ _ _)]
  have hget (etag version : Json) (entries : List Json) (name : String) :
      Fields.get (optionalField "etag" etag ++
        optionalField "version" version ++
        arrayField "bindings" entries) name =
          (assembled etag version entries).get name := rfl
  simp only [hget]
  constructor
  · intro h
    have hetag := h "etag"
    have hversion := h "version"
    have hentries := h "bindings"
    rw [get_etag_assembled, get_etag_assembled] at hetag
    rw [get_version_assembled, get_version_assembled] at hversion
    rw [get_bindings_assembled, get_bindings_assembled, hbindings] at hentries
    exact ⟨hetag, hversion, hentries⟩
  · rintro ⟨hetag, hversion, hentries⟩ name
    by_cases hname : name = "etag"
    · rw [hname, get_etag_assembled, get_etag_assembled]
      exact hetag
    by_cases hname' : name = "version"
    · rw [hname', get_version_assembled, get_version_assembled]
      exact hversion
    by_cases hname'' : name = "bindings"
    · rw [hname'', get_bindings_assembled, get_bindings_assembled, hbindings]
      exact hentries
    · rw [get_assembled_of_ne hname hname' hname'',
        get_assembled_of_ne hname hname' hname'']
      rfl

end Policy

/-! ## Plain entries -/

namespace Clause

variable {c d : Clause}

/-- A plain entry is known by its role and its members. -/
theorem eq_of_same_written (hc : c.condition = .null) (hd : d.condition = .null)
    (h : c.written.same d.written = true) : c = d := by
  rw [written, written, Json.same, Bool.and_eq_true, Json.sameFields_iff] at h
  obtain ⟨role, hrole, hsame⟩ := h.2 ("role", .str c.role) (by simp [fields])
  obtain ⟨members, hmembers, hsame'⟩ :=
    h.2 ("members", .arr (c.members.sort.map .str)) (by simp [fields])
  rw [lookup_role_fields] at hrole
  rw [lookup_members_fields] at hmembers
  cases hrole
  cases hmembers
  have hsort : c.members.sort = d.members.sort := Json.same_texts_iff.mp hsame'
  have hset := congrArg List.toFinset hsort
  rw [Finset.sort_toFinset, Finset.sort_toFinset] at hset
  have hname : c.role = d.role := by simpa using hsame
  obtain ⟨role, condition, members⟩ := c
  obtain ⟨role', condition', members'⟩ := d
  simp_all

/-- An entry without condition has no field for one. -/
theorem fields_of_not_conditional (h : c.isConditional = false) :
    c.fields = [("role", .str c.role),
      ("members", .arr (c.members.sort.map .str))] := by
  rw [fields, h]
  rfl

theorem same_self_written (h : c.isConditional = false) :
    c.written.same c.written = true := by
  have hitems (ss : List String) : Json.namesApart.itemsApart (ss.map .str) =
      true := by
    induction ss with
    | nil => rfl
    | cons s ss ih =>
        simpa [Json.namesApart.itemsApart, Json.namesApart] using ih
  apply Json.same_self
  rw [written, fields_of_not_conditional h]
  simp [Json.namesApart, Json.namesApart.fieldsApart, hitems]

/-- An entry with a condition equals none without. -/
theorem not_same_of_condition {entry : Fields} (h : c.isConditional = false)
    (hentry : (Fields.get entry "condition").truthy = true) :
    ¬ c.written.same (.obj entry) = true ∧ ¬ (Json.obj entry).same c.written =
      true := by
  have hne : Fields.get entry "condition" ≠ .null := by
    intro hnull
    rw [hnull] at hentry
    cases hentry
  have hin := Json.mem_of_lookup (Fields.lookup_of_get_ne_null hne)
  rw [written, Json.same, Json.same, Bool.and_eq_true, Bool.and_eq_true,
    Json.sameFields_iff, Json.sameFields_iff, beq_iff_eq]
  constructor
  · rintro ⟨hlength, hfields⟩
    rw [fields_of_not_conditional h] at hlength hfields
    obtain ⟨role, hrole, -⟩ := hfields ("role", .str c.role) (by simp)
    obtain ⟨members, hmembers, -⟩ :=
      hfields ("members", .arr (c.members.sort.map .str)) (by simp)
    -- two fields cannot have three names
    have hsub : ["role", "members", "condition"] ⊆ entry.map Prod.fst := by
      simp only [List.cons_subset, List.nil_subset, and_true]
      exact ⟨List.mem_map.mpr ⟨_, Json.mem_of_lookup hrole, rfl⟩,
        List.mem_map.mpr ⟨_, Json.mem_of_lookup hmembers, rfl⟩,
        List.mem_map.mpr ⟨_, hin, rfl⟩⟩
    have hle := (List.subperm_of_subset (by decide) hsub).length_le
    simp [← hlength] at hle
  · rintro ⟨-, hfields⟩
    obtain ⟨value, hvalue, -⟩ := hfields _ hin
    rw [lookup_condition_fields, h] at hvalue
    cases hvalue

end Clause

/-- Plain entries are equal only if they grant the same pairs. -/
theorem same_plain_iff {granted granted' : Finset (String × String)} :
    List.Forall₂ (fun x y => Json.same x y = true)
      ((plain granted).map Clause.written)
      ((plain granted').map Clause.written) ↔ granted = granted' := by
  have hcondition {granted : Finset (String × String)} : ∀ c ∈ plain granted,
      c.condition = .null := by
    intro c hc
    obtain ⟨p, -, rfl⟩ := mem_plain.mp hc
    rfl
  have heq {cs ds : List Clause} (hcs : ∀ c ∈ cs, c.condition = .null)
      (hds : ∀ d ∈ ds, d.condition = .null)
      (h : List.Forall₂ (fun x y => Json.same x y = true)
        (cs.map Clause.written) (ds.map Clause.written)) : cs = ds := by
    induction cs generalizing ds with
    | nil =>
        cases ds with
        | nil => rfl
        | cons d ds => cases h
    | cons c cs ih =>
        cases ds with
        | nil => cases h
        | cons d ds =>
            rw [List.forall_mem_cons] at hcs hds
            obtain ⟨hfirst, hrest⟩ := List.forall₂_cons.mp h
            rw [Clause.eq_of_same_written hcs.1 hds.1 hfirst,
              ih hcs.2 hds.2 hrest]
  constructor
  · intro h
    rw [← pairs_plain granted, heq hcondition hcondition h, pairs_plain]
  · rintro rfl
    rw [List.forall₂_same, List.forall_mem_map]
    exact fun c hc => Clause.same_self_written (isConditional_of_mem_plain hc)

/-! ## What is written -/

/-- Roles with their members, in the order in which they are written. -/
abbrev Listing := List (String × List String)

namespace Listing

/-- The entries that are written. -/
def entries (listing : Listing) : List Json :=
  listing.map fun line =>
    .obj [("role", .str line.1), ("members", .arr (line.2.map .str))]

/-- The member is written under the role. -/
def Lists (listing : Listing) (role member : String) : Prop :=
  ∃ line ∈ listing, line.1 = role ∧ member ∈ line.2

/-- Roles rise, each has members, and the members of each rise. -/
structure IsRising (listing : Listing) : Prop where
  roles : listing.Pairwise fun x y => x.1 < y.1
  nonempty : ∀ line ∈ listing, line.2 ≠ []
  members : ∀ line ∈ listing, line.2.Pairwise (· < ·)

end Listing

namespace Policy

open Grants

variable {d e : Policy}

/-- **The entries that are written**: one for every role that has members, roles
and members rising. -/
theorem exists_listing (h : d.grants.OfTexts) :
    ∃ listing : Listing, listing.IsRising ∧
    (∀ role member, listing.Lists role member ↔ d.holds role member = true) ∧
    d.encode = .ok
      (assembled d.etag d.version
        (listing.entries ++ d.conditional.map .obj)) := by
  let listing : Listing :=
    (plain d.grants.granted).map fun c => (c.role, c.members.sort)
  have hrising : listing.IsRising := by
    refine ⟨?_, ?_, ?_⟩
    · have hroles :=
        (Finset.sortedLT_sort (d.grants.granted.image Prod.fst)).pairwise
      rw [List.pairwise_map, plain, List.pairwise_map]
      exact hroles
    · intro line hline hnil
      obtain ⟨c, hc, rfl⟩ := List.mem_map.mp hline
      obtain ⟨m, hm⟩ := of_decide_eq_true (hasMembers_of_mem_plain hc)
      have hin : m ∈ c.members.sort := (Finset.mem_sort _).mpr hm
      have hempty : c.members.sort = [] := hnil
      rw [hempty] at hin
      cases hin
    · intro line hline
      obtain ⟨c, -, rfl⟩ := List.mem_map.mp hline
      exact (Finset.sortedLT_sort c.members).pairwise
  have hlists : ∀ role member,
      listing.Lists role member ↔ d.holds role member = true := by
    intro role member
    rw [Policy.holds_iff h.distinct, ← mem_granted,
      ← pairs_plain d.grants.granted, mem_pairs]
    simp only [Listing.Lists, listing, List.mem_map, exists_exists_and_eq_and,
      Finset.mem_sort]
    apply exists_congr
    intro c
    apply and_congr_right
    intro hc
    exact (and_iff_right (isConditional_of_mem_plain hc)).symm
  have hentries : (plain d.grants.granted).map Clause.written =
      listing.entries := by
    rw [Listing.entries, List.map_map]
    apply List.map_congr_left
    intro c hc
    rw [Clause.written,
      Clause.fields_of_not_conditional (isConditional_of_mem_plain hc)]
    rfl
  exact ⟨listing, hrising, hlists, hentries ▸ encode_granted h⟩

/-- The pairs are the same iff every role has the same members. -/
theorem granted_eq_iff (hd : d.grants.OfTexts) (he : e.grants.OfTexts) :
    d.grants.granted = e.grants.granted ↔
      ∀ role, (d.members role).same (e.members role) = true := by
  have hsame (role : String) : (d.members role).same (e.members role) = true ↔
      ∀ member, (role, member) ∈ d.grants.granted ↔
        (role, member) ∈ e.grants.granted := by
    obtain ⟨ss, hss, hnodup⟩ := hd.exists_members role
    obtain ⟨ts, hts, hnodup'⟩ := he.exists_members role
    rw [members, members, hss, hts, Keys.same_texts_iff hnodup hnodup']
    apply forall_congr'
    intro member
    rw [mem_granted, mem_granted, ← str_mem_members_iff hd.distinct,
      ← str_mem_members_iff he.distinct, hss, hts, Json.str_mem_map_str,
      Json.str_mem_map_str]
  rw [Finset.ext_iff, Prod.forall]
  exact forall_congr' fun role => (hsame role).symm

/-- The policies agree on the etag, the version, the sequence of conditional
entries and the members of every role. -/
structure Agrees (d e : Policy) : Prop where
  etag : d.etag.same e.etag = true
  version : d.version.same e.version = true
  conditional : Json.same (.arr (d.conditional.map .obj))
    (.arr (e.conditional.map .obj)) = true
  members : ∀ role, (d.members role).same (e.members role) = true

theorem agrees_iff :
    d.Agrees e ↔ d.etag.same e.etag = true ∧ d.version.same e.version = true ∧
    Json.same (.arr (d.conditional.map .obj)) (.arr (e.conditional.map .obj)) =
      true ∧
    ∀ role, (d.members role).same (e.members role) = true :=
  ⟨fun h => ⟨h.etag, h.version, h.conditional, h.members⟩,
    fun h => ⟨h.1, h.2.1, h.2.2.1, h.2.2.2⟩⟩

/-- **Payloads are equal exactly when the policies agree.** -/
theorem same_encode_iff (hd : d.grants.OfTexts) (he : e.grants.OfTexts)
    (hd' : ∀ entry ∈ d.conditional,
      (Fields.get entry "condition").truthy = true)
    (he' : ∀ entry ∈ e.conditional,
      (Fields.get entry "condition").truthy = true)
    {p q : Json} (hp : d.encode = .ok p) (hq : e.encode = .ok q) :
    p.same q = true ↔ d.Agrees e := by
  rw [encode_granted hd] at hp
  rw [encode_granted he] at hq
  cases hp
  cases hq
  rw [agrees_iff, same_assembled_iff, Json.same_arr_iff, Json.same_arr_iff,
    ← granted_eq_iff hd he, ← same_plain_iff]
  apply and_congr_right'
  apply and_congr_right'
  constructor
  · intro h
    refine (forall₂_split ?_ ?_ h).symm
    · intro x hx y hy
      obtain ⟨c, hc, rfl⟩ := List.mem_map.mp hx
      obtain ⟨entry, hentry, rfl⟩ := List.mem_map.mp hy
      exact (Clause.not_same_of_condition (isConditional_of_mem_plain hc)
        (he' entry hentry)).1
    · intro x hx y hy
      obtain ⟨entry, hentry, rfl⟩ := List.mem_map.mp hx
      obtain ⟨c, hc, rfl⟩ := List.mem_map.mp hy
      exact (Clause.not_same_of_condition (isConditional_of_mem_plain hc)
        (hd' entry hentry)).2
  · rintro ⟨hconditional, hplain⟩
    exact List.rel_append hplain hconditional

/-- The policies differ at most in how they spell their grants: in how entries
without condition and lists of members are ordered, repeated and divided. -/
structure Respells (fields fields' : Fields) (entries entries' : List Json) :
    Prop where
  etag : Fields.get fields "etag" = Fields.get fields' "etag"
  version : Fields.get fields "version" = Fields.get fields' "version"
  aside : entries.filterMap Json.aside? = entries'.filterMap Json.aside?
  lists : ∀ role member, role ≠ "" →
    ((∃ entry ∈ entries, entry.Lists role member) ↔
      ∃ entry ∈ entries', entry.Lists role member)

/-- **Policies that list the same pairs are written alike**, however they spell
them. -/
theorem exists_common_payload {fields fields' : Fields}
    {entries entries' : List Json}
    (hbindings : (Fields.get fields "bindings").orElse (.arr []) = .arr entries)
    (hbindings' : (Fields.get fields' "bindings").orElse (.arr []) =
      .arr entries')
    (hreadable : ∀ entry ∈ entries, entry.isReadable = true)
    (hreadable' : ∀ entry ∈ entries', entry.isReadable = true)
    (h : Respells fields fields' entries entries') :
    ∃ d e payload,
      decode (.obj fields) = .ok d ∧ decode (.obj fields') = .ok e ∧
        d.encode = .ok payload ∧ e.encode = .ok payload := by
  have helements := congrArg Json.elements hbindings
  have helements' := congrArg Json.elements hbindings'
  obtain ⟨d, hdecode, hread, -, htidy, hconditional⟩ :=
    exists_decode helements hreadable
  obtain ⟨e, hdecode', hread', -, htidy', hconditional'⟩ :=
    exists_decode helements' hreadable'
  have hgranted : d.grants.granted = e.grants.granted := by
    ext ⟨role, member⟩
    rw [mem_granted, mem_granted, hread.lists_iff helements,
      hread'.lists_iff helements']
    exact and_congr_right fun hne => h.lists role member hne
  have hetag : d.etag = e.etag :=
    hread.etag.trans (h.etag.trans hread'.etag.symm)
  have hversion : d.version = e.version :=
    hread.version.trans (h.version.trans hread'.version.symm)
  have haside : d.conditional = e.conditional :=
    hconditional.trans (h.aside.trans hconditional'.symm)
  refine ⟨d, e, _, hdecode, hdecode', encode_granted htidy.ofTexts, ?_⟩
  rw [encode_granted htidy'.ofTexts, hetag, hversion, haside, hgranted]

/-- **What is written is a canonical form.**  It lists the roles that have
members, rising, each with its members rising, and the conditional entries after
them; payloads are equal exactly when the policies agree; and policies that
differ only in how they spell their grants are read and written again as the
same payload. -/
theorem encode_canonical :
    (∀ d : Policy, d.grants.OfTexts → ∃ (listing : Listing) (payload : Json),
      d.encode = .ok payload ∧ listing.IsRising ∧
      (∀ role member, listing.Lists role member ↔ d.holds role member = true) ∧
      payload = assembled d.etag d.version
        (listing.entries ++ d.conditional.map .obj) ∧
      (payload.field? "bindings" = none ↔ listing = [] ∧ d.conditional = [])) ∧
    (∀ d e : Policy, d.grants.OfTexts → e.grants.OfTexts →
      (∀ entry ∈ d.conditional, (Fields.get entry "condition").truthy = true) →
      (∀ entry ∈ e.conditional, (Fields.get entry "condition").truthy = true) →
      ∃ p q, d.encode = .ok p ∧ e.encode = .ok q ∧
        (p.same q = true ↔ d.Agrees e)) ∧
    (∀ (fields fields' : Fields) (entries entries' : List Json),
      (Fields.get fields "bindings").orElse (.arr []) = .arr entries →
      (Fields.get fields' "bindings").orElse (.arr []) = .arr entries' →
      (∀ entry ∈ entries, entry.isReadable = true) →
      (∀ entry ∈ entries', entry.isReadable = true) →
      Respells fields fields' entries entries' →
      ∃ d e payload,
        decode (.obj fields) = .ok d ∧ decode (.obj fields') = .ok e ∧
          d.encode = .ok payload ∧ e.encode = .ok payload) := by
  refine ⟨?_, ?_, ?_⟩
  · intro d h
    obtain ⟨listing, hrising, hlists, hencode⟩ := exists_listing h
    refine ⟨listing, _, hencode, hrising, hlists, rfl, ?_⟩
    rw [assembled, Json.field?, lookup_bindings]
    simp [Listing.entries]
  · intro d e hd he hd' he'
    exact ⟨_, _, encode_granted hd, encode_granted he,
      same_encode_iff hd he hd' he' (encode_granted hd) (encode_granted he)⟩
  · intro fields fields' entries entries' hbindings hbindings' hreadable
      hreadable' h
    exact exists_common_payload hbindings hbindings' hreadable hreadable' h

/-- A role in two entries around a conditional one, with a member that is
repeated. -/
def sprawling : Fields :=
  [("etag", .str "1"), ("bindings", .arr [
    .obj [("role", .str "r/1"), ("members", .arr [.str "u:b", .str "u:b"])],
    .obj [("role", .str "r/1"), ("members", .arr [.str "u:c"]),
      ("condition", .bool true)],
    .obj [("members", .arr [.str "u:a"]), ("role", .str "r/1")]])]

/-- The same in two entries. -/
def concise : Fields :=
  [("bindings", .arr [
    .obj [("role", .str "r/1"), ("members", .arr [.str "u:a", .str "u:b"])],
    .obj [("role", .str "r/1"), ("members", .arr [.str "u:c"]),
      ("condition", .bool true)]]),
    ("etag", .str "1")]

theorem encode_canonical_respelled :
    (∃ p q, vacated.encode = .ok p ∧ vacated.pruned.encode = .ok q ∧
      p.same q = true) ∧
    ∃ d e payload,
      decode (.obj sprawling) = .ok d ∧ decode (.obj concise) = .ok e ∧
        d.encode = .ok payload ∧ e.encode = .ok payload := by
  refine ⟨?_, ?_⟩
  · have hagrees : vacated.Agrees vacated.pruned :=
      ⟨rfl, rfl, rfl, (granted_eq_iff (by decide) (by decide)).mp (by decide)⟩
    obtain ⟨p, q, hp, hq, hiff⟩ :=
      encode_canonical.2.1 vacated vacated.pruned (by decide) (by decide)
        (by decide) (by decide)
    exact ⟨p, q, hp, hq, hiff.mpr hagrees⟩
  · have hgranted : (Content.of (.obj sprawling)).granted =
        (Content.of (.obj concise)).granted := by
      decide
    apply encode_canonical.2.2 sprawling concise _ _ rfl rfl (by decide)
      (by decide)
    refine ⟨rfl, rfl, rfl, ?_⟩
    intro role member hne
    have hpair := Finset.ext_iff.mp hgranted (role, member)
    rw [Content.mem_granted, Content.mem_granted, and_congr_right_iff] at hpair
    exact hpair hne

end Policy

end GrantKeeper
