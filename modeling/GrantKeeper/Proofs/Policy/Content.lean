import GrantKeeper.Policy.Codec
import GrantKeeper.Proofs.Json.Fields
import GrantKeeper.Proofs.Json.Sorting

/-!
# What a policy says

A policy arrives as any JSON value.  Read as a whole, it says which members hold
which role without condition, which entries with members are under a condition,
and what its version is: its `Content`.  Every value has a content, because what
is no entry is passed over; a value that is `Json.isWellFormed` has entries
only.

## Main results

* `Content.mem_granted` — a pair is granted iff some entry without condition
  lists it.
* `clauses_form` — what was written clause by clause is read back as it was.
* `isWellFormed_form` — and it is well formed.
* `Content.of_put_etag` — the etag of a policy is no part of its content.
-/

namespace GrantKeeper

/-! ## Clauses -/

/-- What an entry says: the members hold the role, under the condition unless
that is null. -/
structure Clause where
  role : String
  condition : Json
  members : Finset String

namespace Clause

/-- The clause is under a condition. -/
def isConditional (c : Clause) : Bool := c.condition.truthy

/-- The clause is about somebody. -/
def hasMembers (c : Clause) : Bool := decide c.members.Nonempty

/-- What an entry says, if it names a role.  A condition that is empty is
none. -/
def read? (entry : Json) : Option Clause :=
  match entry.get "role" with
  | .str role =>
      if role = "" then none
      else some ⟨role, (entry.get "condition").orElse .null,
        (Json.texts (entry.get "members").listed).toFinset⟩
  | _ => none

theorem read?_eq_some_iff {entry : Json} {c : Clause} :
    read? entry = some c ↔
      entry.get "role" = .str c.role ∧ c.role ≠ "" ∧
        c.condition = (entry.get "condition").orElse .null ∧
        c.members = (Json.texts (entry.get "members").listed).toFinset := by
  unfold read?
  split
  · rename_i role hrole
    by_cases hempty : role = ""
    · rw [if_pos hempty]
      constructor
      · intro h
        cases h
      · rintro ⟨h, hne, -⟩
        exact absurd ((Json.str.inj (hrole.symm.trans h)).symm.trans hempty) hne
    · rw [if_neg hempty]
      obtain ⟨r, condition, members⟩ := c
      constructor
      · intro h
        cases h
        exact ⟨hrole, hempty, rfl, rfl⟩
      · rintro ⟨h, -, hcondition, hmembers⟩
        have hr : role = r := Json.str.inj (hrole.symm.trans h)
        subst hr
        exact congrArg some
          (congrArg₂ (Clause.mk role) hcondition.symm hmembers.symm)
  · rename_i hother
    constructor
    · intro h
      cases h
    · rintro ⟨h, -⟩
      exact absurd h (hother _)

/-- The written fields of a clause, the members in order. -/
def fields (c : Clause) : Fields :=
  [("role", .str c.role), ("members", .arr (c.members.sort.map .str))] ++
    if c.isConditional then [("condition", c.condition)] else []

/-- The written entry of a clause. -/
def written (c : Clause) : Json := .obj c.fields

/-- A clause as a well-formed entry gives it. -/
structure IsProper (c : Clause) : Prop where
  role : c.role ≠ ""
  condition : c.condition = .null ∨ ∃ head rest,
    c.condition = .obj (head :: rest)

@[simp] theorem lookup_role_fields (c : Clause) :
    c.fields.lookup "role" = some (.str c.role) := rfl

@[simp] theorem lookup_members_fields (c : Clause) :
    c.fields.lookup "members" = some (.arr (c.members.sort.map .str)) := rfl

theorem lookup_condition_fields (c : Clause) :
    c.fields.lookup "condition" =
      if c.isConditional then some c.condition else none := by
  unfold fields
  split <;> rfl

theorem IsProper.get_condition {c : Clause} (h : c.IsProper) :
    c.fields.get "condition" = c.condition := by
  rw [Fields.get, lookup_condition_fields]
  rcases h.condition with hnull | ⟨head, rest, hobj⟩
  · simp [isConditional, hnull]
  · simp [isConditional, hobj]

theorem IsProper.orElse_condition {c : Clause} (h : c.IsProper) :
    c.condition.orElse .null = c.condition := by
  rcases h.condition with hnull | ⟨head, rest, hobj⟩
  · simp [hnull, Json.orElse]
  · simp [hobj, Json.orElse]

/-- What was written is read back as it was. -/
theorem read?_written {c : Clause} (h : c.IsProper) :
    read? c.written = some c := by
  rw [read?_eq_some_iff]
  refine ⟨rfl, h.role, ?_, ?_⟩
  · rw [written, Json.get_obj, h.get_condition, h.orElse_condition]
  · have hmembers : c.written.get "members" =
        .arr (c.members.sort.map .str) := rfl
    rw [hmembers, Json.listed_arr, Json.texts_map_str, Finset.sort_toFinset]

end Clause

/-! ## The clauses of a policy -/

/-- What the entries of a policy say, in order. -/
def clauses (policy : Json) : List Clause :=
  (policy.get "bindings").listed.filterMap Clause.read?

/-- The pairs of role and member that clauses grant without condition. -/
def pairs : List Clause → Finset (String × String)
  | [] => ∅
  | c :: cs =>
      (if c.isConditional then ∅ else c.members.image fun m => (c.role, m))
        ∪ pairs cs

theorem mem_pairs {cs : List Clause} {r m : String} :
    (r, m) ∈ pairs cs ↔
      ∃ c ∈ cs, c.isConditional = false ∧ c.role = r ∧ m ∈ c.members := by
  induction cs with
  | nil => simp [pairs]
  | cons c cs ih =>
      have hhead : (r, m) ∈ (if c.isConditional then ∅
          else c.members.image fun m => (c.role, m)) ↔
            c.isConditional = false ∧ c.role = r ∧ m ∈ c.members := by
        cases hc : c.isConditional with
        | true => simp
        | false => simp [and_comm]
      rw [pairs, Finset.mem_union, hhead, ih]
      simp

theorem pairs_append (cs ds : List Clause) :
    pairs (cs ++ ds) = pairs cs ∪ pairs ds := by
  induction cs with
  | nil => rw [List.nil_append, pairs, Finset.empty_union]
  | cons c cs ih => rw [List.cons_append, pairs, pairs, ih, Finset.union_assoc]

theorem pairs_perm {cs ds : List Clause} (h : cs.Perm ds) :
    pairs cs = pairs ds := by
  ext ⟨r, m⟩
  simp only [mem_pairs, h.mem_iff]

/-- Clauses without members grant nothing. -/
theorem pairs_filter_hasMembers (cs : List Clause) :
    pairs (cs.filter (·.hasMembers)) = pairs cs := by
  ext ⟨r, m⟩
  rw [mem_pairs, mem_pairs]
  constructor
  · rintro ⟨c, hc, h⟩
    exact ⟨c, (List.mem_filter.mp hc).1, h⟩
  · rintro ⟨c, hc, hplain, hrole, hm⟩
    have hne : c.hasMembers = true := decide_eq_true ⟨m, hm⟩
    exact ⟨c, List.mem_filter.mpr ⟨hc, hne⟩, hplain, hrole, hm⟩

/-! ## Plain clauses -/

/-- The members that hold a role. -/
def holders (granted : Finset (String × String)) (role : String) :
    Finset String :=
  (granted.filter fun p => p.1 = role).image Prod.snd

theorem mem_holders {granted : Finset (String × String)} {r m : String} :
    m ∈ holders granted r ↔ (r, m) ∈ granted := by
  rw [holders, Finset.mem_image]
  constructor
  · rintro ⟨⟨r', m'⟩, hp, rfl⟩
    obtain ⟨hin, rfl⟩ := Finset.mem_filter.mp hp
    exact hin
  · intro h
    exact ⟨(r, m), Finset.mem_filter.mpr ⟨h, rfl⟩, rfl⟩

/-- The clause that grants a role to its holders. -/
def plainClause (granted : Finset (String × String)) (role : String) : Clause :=
  ⟨role, .null, holders granted role⟩

/-- The clauses that grant the pairs: one a role, in the order of the roles. -/
def plain (granted : Finset (String × String)) : List Clause :=
  (granted.image Prod.fst).sort.map (plainClause granted)

theorem mem_plain {granted : Finset (String × String)} {c : Clause} :
    c ∈ plain granted ↔ ∃ p ∈ granted, c = plainClause granted p.1 := by
  rw [plain, List.mem_map]
  constructor
  · rintro ⟨role, hrole, rfl⟩
    rw [Finset.mem_sort, Finset.mem_image] at hrole
    obtain ⟨p, hp, rfl⟩ := hrole
    exact ⟨p, hp, rfl⟩
  · rintro ⟨p, hp, rfl⟩
    exact ⟨p.1, (Finset.mem_sort _).mpr (Finset.mem_image_of_mem _ hp), rfl⟩

theorem isConditional_of_mem_plain {granted : Finset (String × String)}
    {c : Clause} (h : c ∈ plain granted) : c.isConditional = false := by
  obtain ⟨p, -, rfl⟩ := mem_plain.mp h
  rfl

theorem hasMembers_of_mem_plain {granted : Finset (String × String)}
    {c : Clause} (h : c ∈ plain granted) : c.hasMembers = true := by
  obtain ⟨p, hp, rfl⟩ := mem_plain.mp h
  exact decide_eq_true ⟨p.2, mem_holders.mpr hp⟩

theorem isProper_of_mem_plain {granted : Finset (String × String)}
    (hroles : ∀ p ∈ granted, p.1 ≠ "")
    {c : Clause} (h : c ∈ plain granted) : c.IsProper := by
  obtain ⟨p, hp, rfl⟩ := mem_plain.mp h
  exact ⟨hroles p hp, Or.inl rfl⟩

theorem pairs_plain (granted : Finset (String × String)) :
    pairs (plain granted) = granted := by
  ext ⟨r, m⟩
  rw [mem_pairs]
  constructor
  · rintro ⟨c, hc, -, rfl, hm⟩
    obtain ⟨p, -, rfl⟩ := mem_plain.mp hc
    exact mem_holders.mp hm
  · intro h
    have hmem : plainClause granted r ∈ plain granted :=
      mem_plain.mpr ⟨(r, m), h, rfl⟩
    exact ⟨plainClause granted r, hmem, rfl, rfl, mem_holders.mpr h⟩

/-! ## Contents -/

/-- An entry without condition lists the member under the role. -/
def Json.Lists (entry : Json) (role member : String) : Prop :=
  entry.get "role" = .str role ∧ (entry.get "condition").truthy = false ∧
    .str member ∈ (entry.get "members").listed

instance (entry : Json) (role member : String) :
    Decidable (entry.Lists role member) :=
  decidable_of_iff ((entry.get "role").text? = some role ∧
    (entry.get "condition").truthy = false ∧
    member ∈ Json.texts (entry.get "members").listed)
    (by rw [Json.Lists, Json.text?_eq_some_iff, Json.mem_texts])

/-- The content of a policy: its version, the pairs granted without condition,
and the conditional clauses that have members. -/
structure Content where
  version : Json
  granted : Finset (String × String)
  conditional : List Clause

namespace Content

/-- What a policy says. -/
def of (policy : Json) : Content where
  version := policy.get "version"
  granted := pairs (clauses policy)
  conditional :=
    (clauses policy).filter fun c => c.isConditional && c.hasMembers

/-- A pair is granted iff some entry without condition lists it. -/
theorem mem_granted {policy : Json} {r m : String} :
    (r, m) ∈ (of policy).granted ↔
      r ≠ "" ∧ ∃ entry ∈ (policy.get "bindings").listed, entry.Lists r m := by
  have hcondition (x : Json) : (x.orElse .null).truthy = x.truthy := by
    unfold Json.orElse
    cases h : x.truthy <;> simp [h]
  rw [of, mem_pairs]
  constructor
  · rintro ⟨c, hc, hplain, hrole, hm⟩
    obtain ⟨entry, hentry, hread⟩ := List.mem_filterMap.mp hc
    obtain ⟨hr, hne, hcond, hmembers⟩ := Clause.read?_eq_some_iff.mp hread
    subst hrole
    refine ⟨hne, entry, hentry, hr, ?_, ?_⟩
    · rw [Clause.isConditional, hcond, hcondition] at hplain
      exact hplain
    · rw [hmembers, List.mem_toFinset, Json.mem_texts] at hm
      exact hm
  · rintro ⟨hne, entry, hentry, hr, hplain, hm⟩
    let c : Clause := ⟨r, (entry.get "condition").orElse .null,
      (Json.texts (entry.get "members").listed).toFinset⟩
    have hread : Clause.read? entry = some c :=
      Clause.read?_eq_some_iff.mpr ⟨hr, hne, rfl, rfl⟩
    refine ⟨c, List.mem_filterMap.mpr ⟨entry, hentry, hread⟩, ?_, rfl, ?_⟩
    · rw [Clause.isConditional, hcondition]
      exact hplain
    · rw [List.mem_toFinset, Json.mem_texts]
      exact hm

end Content

/-! ## Well-formed policies -/

namespace Json

/-- The value is an entry: an object with a role, a list of texts for members,
and perhaps a condition. -/
def isEntry : Json → Bool
  | .obj fields =>
      (match fields.lookup "role" with
        | some (.str role) => role != ""
        | _ => false) &&
      (match fields.lookup "members" with
        | some (.arr members) => members.all isStr
        | _ => false) &&
      (match fields.lookup "condition" with
        | none => true
        | some (.obj _) => true
        | _ => false)
  | _ => false

/-- The value is an object whose bindings, if it has any, are a list of
entries. -/
def isWellFormed : Json → Bool
  | .obj fields =>
      match fields.lookup "bindings" with
      | none => true
      | some (.arr entries) => entries.all isEntry
      | _ => false
  | _ => false

/-- The parts of an entry. -/
theorem exists_of_isEntry {entry : Json} (h : entry.isEntry = true) :
    ∃ (fields : Fields) (role : String) (members : List String),
      entry = .obj fields ∧ fields.lookup "role" = some (.str role) ∧
        role ≠ "" ∧ fields.lookup "members" = some (.arr (members.map .str)) ∧
        (fields.lookup "condition" = none ∨
          ∃ c, fields.lookup "condition" = some (.obj c)) := by
  cases entry with
  | obj fields =>
      simp only [isEntry, Bool.and_eq_true] at h
      obtain ⟨⟨hrole, hmembers⟩, hcondition⟩ := h
      split at hrole
      · rename_i role hr
        split at hmembers
        · rename_i members hm
          refine ⟨fields, role, texts members, rfl, hr,
            by simpa using hrole, ?_, ?_⟩
          · rw [map_str_texts hmembers]
            exact hm
          · split at hcondition
            · rename_i hc
              exact Or.inl hc
            · rename_i c hc
              exact Or.inr ⟨c, hc⟩
            · cases hcondition
        · cases hmembers
      · cases hrole
  | _ => cases h

/-- The entries of a well-formed policy. -/
theorem exists_of_isWellFormed {policy : Json}
    (h : policy.isWellFormed = true) :
    ∃ (fields : Fields) (entries : List Json), policy = .obj fields ∧
      (fields.lookup "bindings").getD (.arr []) = .arr entries ∧
      (policy.get "bindings").listed = entries ∧
      ∀ e ∈ entries, e.isEntry = true := by
  cases policy with
  | obj fields =>
      rw [isWellFormed] at h
      split at h
      · rename_i hb
        refine ⟨fields, [], rfl, by rw [hb]; rfl, ?_, by simp⟩
        rw [get_obj, Fields.get_of_lookup_none hb, listed_null]
      · rename_i entries hb
        refine ⟨fields, entries, rfl, by rw [hb]; rfl, ?_,
          List.all_eq_true.mp h⟩
        rw [get_obj, Fields.get_of_lookup hb, listed_arr]
      · cases h
  | _ => cases h

end Json

theorem Clause.isProper_of_isEntry {entry : Json} {c : Clause}
    (h : entry.isEntry = true) (hread : read? entry = some c) : c.IsProper := by
  obtain ⟨fields, role, members, rfl, hrole, hne, hmembers, hcondition⟩ :=
    Json.exists_of_isEntry h
  obtain ⟨-, hr, hc, -⟩ := read?_eq_some_iff.mp hread
  refine ⟨hr, ?_⟩
  rw [hc, Json.get_obj]
  rcases hcondition with hnone | ⟨condition, hsome⟩
  · rw [Fields.get_of_lookup_none hnone]
    exact Or.inl rfl
  · rw [Fields.get_of_lookup hsome]
    cases condition with
    | nil => exact Or.inl rfl
    | cons head rest => exact Or.inr ⟨head, rest, rfl⟩

theorem isProper_of_mem_clauses {policy : Json} (h : policy.isWellFormed = true)
    {c : Clause} (hc : c ∈ clauses policy) : c.IsProper := by
  obtain ⟨fields, entries, -, -, hlisted, hentries⟩ :=
    Json.exists_of_isWellFormed h
  obtain ⟨entry, hentry, hread⟩ := List.mem_filterMap.mp hc
  exact Clause.isProper_of_isEntry (hentries entry (hlisted ▸ hentry)) hread

/-! ## Written policies -/

namespace Policy

/-- A policy put together from its parts; a part that is null or empty is left
out. -/
def assembled (etag version : Json) (entries : List Json) : Json :=
  .obj (optionalField "etag" etag ++ optionalField "version" version ++
    arrayField "bindings" entries)

theorem get_etag_assembled (etag version : Json) (entries : List Json) :
    (assembled etag version entries).get "etag" = etag := by
  unfold assembled arrayField
  cases etag <;> cases version <;> split <;> rfl

theorem get_version_assembled (etag version : Json) (entries : List Json) :
    (assembled etag version entries).get "version" = version := by
  unfold assembled arrayField
  cases etag <;> cases version <;> split <;> rfl

/-- The parts before the bindings do not hide them. -/
theorem lookup_bindings (etag version : Json) (entries : List Json) :
    (optionalField "etag" etag ++ optionalField "version" version ++
      arrayField "bindings" entries).lookup "bindings" =
        if entries.isEmpty then none else some (.arr entries) := by
  unfold arrayField
  cases etag <;> cases version <;> split <;> rfl

theorem elements_bindings (etag version : Json) (entries : List Json) :
    ((Fields.get
      (optionalField "etag" etag ++ optionalField "version" version ++
        arrayField "bindings" entries) "bindings").orElse (.arr [])).elements =
          .ok entries := by
  rw [Fields.get, lookup_bindings]
  cases entries <;> rfl

theorem listed_bindings_assembled (etag version : Json) (entries : List Json) :
    ((assembled etag version entries).get "bindings").listed = entries := by
  rw [assembled, Json.get_obj, Fields.get, lookup_bindings]
  cases entries with
  | nil => rfl
  | cons entry rest => rfl

end Policy

/-- The policy that is written clause by clause. -/
def form (etag version : Json) (cs : List Clause) : Json :=
  Policy.assembled etag version (cs.map Clause.written)

theorem get_etag_form (etag version : Json) (cs : List Clause) :
    (form etag version cs).get "etag" = etag := Policy.get_etag_assembled _ _ _

theorem get_version_form (etag version : Json) (cs : List Clause) :
    (form etag version cs).get "version" = version :=
  Policy.get_version_assembled _ _ _

/-- What was written clause by clause is read back as it was. -/
theorem clauses_form {cs : List Clause} (h : ∀ c ∈ cs, c.IsProper)
    (etag version : Json) : clauses (form etag version cs) = cs := by
  rw [clauses, form, Policy.listed_bindings_assembled]
  induction cs with
  | nil => rfl
  | cons c cs ih =>
      rw [List.map_cons, List.filterMap_cons_some
        (Clause.read?_written (h c List.mem_cons_self)),
        ih fun d hd => h d (List.mem_cons_of_mem c hd)]

theorem Clause.isEntry_written {c : Clause} (h : c.IsProper) :
    c.written.isEntry = true := by
  have hmembers := Json.all_isStr_map_str c.members.sort
  rw [written, Json.isEntry, lookup_role_fields, lookup_members_fields,
    lookup_condition_fields]
  rcases h.condition with hnull | ⟨head, rest, hobj⟩
  · simp [isConditional, hnull, hmembers, h.role]
  · simp [isConditional, hobj, hmembers, h.role]

theorem isWellFormed_form {cs : List Clause} (h : ∀ c ∈ cs, c.IsProper)
    (etag version : Json) : (form etag version cs).isWellFormed = true := by
  have hentries : (cs.map Clause.written).all Json.isEntry = true := by
    rw [List.all_map]
    exact List.all_eq_true.mpr fun c hc => Clause.isEntry_written (h c hc)
  rw [form, Policy.assembled, Json.isWellFormed, Policy.lookup_bindings]
  cases cs with
  | nil => rfl
  | cons c cs => exact hentries

/-! ## The etag -/

theorem get_put_etag {fields : Fields} {name : String} (h : name ≠ "etag")
    (etag : Json) :
    (Json.obj (fields.put "etag" etag)).get name = (Json.obj fields).get name :=
  Fields.get_put_of_ne h fields etag

theorem clauses_put_etag (fields : Fields) (etag : Json) :
    clauses (.obj (fields.put "etag" etag)) = clauses (.obj fields) := by
  rw [clauses, clauses, get_put_etag (by decide)]

/-- The etag of a policy is no part of its content. -/
theorem Content.of_put_etag (fields : Fields) (etag : Json) :
    of (.obj (fields.put "etag" etag)) = of (.obj fields) := by
  rw [of, of, clauses_put_etag, get_put_etag (by decide)]

theorem isWellFormed_put_etag (fields : Fields) (etag : Json) :
    (Json.obj (fields.put "etag" etag)).isWellFormed =
      (Json.obj fields).isWellFormed := by
  rw [Json.isWellFormed, Json.isWellFormed, Fields.lookup_put_of_ne (by decide)]

end GrantKeeper
