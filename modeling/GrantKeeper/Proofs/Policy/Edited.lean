import GrantKeeper.Proofs.Policy.Amendments

/-!
# Editing the entries

There are two ways to amend a policy that is written as a list of entries.  One
is to read it and to amend what was read.  The other is to edit the list, by
hand as it were, and to read it then: to grant, one more entry is put in, no
matter where; to revoke, the member is struck from every entry of the role that
has no condition. Both come to the same policy, even if the entries of a role
are scattered over the list.

## Main results

* `Json.lists_strike` — what an entry lists when a member was struck from it.
* `Policy.IsReadFrom.grant`, `Policy.IsReadFrom.revoke` — from what an amended
  policy is read.
* `Policy.amended_as_edited` — to amend what was read is to read what was
  edited.
-/

namespace GrantKeeper

namespace Fields

/-- The fields with one of them altered, if it is there. -/
def alter (fields : Fields) (name : String) (f : Json → Json) : Fields :=
  fields.map fun field =>
    if field.1 == name then (field.1, f field.2) else field

theorem lookup_alter (fields : Fields) (n name : String) (f : Json → Json) :
    (fields.alter n f).lookup name =
      if name = n then (fields.lookup name).map f else fields.lookup name := by
  induction fields with
  | nil => simp [alter]
  | cons field rest ih =>
      obtain ⟨m, x⟩ := field
      rw [alter, List.map_cons, ← alter]
      by_cases hm : m = n
      · by_cases hname : name = m
        · simp [hm, hname]
        · have hne : (name == m) = false := beq_eq_false_iff_ne.mpr hname
          simp [List.lookup_cons, hm ▸ hne, hm, ih]
      · by_cases hname : name = m
        · simp [hm, hname]
        · have hne : (name == m) = false := beq_eq_false_iff_ne.mpr hname
          simp [List.lookup_cons, hne, hm, ih]

theorem get_alter_self {f : Json → Json} (hnull : f .null = .null)
    (fields : Fields) (name : String) :
    (fields.alter name f).get name = f (fields.get name) := by
  rw [get, get, lookup_alter, if_pos rfl]
  cases fields.lookup name with
  | none => exact hnull.symm
  | some x => rfl

theorem get_alter_of_ne {n name : String} (h : name ≠ n) (fields : Fields)
    (f : Json → Json) : (fields.alter n f).get name = fields.get name := by
  rw [get, get, lookup_alter, if_neg h]

end Fields

/-- The entry that grants the role to the member. -/
def Binding.entry (b : Binding) : Json :=
  .obj [("role", .str b.role), ("members", .arr [.str b.member])]

namespace Json

/-- The array with its items edited; what is no array is left alone. -/
def mapItems (f : List Json → List Json) : Json → Json
  | .arr items => .arr (f items)
  | value => value

/-- The entry grants the role without condition. -/
def grantsRole (entry : Json) (role : String) : Bool :=
  (entry.get "role").same (.str role) && !(entry.get "condition").truthy

/-- The entry without the member, if it grants the role without condition. -/
def strike (b : Binding) : Json → Json
  | .obj fields =>
      if (Json.obj fields).grantsRole b.role then
        .obj (Fields.alter fields "members"
          (mapItems (List.filter fun m => !m.same (.str b.member))))
      else .obj fields
  | entry => entry

variable {b : Binding} {entry value : Json} {r m : String}

theorem grantsRole_iff {role : String} : entry.grantsRole role = true ↔
    entry.get "role" = .str role ∧ (entry.get "condition").truthy = false := by
  rw [grantsRole, Bool.and_eq_true, Bool.not_eq_true', same_str_right_iff]

/-- What is read as a list of texts is one, or is falsy and lists nothing. -/
theorem isTexts_orElse_cases (h : (value.orElse (.arr [])).isTexts = true) :
    (∃ ss : List String, value = .arr (ss.map .str)) ∨
      value.listed = [] ∧ ∀ f, value.mapItems f = value := by
  cases value with
  | arr items =>
      rw [orElse_arr] at h
      exact Or.inl (exists_of_isTexts h)
  | _ =>
      refine Or.inr ⟨?_, fun f => rfl⟩
      rw [← listed_orElse_arr]
      unfold orElse at h ⊢
      split at h
      · cases h
      · rename_i hfalsy
        rw [if_neg hfalsy, listed_arr]

theorem listed_mapItems_filter (h : (value.orElse (.arr [])).isTexts = true)
    (p : Json → Bool) :
    (value.mapItems (List.filter p)).listed = value.listed.filter p := by
  rcases isTexts_orElse_cases h with ⟨ss, rfl⟩ | ⟨hnone, hsame⟩
  · rfl
  · rw [hsame, hnone, List.filter_nil]

theorem isTexts_mapItems_filter (h : (value.orElse (.arr [])).isTexts = true)
    (p : Json → Bool) :
    ((value.mapItems (List.filter p)).orElse (.arr [])).isTexts = true := by
  rcases isTexts_orElse_cases h with ⟨ss, rfl⟩ | ⟨-, hsame⟩
  · rw [mapItems, orElse_arr, isTexts, List.all_eq_true]
    intro x hx
    exact List.all_eq_true.mp (all_isStr_map_str ss) x (List.mem_filter.mp hx).1
  · rwa [hsame]

/-- Editing the items before or after an absent array is read as an empty one
comes to the same. -/
theorem orElse_mapItems {items : List Json}
    (h : value.orElse (.arr []) = .arr items)
    {f : List Json → List Json} (hnil : f [] = []) :
    (value.mapItems f).orElse (.arr []) = .arr (f items) := by
  cases value with
  | arr own =>
      rw [orElse_arr, Json.arr.injEq] at h
      rw [mapItems, orElse_arr, h]
  | _ =>
      have hitems : items = [] := by
        unfold orElse at h
        split at h
        · cases h
        · exact (Json.arr.inj h).symm
      subst hitems
      rw [hnil]
      exact h

/-! ## Striking a member -/

theorem strike_of_not_grantsRole (h : entry.grantsRole b.role = false) :
    strike b entry = entry := by
  cases entry with
  | obj fields => rw [strike, if_neg (Bool.eq_false_iff.mp h)]
  | _ => rfl

/-- To strike a member changes nothing but the members of an entry. -/
theorem get_strike_of_ne {name : String} (h : name ≠ "members") :
    (strike b entry).get name = entry.get name := by
  cases entry with
  | obj fields =>
      rw [strike]
      split
      · exact Fields.get_alter_of_ne h _ _
      · rfl
  | _ => rfl

theorem get_members_strike (h : entry.grantsRole b.role = true) :
    (strike b entry).get "members" =
      (entry.get "members").mapItems
        (List.filter fun m => !m.same (.str b.member)) := by
  cases entry with
  | obj fields =>
      rw [strike, if_pos h]
      exact Fields.get_alter_self rfl _ _
  | _ => rfl

/-- An entry is set aside as it is, or is not set aside before and after. -/
theorem aside?_strike (b : Binding) (entry : Json) :
    (strike b entry).aside? = entry.aside? := by
  cases hgrants : entry.grantsRole b.role with
  | false => rw [strike_of_not_grantsRole hgrants]
  | true =>
      cases entry with
      | obj fields =>
          have hplain := (grantsRole_iff.mp hgrants).2
          rw [get_obj] at hplain
          rw [strike, if_pos hgrants, aside?, aside?,
            Fields.get_alter_of_ne (by decide),
            Fields.get_alter_of_ne (by decide), hplain, Bool.and_false]
          rfl
      | _ => rfl

/-- The members of an entry that can be read and grants a role are texts. -/
theorem isTexts_of_isReadable {role : String} (hrole : role ≠ "")
    (h : entry.isReadable = true) (hgrants : entry.grantsRole role = true) :
    ((entry.get "members").orElse (.arr [])).isTexts = true := by
  obtain ⟨hname, hplain⟩ := grantsRole_iff.mp hgrants
  cases entry with
  | obj fields =>
      rw [get_obj] at hname hplain
      simpa [isReadable, isStr, hname, hplain, hrole] using h
  | _ => rfl

theorem isReadable_strike (hrole : b.role ≠ "") (h : entry.isReadable = true) :
    (strike b entry).isReadable = true := by
  cases hgrants : entry.grantsRole b.role with
  | false => rwa [strike_of_not_grantsRole hgrants]
  | true =>
      have htexts :=
        isTexts_mapItems_filter (isTexts_of_isReadable hrole h hgrants) fun m =>
          !m.same (.str b.member)
      obtain ⟨hname, -⟩ := grantsRole_iff.mp hgrants
      cases entry with
      | obj fields =>
          rw [get_obj] at hname htexts
          rw [strike, if_pos hgrants, isReadable,
            Fields.get_alter_of_ne (by decide), Fields.get_alter_of_ne
              (by decide), Fields.get_alter_self rfl, hname, htexts]
          simp [isStr]
      | _ => rfl

/-- **An entry from which a member was struck lists all else that it
listed.** -/
theorem lists_strike (hrole : b.role ≠ "") (h : entry.isReadable = true) :
    (strike b entry).Lists r m ↔
      ¬ (r = b.role ∧ m = b.member) ∧ entry.Lists r m := by
  cases hgrants : entry.grantsRole b.role with
  | false =>
      rw [strike_of_not_grantsRole hgrants, iff_and_self]
      rintro hlists ⟨rfl, -⟩
      rw [grantsRole_iff.mpr ⟨hlists.1, hlists.2.1⟩] at hgrants
      cases hgrants
  | true =>
      rw [Lists, Lists, get_strike_of_ne (by decide),
        get_strike_of_ne (by decide), get_members_strike hgrants,
        listed_mapItems_filter (isTexts_of_isReadable hrole h hgrants),
        List.mem_filter, same_str]
      obtain ⟨hname, -⟩ := grantsRole_iff.mp hgrants
      rw [hname, Json.str.injEq, Bool.not_eq_true', beq_eq_false_iff_ne]
      constructor
      · rintro ⟨rfl, hplain, hm, hne⟩
        exact ⟨fun hpair => hne hpair.2, rfl, hplain, hm⟩
      · rintro ⟨hne, rfl, hplain, hm⟩
        exact ⟨rfl, hplain, hm, fun hmember => hne ⟨rfl, hmember⟩⟩

/-! ## Adding an entry -/

theorem get_role_entry (b : Binding) : b.entry.get "role" = .str b.role := rfl

theorem get_condition_entry (b : Binding) :
    b.entry.get "condition" = .null := rfl

theorem isReadable_entry (b : Binding) : b.entry.isReadable = true := by
  have hrole := get_role_entry b
  rw [Binding.entry, get_obj] at hrole
  rw [Binding.entry, isReadable, hrole, Bool.or_eq_true]
  exact Or.inr rfl

theorem aside?_entry (b : Binding) : b.entry.aside? = none := by
  have hcondition := get_condition_entry b
  rw [Binding.entry, get_obj] at hcondition
  rw [Binding.entry, aside?, hcondition, truthy_null, Bool.and_false]
  rfl

theorem lists_entry : b.entry.Lists r m ↔ r = b.role ∧ m = b.member := by
  have hmembers : (b.entry.get "members").listed = [.str b.member] := rfl
  rw [Lists, get_role_entry, get_condition_entry, hmembers, List.mem_singleton,
    Json.str.injEq,
    Json.str.injEq, truthy_null, eq_self_iff_true, true_and,
    eq_comm (a := b.role)]

end Json

/-! ## Reading what was edited -/

namespace Policy

variable {fields : Fields} {entries front back : List Json} {b : Binding}
  {d e : Policy}

/-- The policy is what the fields say, with these entries for their bindings. -/
structure IsReadFrom (d : Policy) (fields : Fields) (entries : List Json) :
    Prop where
  etag : d.etag = Fields.get fields "etag"
  version : d.version = Fields.get fields "version"
  conditional : d.conditional = entries.filterMap Json.aside?
  grants? : d.grants? = some d.grants
  tidy : d.grants.Tidy
  lists : ∀ r m,
    d.grants.Lists r m ↔ r ≠ "" ∧ ∃ entry ∈ entries, entry.Lists r m

/-- Entries that can be read are read. -/
theorem exists_isReadFrom
    (hbindings : (Fields.get fields "bindings").orElse (.arr []) = .arr entries)
    (hreadable : ∀ entry ∈ entries, entry.isReadable = true) :
    ∃ d, decode (.obj fields) = .ok d ∧ d.IsReadFrom fields entries := by
  have helements : ((Fields.get fields "bindings").orElse (.arr [])).elements =
      .ok entries :=
    congrArg Json.elements hbindings
  obtain ⟨d, hdecode, hread, hgrants, htidy, hconditional⟩ :=
    exists_decode helements hreadable
  exact ⟨d, hdecode, hread.etag, hread.version, hconditional, hgrants, htidy,
    hread.lists_iff helements⟩

namespace IsReadFrom

theorem isPruned (h : d.IsReadFrom fields entries) :
    d.IsPruned := ⟨_, h.grants?, h.tidy.isPruned⟩

/-- What is set aside has its names from the entries. -/
theorem namesApart (h : d.IsReadFrom fields entries)
    (hbindings : (Fields.get fields "bindings").orElse (.arr []) = .arr entries)
    (hnames : (Json.obj fields).namesApart = true) : d.namesApart = true := by
  have hentries : (Json.arr entries).namesApart = true :=
    hbindings ▸ Json.namesApart_orElse (Json.namesApart_get hnames _) rfl
  have hown (name : String) : (Fields.get fields name).namesApart = true :=
    Json.namesApart_get hnames name
  rw [Policy.namesApart, h.etag, h.version, h.conditional, hown, hown,
    Json.namesApart_arr_iff.mpr]
  · rfl
  · intro x hx
    obtain ⟨own, hown, rfl⟩ := List.mem_map.mp hx
    obtain ⟨entry, hentry, haside⟩ := List.mem_filterMap.mp hown
    rw [← Json.eq_obj_of_aside? haside]
    exact Json.namesApart_arr_iff.mp hentries entry hentry

/-- **Whatever is read from the same fields and entries is the same.** -/
theorem same (hd : d.IsReadFrom fields entries)
    (he : e.IsReadFrom fields entries)
    (hnames : d.namesApart = true) : d.same e = true := by
  refine (same_iff hnames hd.grants? (he.etag.trans hd.etag.symm)
    (he.version.trans hd.version.symm)
    (he.conditional.trans hd.conditional.symm)).mpr ⟨_, he.grants?, ?_⟩
  exact Grants.same_of_lists hd.tidy he.tidy fun r m =>
    (hd.lists r m).trans (he.lists r m).symm

end IsReadFrom

private theorem exists_mem_insertion {entry : Json} {p : Json → Prop} :
    (∃ e ∈ front ++ entry :: back, p e) ↔
      p entry ∨ ∃ e ∈ front ++ back, p e := by
  simp only [List.mem_append, List.mem_cons, or_and_right, exists_or,
    exists_eq_left]
  exact or_left_comm

/-- The policy with one entry put in among those it has. -/
def inserting (fields : Fields) (front : List Json) (b : Binding)
    (back : List Json) : Fields :=
  fields.put "bindings" (.arr (front ++ b.entry :: back))

/-- The policy with the member struck from every entry that grants the role
without condition. -/
def striking (fields : Fields) (b : Binding) : Fields :=
  fields.alter "bindings" (Json.mapItems (List.map (Json.strike b)))

namespace IsReadFrom

/-- **What is granted is read from one more entry.** -/
theorem grant (h : d.IsReadFrom fields (front ++ back)) (hrole : b.role ≠ "") :
    (d.grant b).1.IsReadFrom (inserting fields front b back)
      (front ++ b.entry :: back) where
  etag := by
    rw [inserting, Fields.get_put_of_ne (by decide), grant_etag, h.etag]
  version := by
    rw [inserting, Fields.get_put_of_ne (by decide), grant_version, h.version]
  conditional := by
    rw [grant_conditional, h.conditional, List.filterMap_append,
      List.filterMap_append, List.filterMap_cons_none (Json.aside?_entry b)]
  grants? := (h.isPruned.grant b).grants?
  tidy := tidy_grant h.tidy hrole
  lists r m := by
    have hnamed : r = b.role ∧ m = b.member → r ≠ "" := by
      rintro ⟨rfl, -⟩
      exact hrole
    rw [lists_grant h.tidy.distinct, h.lists, exists_mem_insertion,
      Json.lists_entry, and_or_left, and_iff_right_of_imp hnamed]

/-- **What is revoked is read from entries that were struck.** -/
theorem revoke (h : d.IsReadFrom fields entries)
    (hreadable : ∀ entry ∈ entries, entry.isReadable = true)
    (hrole : b.role ≠ "") :
    (d.revoke b).1.IsReadFrom (striking fields b)
      (entries.map (Json.strike b)) where
  etag := by
    rw [striking, Fields.get_alter_of_ne (by decide), revoke_etag, h.etag]
  version := by
    rw [striking, Fields.get_alter_of_ne (by decide), revoke_version, h.version]
  conditional := by
    rw [revoke_conditional, h.conditional, List.filterMap_map]
    exact List.filterMap_congr fun entry _ => (Json.aside?_strike b entry).symm
  grants? := (h.isPruned.revoke b).grants?
  tidy := tidy_revoke h.tidy hrole
  lists r m := by
    rw [lists_revoke h.tidy.distinct, h.lists]
    constructor
    · rintro ⟨hne, hname, entry, hentry, hlisted⟩
      exact ⟨hname, _, List.mem_map_of_mem hentry,
        (Json.lists_strike hrole (hreadable entry hentry)).mpr ⟨hne, hlisted⟩⟩
    · rintro ⟨hname, other, hother, hlisted⟩
      obtain ⟨entry, hentry, rfl⟩ := List.mem_map.mp hother
      obtain ⟨hne, hlisted⟩ :=
        (Json.lists_strike hrole (hreadable entry hentry)).mp hlisted
      exact ⟨hne, hname, entry, hentry, hlisted⟩

end IsReadFrom

/-- **To amend what was read is to read what was edited.**  To grant, an entry
for the pair is put in at any place of the list; to revoke, the member is struck
from every entry of the role that has no condition.  A list that is absent is
one without entries. -/
theorem amended_as_edited
    (hbindings : (Fields.get fields "bindings").orElse (.arr []) = .arr entries)
    (hreadable : ∀ entry ∈ entries, entry.isReadable = true)
    (hnames : (Json.obj fields).namesApart = true) (hrole : b.role ≠ "") :
    ∃ d, decode (.obj fields) = .ok d ∧
      (∀ front back, entries = front ++ back →
        ∃ edited, decode (.obj (inserting fields front b back)) = .ok edited ∧
          (d.grant b).1.same edited = true) ∧
      ∃ edited, decode (.obj (striking fields b)) = .ok edited ∧
        (d.revoke b).1.same edited = true := by
  obtain ⟨d, hdecode, hread⟩ := exists_isReadFrom hbindings hreadable
  have hapart := hread.namesApart hbindings hnames
  refine ⟨d, hdecode, fun front back hsplit => ?_, ?_⟩
  · subst hsplit
    have hinserted : (Fields.get (inserting fields front b back)
        "bindings").orElse (.arr []) =
          .arr (front ++ b.entry :: back) := by
      rw [inserting, Fields.get_put_self, Json.orElse_arr]
    have hreadable' : ∀ entry ∈ front ++ b.entry :: back,
        entry.isReadable = true := by
      intro entry hentry
      rcases List.mem_append.mp hentry with hfront | hback
      · exact hreadable entry (List.mem_append_left _ hfront)
      · rcases List.mem_cons.mp hback with rfl | hback
        · exact Json.isReadable_entry b
        · exact hreadable entry (List.mem_append_right _ hback)
    obtain ⟨edited, hedited, hread'⟩ := exists_isReadFrom hinserted hreadable'
    refine ⟨edited, hedited, (hread.grant hrole).same hread' ?_⟩
    rwa [namesApart, grant_etag, grant_version, grant_conditional]
  · have hstruck : (Fields.get (striking fields b) "bindings").orElse
        (.arr []) =
          .arr (entries.map (Json.strike b)) := by
      rw [striking, Fields.get_alter_self rfl,
        Json.orElse_mapItems hbindings rfl]
    obtain ⟨edited, hedited, hread'⟩ := exists_isReadFrom hstruck <|
      List.forall_mem_map.mpr
      fun entry hentry => Json.isReadable_strike hrole (hreadable entry hentry)
    refine ⟨edited, hedited, (hread.revoke hreadable hrole).same hread' ?_⟩
    rwa [namesApart, revoke_etag, revoke_version, revoke_conditional]

/-- A policy that names a role three times, once under a condition. -/
def repeated : Fields :=
  [("etag", .str "1"), ("bindings", .arr [
    .obj [("role", .str "r/1"),
      ("members", .arr [.str "u:a", .str "u:b", .str "u:a"])],
    .obj [("role", .str "r/1"), ("members", .arr [.str "u:a"]),
      ("condition", .obj [("title", .str "t")])],
    .obj [("role", .str "r/1"), ("members", .arr [.str "u:a"])]])]

theorem amended_as_edited_repeated :
    let b : Binding := ⟨"b", "r/1", "u:a"⟩
    ∃ d edited, decode (.obj repeated) = .ok d ∧
      decode (.obj [("etag", .str "1"), ("bindings", .arr [
        .obj [("role", .str "r/1"), ("members", .arr [.str "u:b"])],
        .obj [("role", .str "r/1"), ("members", .arr [.str "u:a"]),
          ("condition", .obj [("title", .str "t")])],
        .obj [("role", .str "r/1"), ("members", .arr [])]])]) = .ok edited ∧
      (d.revoke b).1.same edited = true := by
  intro b
  obtain ⟨d, hdecode, -, edited, hedited, hsame⟩ :=
    @amended_as_edited repeated _ b rfl (by decide) (by decide) (by decide)
  exact ⟨d, edited, hdecode, hedited, hsame⟩

end Policy

end GrantKeeper
