import GrantKeeper.Proofs.Policy.Codec

/-!
# Entries that can be read

A reader goes through the entries of a policy in order.  It skips what is no
object or names no role, sets conditional entries aside as they are, and puts
the members of all others to the role that they name.  So what is read of a list
is known entry by entry: `Json.aside?` tells what is set aside, `Json.Lists` who
is granted what, and as long as every entry is `Json.isReadable`, reading never
fails.

## Main results

* `Reading.exists_add` — an entry that can be read is read, and grants stay a
  map of texts.
* `Policy.exists_decode` — so is a whole policy.
* `Policy.decode_loses_nothing` — the grants and the conditional entries of what
  was read.
* `Policy.decode_without_list` — what is read where the entries are no list.
-/

namespace GrantKeeper

namespace Json

/-- The value is a list of texts. -/
def isTexts : Json → Bool
  | .arr items => items.all isStr
  | _ => false

/-- The entry is skipped, set aside, or grants a role to members that are all
texts. -/
def isReadable : Json → Bool
  | .obj fields =>
      !(Fields.get fields "role").truthy ||
        (Fields.get fields "condition").truthy ||
        (Fields.get fields "role").isStr &&
          ((Fields.get fields "members").orElse (.arr [])).isTexts
  | _ => true

/-- The value can be walked through, a falsy one as an empty list. -/
def isWalkable : Json → Bool
  | .arr _ | .obj _ | .str _ => true
  | value => !value.truthy

/-- The fields of an entry that is set aside, because it names a role and has a
condition. -/
def aside? : Json → Option Fields
  | .obj fields =>
      if (Fields.get fields "role").truthy &&
        (Fields.get fields "condition").truthy then some fields
      else none
  | _ => none

theorem exists_of_isStr {value : Json} (h : value.isStr = true) :
    ∃ s, value = .str s := by
  cases value with
  | str s => exact ⟨s, rfl⟩
  | _ => cases h

theorem exists_of_isTexts {value : Json} (h : value.isTexts = true) :
    ∃ ss : List String, value = .arr (ss.map .str) := by
  cases value with
  | arr items => exact ⟨texts items, congrArg arr (map_str_texts h).symm⟩
  | _ => cases h

theorem eq_obj_of_aside? {entry : Json} {fields : Fields}
    (h : entry.aside? = some fields) : entry = .obj fields := by
  cases entry with
  | obj own =>
      rw [aside?] at h
      split at h
      · exact congrArg obj (Option.some.inj h)
      · cases h
  | _ => cases h

end Json

namespace Policy

open Grants

/-! ## Reading entry by entry -/

/-- **An entry that can be read is read**: grants stay a map from names to
texts, and the entry is set aside if it has to be. -/
theorem Reading.exists_add {rd : Reading} {entry : Json}
    (hgrants : rd.grants.OfNames) (h : entry.isReadable = true) :
    ∃ next, rd.add entry = .ok next ∧ next.grants.OfNames ∧
      next.conditional = rd.conditional ++ entry.aside?.toList := by
  cases entry with
  | obj fields =>
      rw [add_obj, Json.aside?]
      by_cases hrole : (Fields.get fields "role").truthy = true
      · by_cases hcondition : (Fields.get fields "condition").truthy = true
        · refine ⟨⟨rd.grants, rd.conditional ++ [fields]⟩, ?_, hgrants, ?_⟩
          · simp [hrole, hcondition]
          · simp [hrole, hcondition]
        · simp only [Json.isReadable, hrole, hcondition, Bool.not_true,
            Bool.false_or, Bool.and_eq_true] at h
          obtain ⟨role, hname⟩ := Json.exists_of_isStr h.1
          obtain ⟨ss, hmembers⟩ := Json.exists_of_isTexts h.2
          have hne : role ≠ "" := by
            intro hempty
            simp [hname, hempty] at hrole
          obtain ⟨old, hold, hnodup⟩ := hgrants.exists_members role
          obtain ⟨new, hnew, hnodup', -⟩ := Keys.insertAll_texts hnodup ss
          refine ⟨⟨rd.grants.put (.str role) (new.map .str),
            rd.conditional⟩, ?_, hgrants.put hne hnodup', ?_⟩
          · simp only [hname, hmembers, hold, hnew, hcondition, Json.truthy_str,
              Json.isKey_str,
              Json.elements, bind, Except.bind, pure, Except.pure]
            simp [hne]
          · simp [hcondition]
      · have hnone : (Fields.get fields "role").truthy = false :=
          Bool.eq_false_iff.mpr hrole
        refine ⟨rd, ?_, hgrants, ?_⟩
        · simp [hnone]
        · simp [hnone]
  | _ => exact ⟨rd, rfl, hgrants, (List.append_nil _).symm⟩

/-- A list of entries that can be read is read. -/
theorem Reading.exists_addAll {entries : List Json} {rd : Reading}
    (hgrants : rd.grants.OfNames)
    (h : ∀ entry ∈ entries, entry.isReadable = true) :
    ∃ last, rd.addAll entries = .ok last ∧ last.grants.OfNames ∧
      last.conditional = rd.conditional ++ entries.filterMap Json.aside? := by
  induction entries generalizing rd with
  | nil => exact ⟨rd, rfl, hgrants, by simp⟩
  | cons entry rest ih =>
      obtain ⟨next, hnext, hgrants', hconditional⟩ :=
        exists_add hgrants (h entry List.mem_cons_self)
      obtain ⟨last, hlast, hgrants'', hconditional'⟩ :=
        ih hgrants' fun other hother =>
          h other (List.mem_cons_of_mem entry hother)
      refine ⟨last, ?_, hgrants'', ?_⟩
      · simp only [addAll, hnext, bind, Except.bind, hlast]
      · rw [hconditional', hconditional, List.append_assoc]
        cases haside : entry.aside? with
        | none => simp [haside]
        | some fields => simp [haside]

/-! ## Reading a policy -/

/-- **A policy whose entries can be read is read.** -/
theorem exists_decode {fields : Fields} {entries : List Json}
    (hbindings : ((Fields.get fields "bindings").orElse (.arr [])).elements =
      .ok entries)
    (h : ∀ entry ∈ entries, entry.isReadable = true) :
    ∃ d, decode (.obj fields) = .ok d ∧ d.IsReadingOf (.obj fields) ∧
      d.grants? = some d.grants ∧ d.grants.Tidy ∧
      d.conditional = entries.filterMap Json.aside? := by
  obtain ⟨last, hlast, hgrants, hconditional⟩ :=
    @Reading.exists_addAll entries ⟨[], []⟩ ofNames_nil h
  have hdecode := decode_obj hbindings
  rw [hlast] at hdecode
  exact ⟨_, hdecode, isReadingOf_decode hdecode, rfl, hgrants.tidy,
    hconditional⟩

/-- So is a policy that was put together from entries that can be read. -/
theorem exists_decode_assembled {entries : List Json}
    (h : ∀ entry ∈ entries, entry.isReadable = true) (etag version : Json) :
    ∃ d, decode (assembled etag version entries) = .ok d ∧
      d.IsReadingOf (assembled etag version entries) ∧
      d.grants? = some d.grants ∧ d.grants.Tidy ∧
      d.conditional = entries.filterMap Json.aside? :=
  exists_decode (elements_bindings etag version entries) h

/-- The grants of what was read are those that its entries list under a name. -/
theorem IsReadingOf.lists_iff {d : Policy} {fields : Fields}
    (h : d.IsReadingOf (.obj fields)) {entries : List Json}
    (hbindings : ((Fields.get fields "bindings").orElse (.arr [])).elements =
      .ok entries)
    (role member : String) :
    d.grants.Lists role member ↔
      role ≠ "" ∧ ∃ entry ∈ entries, entry.Lists role member := by
  rw [h.lists, Content.mem_granted, Json.get_obj,
    Json.listed_eq_of_orElse hbindings]

/-- **What is read has every grant of the entries, and no other.**  A member
holds a role iff some entry without condition lists it under that role, which
has to be a name; a role is a key iff somebody holds it; and the conditional
entries are set aside whole, in their order. -/
theorem decode_loses_nothing {fields : Fields} {entries : List Json}
    (hbindings : (Fields.get fields "bindings").orElse (.arr []) = .arr entries)
    (h : ∀ entry ∈ entries, entry.isReadable = true) :
    ∃ d bindings, decode (.obj fields) = .ok d ∧ d.grants? = some bindings ∧
      d.etag = Fields.get fields "etag" ∧
      d.version = Fields.get fields "version" ∧
      (∀ role, ∃ members : List String,
        d.members role = members.map .str ∧ members.Nodup ∧
        ∀ member, member ∈ members ↔
          role ≠ "" ∧ ∃ entry ∈ entries, entry.Lists role member) ∧
      (bindings.map Prod.fst).Nodup ∧
      (∀ key, key ∈ bindings.map Prod.fst ↔ ∃ role member, key = .str role ∧
        role ≠ "" ∧ ∃ entry ∈ entries, entry.Lists role member) ∧
      d.conditional = entries.filterMap Json.aside? := by
  have helements : ((Fields.get fields "bindings").orElse (.arr [])).elements =
      .ok entries :=
    congrArg Json.elements hbindings
  obtain ⟨d, hdecode, hread, hgrants, htidy, hconditional⟩ :=
    exists_decode helements h
  have hlists := hread.lists_iff helements
  refine ⟨d, d.grants, hdecode, hgrants, hread.etag, hread.version, ?_,
    htidy.ofTexts.nodup_keys, ?_, hconditional⟩
  · intro role
    obtain ⟨members, hmembers, hnodup⟩ := htidy.ofTexts.exists_members role
    refine ⟨members, hmembers, hnodup, ?_⟩
    intro member
    rw [← hlists, ← str_mem_members_iff htidy.distinct, ← Json.str_mem_map_str,
      ← hmembers]
  · intro key
    rw [htidy.mem_keys]
    simp only [hlists]

/-- A policy with a role in two entries, a conditional entry, and one that is
none. -/
def scattered : Fields :=
  [("etag", .str "1"), ("bindings", .arr [
    .obj [("role", .str "r/1"), ("members", .arr [.str "u:a", .str "u:a"])],
    .int 3,
    .obj [("role", .str "r/2"), ("members", .arr [.str "u:b"]),
      ("condition", .bool true)],
    .obj [("role", .str "r/1"), ("members", .arr [.str "u:c"]),
      ("condition", .null)]])]

theorem decode_loses_nothing_scattered :
    ∃ d, decode (.obj scattered) = .ok d ∧ d.holds "r/1" "u:c" = true ∧
      d.holds "r/2" "u:b" = false ∧ d.conditional.length = 1 := by
  obtain ⟨d, bindings, hdecode, -, -, -, hmembers, -, -, hconditional⟩ :=
    @decode_loses_nothing scattered _ rfl (by decide)
  obtain ⟨first, hfirst, -, hlistsFirst⟩ := hmembers "r/1"
  obtain ⟨second, hsecond, -, hlistsSecond⟩ := hmembers "r/2"
  refine ⟨d, hdecode, ?_, ?_, ?_⟩
  · rw [holds, hfirst, Keys.has_str_iff, Json.str_mem_map_str]
    exact (hlistsFirst "u:c").mpr (by decide)
  · have hnone : "u:b" ∉ second :=
      fun hin => absurd ((hlistsSecond "u:b").mp hin) (by decide)
    rw [holds, hsecond, Bool.eq_false_iff, ne_eq, Keys.has_str_iff,
      Json.str_mem_map_str]
    exact hnone
  · rw [hconditional]
    rfl

/-- An entry without a name for its role grants nothing. -/
theorem unnamed_grant_skipped :
    let entry : Json := .obj [("role", .str ""), ("members", .arr [.str "u:a"])]
    entry.isReadable = true ∧ entry.Lists "" "u:a" ∧
      ∃ d, decode (.obj [("bindings", .arr [entry])]) = .ok d ∧
        d.members "" = [] := by
  intro entry
  exact ⟨by decide, by decide, _, rfl, rfl⟩

/-! ## Bindings that are no list -/

/-- Texts are no entries, so they are passed over. -/
theorem Reading.addAll_of_isStr {entries : List Json}
    (h : entries.all Json.isStr = true)
    (rd : Reading) : rd.addAll entries = .ok rd := by
  induction entries with
  | nil => rfl
  | cons entry rest ih =>
      rw [List.all_cons, Bool.and_eq_true] at h
      obtain ⟨s, rfl⟩ := Json.exists_of_isStr h.1
      exact ih h.2

/-- The elements of what is no list are texts: the characters of a text, or the
names of fields. -/
theorem elements_without_list {value : Json} (h : ∀ items, value ≠ .arr items) :
    (∃ entries, (value.orElse (.arr [])).elements = .ok entries ∧
      entries.all Json.isStr = true) ∧ value.isWalkable = true ∨
      (value.orElse (.arr [])).elements = .error .notASequence ∧
      value.isWalkable = false := by
  cases htruthy : value.truthy with
  | false =>
      have hempty : value.orElse (.arr []) = .arr [] := by
        rw [Json.orElse, htruthy, if_neg Bool.false_ne_true]
      refine Or.inl ⟨⟨[], by rw [hempty, Json.elements], rfl⟩, ?_⟩
      cases value with
      | arr items => rfl
      | obj fields => rfl
      | str s => rfl
      | _ => simp [Json.isWalkable, htruthy]
  | true =>
      rw [Json.orElse, htruthy, if_pos rfl]
      cases value with
      | null => cases htruthy
      | arr items => exact absurd rfl (h items)
      | obj fields =>
          refine Or.inl ⟨⟨_, rfl, ?_⟩, rfl⟩
          rw [List.all_map]
          exact List.all_eq_true.mpr fun _ _ => rfl
      | str s =>
          refine Or.inl ⟨⟨_, rfl, ?_⟩, rfl⟩
          rw [List.all_map]
          exact List.all_eq_true.mpr fun _ _ => rfl
      | _ => exact Or.inr ⟨rfl, by simp [Json.isWalkable, htruthy]⟩

/-- **Bindings that are no list are read as none**, unless they cannot be walked
through. -/
theorem decode_without_list {fields : Fields}
    (h : ∀ items, Fields.get fields "bindings" ≠ .arr items) :
    decode (.obj fields) =
      if (Fields.get fields "bindings").isWalkable then
        .ok ⟨Fields.get fields "etag", Fields.get fields "version", some [], []⟩
      else .error .notASequence := by
  rcases elements_without_list h
    with ⟨⟨entries, hentries, htexts⟩, hwalk⟩ | ⟨hnone, hwalk⟩
  · rw [if_pos hwalk, decode_obj hentries, Reading.addAll_of_isStr htexts]
    rfl
  · rw [if_neg (Bool.eq_false_iff.mp hwalk), decode, Json.orElse_obj]
    simp only [Json.fields, hnone, bind, Except.bind]

theorem decode_without_list_named :
    decode (.obj [("etag", .str "1"),
      ("bindings", .obj [("role", .str "r"), ("members", .str "u:a")])]) =
        .ok ⟨.str "1", .null, some [], []⟩ := by
  have hshape : ∀ items,
      Fields.get [("etag", .str "1"),
        ("bindings", .obj [("role", .str "r"), ("members", .str "u:a")])]
          "bindings" ≠ .arr items := by
    intro items hitems
    cases hitems
  exact decode_without_list hshape

/-- A number is no list, and is not read as an empty one. -/
theorem number_not_walkable :
    (∀ items, Fields.get [("bindings", .int 5)] "bindings" ≠ .arr items) ∧
      decode (.obj [("bindings", .int 5)]) = .error .notASequence := by
  refine ⟨fun items hitems => ?_, rfl⟩
  cases hitems

end Policy

end GrantKeeper
