import GrantKeeper.Proofs.Fault.Steps
import GrantKeeper.Proofs.Policy.Content
import GrantKeeper.Proofs.Policy.Grants
import GrantKeeper.Storage.Client

/-!
# Grants survive every conversion

On its way between the store and the resolver a policy is converted four times.
None of the conversions loses or adds a pair of role and member, whatever else
the policy holds: entries may be malformed, roles may be repeated, and lists may
be in any order.  The statements start from a conversion that gave a result,
because a malformed policy may give none.

## Main results

* `Policy.isReadingOf_decode`, `Policy.mem_granted_encode` — the document form.
* `WirePolicy.granted_encode` — the form in transit.
* `Client.isReadingOf_policyOf` — what the resolver sees is what the store
  holds.
* `Client.mem_granted_payloadOf` — what is sent is what the resolver decided.
-/

namespace GrantKeeper

theorem Json.eq_obj_of_fields {value : Json} {fields : Fields}
    (h : value.fields = .ok fields) : value = .obj fields := by
  cases value <;> cases h
  rfl

/-! ## The document form -/

namespace Policy

open Grants

/-- The policy holds what a value says: its etag and version, and the pairs it
grants without condition. -/
structure IsReadingOf (d : Policy) (value : Json) : Prop where
  etag : d.etag = value.get "etag"
  version : d.version = value.get "version"
  distinct : d.grants.Distinct
  lists : ∀ r m, d.grants.Lists r m ↔ (r, m) ∈ (Content.of value).granted
  conditional : ∀ entry ∈ d.conditional,
    (Fields.get entry "condition").truthy = true

theorem IsReadingOf.holds_iff {d : Policy} {value : Json}
    (h : d.IsReadingOf value) {r m : String} :
    d.holds r m = true ↔ (r, m) ∈ (Content.of value).granted := by
  rw [Policy.holds_iff h.distinct, h.lists]

/-- Reading an object, case by case. -/
theorem Reading.add_obj (rd : Reading) (fields : Fields) :
    rd.add (.obj fields) =
      if (fields.get "role").truthy = false then .ok rd
      else if (fields.get "condition").truthy then
        .ok { rd with conditional := rd.conditional ++ [fields] }
      else if (fields.get "role").isKey then do
        let new ← ((fields.get "members").orElse (.arr [])).elements
        let members ← Keys.insertAll (rd.grants.members (fields.get "role")) new
        return { rd with grants := rd.grants.put (fields.get "role") members }
      else .error .notAKey := by
  unfold Reading.add
  cases hrole : (fields.get "role").truthy with
  | false => simp [hrole]
  | true =>
      cases hcondition : (fields.get "condition").truthy with
      | true => simp [hrole, hcondition]
      | false =>
          cases hkey : (fields.get "role").isKey with
          | true => simp [hrole, hcondition, hkey]
          | false =>
              simp only [hrole, hcondition, hkey]
              rfl

theorem encode_eq (d : Policy) :
    d.encode = match Json.sortedBy? Prod.fst d.grants with
      | some ordered => (encodeEntries ordered).map fun entries =>
          assembled d.etag d.version (entries ++ d.conditional.map .obj)
      | none => .error .notComparable := by
  unfold encode
  cases Json.sortedBy? Prod.fst d.grants with
  | none => rfl
  | some ordered =>
      simp only [pure_bind]
      cases encodeEntries ordered <;> rfl

/-- Reading an object is reading its entries. -/
theorem decode_obj {fields : Fields} {entries : List Json}
    (h : ((fields.get "bindings").orElse (.arr [])).elements = .ok entries) :
    decode (.obj fields) = ((⟨[], []⟩ : Reading).addAll entries).map fun last =>
      ⟨fields.get "etag", fields.get "version",
        some (last.grants.filter fun e => !e.2.isEmpty), last.conditional⟩ := by
  rw [decode, Json.orElse_obj]
  simp only [Json.fields, h, bind, Except.bind, pure, Except.pure]
  cases (⟨[], []⟩ : Reading).addAll entries <;> rfl

/-- Reading a policy that was put together is reading the entries. -/
theorem decode_assembled (etag version : Json) (entries : List Json) :
    decode (assembled etag version entries) =
      ((⟨[], []⟩ : Reading).addAll entries).map fun last =>
        ⟨etag, version, some (last.grants.filter fun e => !e.2.isEmpty),
          last.conditional⟩ := by
  have hetag := get_etag_assembled etag version entries
  have hversion := get_version_assembled etag version entries
  rw [assembled, Json.get_obj] at hetag hversion
  rw [assembled, decode_obj (elements_bindings etag version entries),
    hetag, hversion]

/-- What one entry adds to what was read before. -/
private structure Reading.IsNext (rd : Reading) (entry : Json)
    (next : Reading) : Prop where
  distinct : next.grants.Distinct
  lists : ∀ r m,
    next.grants.Lists r m ↔ rd.grants.Lists r m ∨ r ≠ "" ∧ entry.Lists r m
  conditional : ∀ c ∈ next.conditional,
    c ∈ rd.conditional ∨ (Fields.get c "condition").truthy = true

private theorem Reading.isNext_self {rd : Reading} {entry : Json}
    (h : rd.grants.Distinct)
    (hentry : ∀ r m, r ≠ "" → ¬ entry.Lists r m) : rd.IsNext entry rd := by
  refine ⟨h, fun r m => ?_, fun c hc => Or.inl hc⟩
  constructor
  · exact Or.inl
  · rintro (hl | ⟨hne, hl⟩)
    · exact hl
    · exact absurd hl (hentry r m hne)

private theorem Reading.isNext_add {rd next : Reading} {entry : Json}
    (h : rd.grants.Distinct)
    (hadd : rd.add entry = .ok next) : rd.IsNext entry next := by
  cases entry with
  | obj fields =>
      rw [add_obj] at hadd
      split at hadd
      · rename_i hrole
        cases hadd
        apply isNext_self h
        intro r m hne hl
        have hr : Fields.get fields "role" = .str r := hl.1
        rw [hr, Json.truthy_str] at hrole
        exact hne (by simpa using hrole)
      · rename_i hrole
        split at hadd
        · rename_i hcondition
          cases hadd
          refine ⟨h, fun r m => ?_, fun c hc => ?_⟩
          · constructor
            · exact Or.inl
            · rintro (hl | ⟨-, hl⟩)
              · exact hl
              · have hplain : (Fields.get fields "condition").truthy =
                    false := hl.2.1
                rw [hplain] at hcondition
                cases hcondition
          · rcases List.mem_append.mp hc with hold | hnew
            · exact Or.inl hold
            · rw [List.mem_singleton] at hnew
              exact Or.inr (hnew ▸ hcondition)
        · rename_i hcondition
          split at hadd
          · obtain ⟨new, hnew, hadd⟩ := exists_of_bind_eq_ok hadd
            obtain ⟨members, hmembers, hadd⟩ := exists_of_bind_eq_ok hadd
            cases hadd
            have hlisted : new = (Fields.get fields "members").listed :=
              (Json.listed_eq_of_orElse hnew).symm
            have hentry {r m : String} : (Json.obj fields).Lists r m ↔
                Fields.get fields "role" = .str r ∧ .str m ∈ new := by
              rw [hlisted]
              constructor
              · intro hl
                exact ⟨hl.1, hl.2.2⟩
              · rintro ⟨hr, hm⟩
                exact ⟨hr, Bool.eq_false_iff.mpr hcondition, hm⟩
            refine ⟨h.put _ _, fun r m => ?_, fun c hc => Or.inl hc⟩
            rw [lists_put h, Keys.str_mem_insertAll hmembers, hentry]
            by_cases hr : Fields.get fields "role" = .str r
            · have hne : r ≠ "" := by
                rintro rfl
                exact hrole (hr ▸ rfl)
              rw [hr, str_mem_members_iff h]
              simp [hne]
            · simp [hr]
          · cases hadd
  | _ =>
      cases hadd
      exact isNext_self h fun r m _ hl => by cases hl.1

private theorem Reading.lists_addAll {entries : List Json} {rd last : Reading}
    (h : rd.grants.Distinct) (hadd : rd.addAll entries = .ok last) :
    last.grants.Distinct ∧
      (∀ r m, last.grants.Lists r m ↔
        rd.grants.Lists r m ∨ r ≠ "" ∧ ∃ entry ∈ entries, entry.Lists r m) ∧
      ∀ c ∈ last.conditional,
        c ∈ rd.conditional ∨ (Fields.get c "condition").truthy = true := by
  induction entries generalizing rd with
  | nil =>
      cases hadd
      exact ⟨h, by simp, fun c hc => Or.inl hc⟩
  | cons entry rest ih =>
      obtain ⟨next, hnext, hrest⟩ := exists_of_bind_eq_ok hadd
      have hfirst := isNext_add h hnext
      obtain ⟨hdistinct, hlists, hconditional⟩ := ih hfirst.distinct hrest
      refine ⟨hdistinct, fun r m => ?_, fun c hc => ?_⟩
      · rw [hlists, hfirst.lists, List.exists_mem_cons_iff,
          and_or_left, or_assoc]
      · rcases hconditional c hc with hmid | htruthy
        · exact hfirst.conditional c hmid
        · exact Or.inr htruthy

private theorem get_orElse_obj (value : Json) (name : String) :
    (value.orElse (.obj [])).get name = value.get name := by
  unfold Json.orElse
  split
  · rfl
  · rename_i hfalsy
    cases value with
    | obj fields =>
        have hnil : fields = [] := by simpa using hfalsy
        rw [hnil]
    | _ => rfl

/-- A role that keeps no members does not matter for who is listed. -/
theorem lists_filter {g : Grants} {r m : String} :
    Lists (g.filter fun entry => !entry.2.isEmpty) r m ↔ g.Lists r m := by
  constructor
  · rintro ⟨keys, hkeys, hm⟩
    exact ⟨keys, (List.mem_filter.mp hkeys).1, hm⟩
  · rintro ⟨keys, hkeys, hm⟩
    refine ⟨keys, List.mem_filter.mpr ⟨hkeys, ?_⟩, hm⟩
    cases keys with
    | nil => exact absurd hm List.not_mem_nil
    | cons k ks => rfl

/-- **A policy that was read says what the value says.** -/
theorem isReadingOf_decode {value : Json} {d : Policy}
    (h : decode value = .ok d) : d.IsReadingOf value := by
  obtain ⟨fields, hfields, h⟩ := exists_of_bind_eq_ok h
  obtain ⟨entries, hentries, h⟩ := exists_of_bind_eq_ok h
  obtain ⟨reading, hreading, h⟩ := exists_of_bind_eq_ok h
  cases h
  have hget (name : String) : fields.get name = value.get name := by
    rw [← get_orElse_obj value, Json.eq_obj_of_fields hfields, Json.get_obj]
  have hlisted : (value.get "bindings").listed = entries := by
    rw [← hget, Json.listed_eq_of_orElse hentries]
  have hstart : Distinct (Reading.mk [] []).grants := List.nodup_nil
  obtain ⟨hdistinct, hlists, hconditional⟩ :=
    Reading.lists_addAll hstart hreading
  refine ⟨hget _, hget _, hdistinct.filter _, fun r m => ?_, fun c hc => ?_⟩
  · have hnone : ¬ Lists (Reading.mk [] []).grants r m := by
      rintro ⟨keys, hkeys, -⟩
      exact List.not_mem_nil hkeys
    rw [Policy.grants, Option.getD_some, lists_filter, hlists,
      Content.mem_granted, hlisted]
    simp [hnone]
  · rcases hconditional c hc with hold | htruthy
    · exact absurd hold List.not_mem_nil
    · exact htruthy

private theorem lists_encodeEntries {g : Grants} {entries : List Json}
    (h : encodeEntries g = .ok entries) {r m : String} :
    (∃ entry ∈ entries, entry.Lists r m) ↔ g.Lists r m := by
  induction g generalizing entries with
  | nil =>
      cases h
      simp [Grants.Lists]
  | cons e rest ih =>
      have hcons : Lists (e :: rest) r m ↔
          (e.1 = .str r ∧ .str m ∈ e.2) ∨ Lists rest r m := by
        constructor
        · rintro ⟨keys, hkeys, hm⟩
          rcases List.mem_cons.mp hkeys with heq | hrest
          · exact Or.inl (heq ▸ ⟨rfl, hm⟩)
          · exact Or.inr ⟨keys, hrest, hm⟩
        · rintro (⟨hr, hm⟩ | ⟨keys, hkeys, hm⟩)
          · exact ⟨e.2, List.mem_cons.mpr (Or.inl (Prod.ext hr.symm rfl)), hm⟩
          · exact ⟨keys, List.mem_cons_of_mem e hkeys, hm⟩
      unfold encodeEntries at h
      split at h
      · rename_i hempty
        rw [List.isEmpty_iff] at hempty
        rw [ih h, hcons, hempty]
        simp
      · obtain ⟨first, hfirst, h⟩ := exists_of_bind_eq_ok h
        obtain ⟨others, hothers, h⟩ := exists_of_bind_eq_ok h
        cases h
        obtain ⟨sorted, hsorted, hentry⟩ := exists_of_bind_eq_ok hfirst
        cases hentry
        have hwritten :
            (Json.obj [("role", e.1), ("members", .arr sorted)]).Lists r m ↔
              e.1 = .str r ∧ .str m ∈ e.2 := by
          rw [← (Json.sort_perm hsorted).mem_iff]
          constructor
          · intro hl
            exact ⟨hl.1, hl.2.2⟩
          · rintro ⟨hr, hm⟩
            exact ⟨hr, rfl, hm⟩
        rw [List.exists_mem_cons_iff, ih hothers, hwritten, hcons]

/-- **What a policy is written as grants what the policy lists.** -/
theorem mem_granted_encode {d : Policy} {value : Json}
    (h : d.encode = .ok value)
    (hconditional : ∀ entry ∈ d.conditional,
      (Fields.get entry "condition").truthy = true) :
    value.get "etag" = d.etag ∧ value.get "version" = d.version ∧
      ∀ r m, (r, m) ∈ (Content.of value).granted ↔
        r ≠ "" ∧ d.grants.Lists r m := by
  rw [encode_eq] at h
  split at h
  case h_2 => cases h
  rename_i ordered hordered
  obtain ⟨entries, hentries, rfl⟩ := exists_of_map_eq_ok h
  have hperm : ordered.Perm d.grants := Json.sortedBy?_perm hordered
  refine ⟨get_etag_assembled _ _ _, get_version_assembled _ _ _, ?_⟩
  intro r m
  have hwritten : (∃ entry ∈ entries ++ d.conditional.map .obj,
      entry.Lists r m) ↔
        d.grants.Lists r m := by
    have hlists : d.grants.Lists r m ↔ Lists ordered r m := by
      simp only [Grants.Lists, hperm.mem_iff]
    rw [hlists, ← lists_encodeEntries hentries]
    constructor
    · rintro ⟨entry, hentry, hl⟩
      rcases List.mem_append.mp hentry with hplain | hcond
      · exact ⟨entry, hplain, hl⟩
      · obtain ⟨fields, hfields, rfl⟩ := List.mem_map.mp hcond
        have hplain : (Fields.get fields "condition").truthy = false := hl.2.1
        rw [hconditional fields hfields] at hplain
        cases hplain
    · rintro ⟨entry, hentry, hl⟩
      exact ⟨entry, List.mem_append_left _ hentry, hl⟩
  rw [Content.mem_granted, listed_bindings_assembled, hwritten]

end Policy

/-! ## The form in transit -/

namespace WireEntry

theorem encode_eq (w : WireEntry) :
    w.encode = match w.fields.lookup "role" with
      | some role => (Json.sort w.members).map fun members =>
          [("role", role), ("members", .arr members)] ++
            if (w.fields.get "condition").truthy then
              [("condition", w.fields.get "condition")]
            else []
      | none => .error (.missingField "role") := by
  unfold encode
  cases w.fields.lookup "role" with
  | none => rfl
  | some role => cases Json.sort w.members <;> rfl

/-- What an entry in transit lists without condition. -/
private theorem lists_encode {entry : Json} {w : WireEntry}
    (h : decode entry = .ok w)
    {r m : String} : (∀ fields, w.encode = .ok fields →
      ((Json.obj fields).Lists r m ↔ entry.Lists r m)) ∧
      (w.members.isEmpty = true → ¬ entry.Lists r m) := by
  obtain ⟨fields, hfields, h⟩ := exists_of_bind_eq_ok h
  obtain ⟨listed, hlisted, h⟩ := exists_of_bind_eq_ok h
  obtain ⟨members, hmembers, h⟩ := exists_of_bind_eq_ok h
  cases h
  obtain rfl := Json.eq_obj_of_fields hfields
  have hmem : .str m ∈ members ↔
      .str m ∈ ((Json.obj fields).get "members").listed := by
    have heq : ((Json.obj fields).get "members").listed = listed := by
      rw [← Json.listed_of_elements hlisted, Json.get_obj, Fields.get]
      cases fields.lookup "members" <;> rfl
    rw [Keys.str_mem_insertAll hmembers, heq]
    simp
  constructor
  · intro out hout
    rw [encode_eq] at hout
    split at hout
    case h_2 => cases hout
    rename_i role hrole
    obtain ⟨sorted, hsorted, rfl⟩ := exists_of_map_eq_ok hout
    have hr : (Json.obj fields).get "role" = role := Fields.get_of_lookup hrole
    have hwritten : .str m ∈ sorted ↔
        .str m ∈ ((Json.obj fields).get "members").listed := by
      rw [(Json.sort_perm hsorted).mem_iff, hmem]
    have hcondition (c : Json) :
        (Fields.get ([("role", role), ("members", .arr sorted)] ++
          if c.truthy then [("condition", c)] else []) "condition").truthy =
            c.truthy := by
      cases hc : c.truthy with
      | true => exact hc
      | false => rfl
    rw [Json.Lists, Json.Lists, ← hwritten, hr, Json.get_obj, Json.get_obj,
      Json.get_obj, hcondition]
    exact Iff.rfl
  · intro hempty hl
    have hnil : members = [] := List.isEmpty_iff.mp hempty
    have hin := hmem.mpr hl.2.2
    rw [hnil] at hin
    exact List.not_mem_nil hin

private theorem lists_encodeAll {entries : List Json} {ws : List WireEntry}
    {out : List Fields}
    (h : decodeAll entries = .ok ws) (hout : encodeAll ws = .ok out)
    {r m : String} :
    (∃ fields ∈ out, (Json.obj fields).Lists r m) ↔
      ∃ entry ∈ entries, entry.Lists r m := by
  induction entries generalizing ws out with
  | nil =>
      cases h
      cases hout
      simp
  | cons entry rest ih =>
      obtain ⟨w, hw, h⟩ := exists_of_bind_eq_ok h
      obtain ⟨ws', hws, h⟩ := exists_of_bind_eq_ok h
      cases h
      obtain ⟨hfirst, hnone⟩ := lists_encode (r := r) (m := m) hw
      unfold encodeAll at hout
      split at hout
      · rename_i hempty
        rw [ih hws hout, List.exists_mem_cons_iff]
        simp [hnone hempty]
      · obtain ⟨fields, hfields, hout⟩ := exists_of_bind_eq_ok hout
        obtain ⟨others, hothers, hout⟩ := exists_of_bind_eq_ok hout
        cases hout
        rw [List.exists_mem_cons_iff, List.exists_mem_cons_iff,
          hfirst fields hfields, ih hws hothers]

end WireEntry

/-- **A policy grants the same after it was in transit.** -/
theorem WirePolicy.granted_encode {value out : Json} {w : WirePolicy}
    (h : decode value = .ok w) (hout : w.encode = .ok out) :
    out.get "etag" = value.get "etag" ∧
    out.get "version" = value.get "version" ∧
      (Content.of out).granted = (Content.of value).granted := by
  obtain ⟨fields, hfields, h⟩ := exists_of_bind_eq_ok h
  obtain ⟨entries, hentries, h⟩ := exists_of_bind_eq_ok h
  obtain ⟨ws, hws, h⟩ := exists_of_bind_eq_ok h
  cases h
  obtain rfl := Json.eq_obj_of_fields hfields
  obtain ⟨written, hwritten, hout⟩ := exists_of_bind_eq_ok hout
  split at hout
  · cases hout
  · rename_i ordered hordered
    cases hout
    have hperm := Json.sortedBy?_perm hordered
    refine ⟨Policy.get_etag_assembled _ _ _,
      Policy.get_version_assembled _ _ _, ?_⟩
    have hlisted : ((Json.obj fields).get "bindings").listed = entries := by
      rw [← Json.listed_of_elements hentries, Json.get_obj, Fields.get]
      cases fields.lookup "bindings" <;> rfl
    ext ⟨r, m⟩
    rw [Content.mem_granted, Content.mem_granted, hlisted,
      ← WireEntry.lists_encodeAll hws hwritten]
    have hassembled := Policy.listed_bindings_assembled (fields.get "etag")
      (fields.get "version")
      (ordered.map .obj)
    rw [Policy.assembled] at hassembled
    rw [hassembled]
    simp only [List.mem_map, exists_exists_and_eq_and, hperm.mem_iff]

/-! ## Both together -/

namespace Client

/-- **What the resolver sees is what the store holds.** -/
theorem isReadingOf_policyOf {reply : Json} {d : Policy}
    (h : policyOf reply = .ok d) : d.IsReadingOf reply := by
  obtain ⟨w, hw, h⟩ := exists_of_bind_eq_ok h
  obtain ⟨value, hvalue, h⟩ := exists_of_bind_eq_ok h
  obtain ⟨hetag, hversion, hgranted⟩ := WirePolicy.granted_encode hw hvalue
  have hread := Policy.isReadingOf_decode h
  refine ⟨hread.etag.trans hetag, hread.version.trans hversion,
    hread.distinct, ?_, hread.conditional⟩
  intro r m
  rw [hread.lists, hgranted]

/-- **What is sent is what the resolver decided.** -/
theorem mem_granted_payloadOf {d : Policy} {payload : Json}
    (h : payloadOf d = .ok payload)
    (hconditional : ∀ entry ∈ d.conditional,
      (Fields.get entry "condition").truthy = true) :
    payload.get "etag" = d.etag ∧ payload.get "version" = d.version ∧
      ∀ r m, (r, m) ∈ (Content.of payload).granted ↔
        r ≠ "" ∧ d.grants.Lists r m := by
  obtain ⟨value, hvalue, h⟩ := exists_of_bind_eq_ok h
  obtain ⟨w, hw, h⟩ := exists_of_bind_eq_ok h
  obtain ⟨hetag, hversion, hgranted⟩ := WirePolicy.granted_encode hw h
  obtain ⟨hetag', hversion', hlists⟩ :=
    Policy.mem_granted_encode hvalue hconditional
  refine ⟨hetag.trans hetag', hversion.trans hversion', ?_⟩
  intro r m
  rw [hgranted, hlists]

end Client

end GrantKeeper
