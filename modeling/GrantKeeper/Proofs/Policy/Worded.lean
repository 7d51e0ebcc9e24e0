import GrantKeeper.Proofs.Policy.Entries
import GrantKeeper.Proofs.Policy.Rereading

/-!
# Policies in words

A reply whose entries name texts and list texts is always read, whatever
conditions it has, however often it names a role, and also where the role is the
empty text or nobody is listed.  What is read of it has texts for roles and
members, and so has every amendment of it by a named role; so it can be written
again.

## Main results

* `WirePolicy.exists_encode_of_isWorded` — a reply in words gets through
  transit.
* `Client.exists_policyOf_of_isWorded` — and is read.
* `Policy.InWords.amended` — an amendment leaves a policy in words.
-/

namespace GrantKeeper

/-! ## Replies -/

namespace Json

/-- The value is an object with a text for its role and a list of texts for its
members. -/
def isWordedEntry : Json → Bool
  | .obj fields =>
      (match fields.lookup "role" with
        | some role => role.isStr
        | none => false) &&
      (match fields.lookup "members" with
        | some members => members.isTexts
        | none => false)
  | _ => false

/-- The value is an object whose bindings, if it has any, are entries in
words. -/
def isWorded : Json → Bool
  | .obj fields =>
      match fields.lookup "bindings" with
      | none => true
      | some (.arr entries) => entries.all isWordedEntry
      | _ => false
  | _ => false

theorem exists_of_isWordedEntry {entry : Json}
    (h : entry.isWordedEntry = true) :
    ∃ (fields : Fields) (role : String) (members : List String),
      entry = .obj fields ∧ fields.lookup "role" = some (.str role) ∧
        fields.lookup "members" = some (.arr (members.map .str)) := by
  cases entry with
  | obj fields =>
      rw [isWordedEntry, Bool.and_eq_true] at h
      obtain ⟨hrole, hmembers⟩ := h
      split at hrole
      · rename_i value hlookup
        obtain ⟨role, rfl⟩ := exists_of_isStr hrole
        split at hmembers
        · rename_i value hlookup'
          obtain ⟨members, rfl⟩ := exists_of_isTexts hmembers
          exact ⟨fields, role, members, rfl, hlookup, hlookup'⟩
        · cases hmembers
      · cases hrole
  | _ => cases h

theorem exists_of_isWorded {value : Json} (h : value.isWorded = true) :
    ∃ (fields : Fields) (entries : List Json), value = .obj fields ∧
      (fields.lookup "bindings").getD (.arr []) = .arr entries ∧
      ∀ entry ∈ entries, entry.isWordedEntry = true := by
  cases value with
  | obj fields =>
      rw [isWorded] at h
      split at h
      · rename_i hlookup
        exact ⟨fields, [], rfl, by rw [hlookup]; rfl, by simp⟩
      · rename_i entries hlookup
        exact ⟨fields, entries, rfl, by rw [hlookup]; rfl,
          List.all_eq_true.mp h⟩
      · cases h
  | _ => cases h

end Json

/-! ## In transit -/

/-- An entry as transit leaves it: the role and the members are texts. -/
def IsWording (entry : Fields) : Prop :=
  ∃ (role : String) (members : List String) (condition : Json),
    entry = [("role", .str role), ("members", .arr (members.map .str))] ++
      if condition.truthy then [("condition", condition)] else []

theorem IsWording.get_role {entry : Fields} (h : IsWording entry) :
    Fields.get entry "role" = .str (entryRole entry) := by
  obtain ⟨role, members, condition, rfl⟩ := h
  rfl

theorem IsWording.isReadable {entry : Fields} (h : IsWording entry) :
    (Json.obj entry).isReadable = true := by
  obtain ⟨role, members, condition, rfl⟩ := h
  have hrole : Fields.get
      ([("role", Json.str role), ("members", .arr (members.map .str))] ++
      if condition.truthy then [("condition", condition)] else []) "role" =
        .str role := rfl
  have hmembers : Fields.get
      ([("role", Json.str role), ("members", .arr (members.map .str))] ++
      if condition.truthy then [("condition", condition)] else []) "members" =
        .arr (members.map .str) := rfl
  rw [Json.isReadable, hrole, hmembers, Json.orElse_arr, Json.isTexts,
    Json.all_isStr_map_str]
  simp [Json.isStr]

namespace WireEntry

private theorem exists_encode {value : Json} (h : value.isWordedEntry = true) :
    ∃ w out, decode value = .ok w ∧ w.encode = .ok out ∧ IsWording out := by
  obtain ⟨fields, role, members, rfl, hrole, hmembers⟩ :=
    Json.exists_of_isWordedEntry h
  obtain ⟨new, hnew, hnodup, -⟩ := Keys.insertAll_texts List.nodup_nil members
  have hlisted : ((fields.lookup "members").getD (.arr [])).elements =
      .ok (members.map .str) := by
    rw [hmembers]
    rfl
  refine ⟨_, _, decode_of_elements hlisted hnew, ?_, role, new.toFinset.sort,
    fields.get "condition", rfl⟩
  rw [encode_eq]
  simp only [hrole, Json.sort_texts hnodup, Except.map]

private theorem exists_encodeAll {values : List Json}
    (h : ∀ value ∈ values, value.isWordedEntry = true) :
    ∃ ws outs, decodeAll values = .ok ws ∧ encodeAll ws = .ok outs ∧
      ∀ out ∈ outs, IsWording out := by
  induction values with
  | nil => exact ⟨[], [], rfl, rfl, by simp⟩
  | cons value rest ih =>
      obtain ⟨w, out, hw, hout, hwording⟩ :=
        exists_encode (h value List.mem_cons_self)
      obtain ⟨ws, outs, hws, houts, hwordings⟩ :=
        ih fun other hother => h other (List.mem_cons_of_mem value hother)
      have hdecode : decodeAll (value :: rest) = .ok (w :: ws) := by
        simp only [decodeAll, hw, hws, bind, Except.bind, pure, Except.pure]
      by_cases hempty : w.members.isEmpty = true
      · exact ⟨w :: ws, outs, hdecode, by rw [encodeAll, if_pos hempty, houts],
          hwordings⟩
      · refine ⟨w :: ws, out :: outs, hdecode, ?_, ?_⟩
        · rw [encodeAll, if_neg hempty]
          simp only [hout, houts, bind, Except.bind, pure, Except.pure]
        · exact List.forall_mem_cons.mpr ⟨hwording, hwordings⟩

end WireEntry

/-- **A reply in words gets through transit.** -/
theorem WirePolicy.exists_encode_of_isWorded {value : Json}
    (h : value.isWorded = true) :
    ∃ (w : WirePolicy) (entries : List Fields), decode value = .ok w ∧
      w.encode = .ok (Policy.assembled w.etag w.version (entries.map .obj)) ∧
      ∀ entry ∈ entries, IsWording entry := by
  obtain ⟨fields, values, rfl, hbindings, hvalues⟩ := Json.exists_of_isWorded h
  obtain ⟨ws, outs, hws, houts, hwordings⟩ := WireEntry.exists_encodeAll hvalues
  have hordered : Json.sortedBy? (fun out => Fields.get out "role") outs =
      some (inOrder entryRole outs) :=
    Json.sortedBy?_eq_inOrder fun out hout => (hwordings out hout).get_role
  refine ⟨⟨fields.get "etag", fields.get "version", ws⟩, inOrder entryRole outs,
    ?_, ?_, ?_⟩
  · simp only [decode, Json.fields, hbindings, Json.elements, hws, bind,
      Except.bind, pure, Except.pure]
  · simp only [encode, houts, hordered, bind, Except.bind, pure, Except.pure,
      Policy.assembled]
  · intro entry hentry
    exact hwordings entry (mem_inOrder.mp hentry)

/-! ## Policies -/

namespace Policy

open Grants

variable {d : Policy} {b : Binding} {removal : Bool}

/-- The grants could have been written, and all roles are texts. -/
structure InWords (d : Policy) : Prop where
  tidy : d.grants.Tidy
  roles : ∀ r ∈ d.roles, r.isStr = true

/-- An amendment by a named role leaves a policy in words. -/
theorem InWords.amended (h : d.InWords) (hrole : b.role ≠ "") (removal : Bool) :
    (d.amended b removal).InWords := by
  refine ⟨?_, ?_⟩
  · cases removal with
    | true => exact tidy_revoke h.tidy hrole
    | false => exact tidy_grant h.tidy hrole
  · intro r hr
    rcases roles_amended r hr with rfl | hold
    · rfl
    · exact h.roles r hold

end Policy

/-- **A reply in words is read**, as a policy in words. -/
theorem Client.exists_policyOf_of_isWorded {value : Json}
    (h : value.isWorded = true) : ∃ d, policyOf value = .ok d ∧ d.InWords := by
  obtain ⟨w, entries, hw, hencode, hwordings⟩ :=
    WirePolicy.exists_encode_of_isWorded h
  have hreadable : ∀ entry ∈ entries.map Json.obj, entry.isReadable = true := by
    rw [List.forall_mem_map]
    exact fun entry hentry => (hwordings entry hentry).isReadable
  obtain ⟨d, hdecode, -, -, htidy, hconditional⟩ :=
    Policy.exists_decode_assembled hreadable w.etag w.version
  refine ⟨d, ?_, htidy, ?_⟩
  · simp only [policyOf, hw, hencode, hdecode, bind, Except.bind]
  · intro r hr
    rcases List.mem_append.mp hr with hgrant | haside
    · obtain ⟨e, he, rfl⟩ := List.mem_map.mp hgrant
      obtain ⟨role, members, rfl, -⟩ := htidy.entry e he
      rfl
    · obtain ⟨entry, hentry, rfl⟩ := List.mem_map.mp haside
      rw [hconditional] at hentry
      obtain ⟨value, hvalue, hset⟩ := List.mem_filterMap.mp hentry
      obtain ⟨fields, hfields, rfl⟩ := List.mem_map.mp hvalue
      cases Json.eq_obj_of_aside? hset
      rw [(hwordings entry hfields).get_role]
      rfl

end GrantKeeper
