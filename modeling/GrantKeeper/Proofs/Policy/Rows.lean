import GrantKeeper.Proofs.Json.KeySets
import GrantKeeper.Proofs.Policy.Codec
import Mathlib.Data.Set.List

/-!
# Entries in written form

Whatever a policy held before, every entry that was written has one form: a
role, a set of keys that was sorted, and a condition unless that is empty.  A
`Row` is such an entry.  Rows need not be about texts, and still every
conversion after the first takes them for what they are.

## Main results

* `Row.exists_of_transit` — whatever gets through transit consists of rows.
* `Row.transit_form` — rows with texts for roles get through transit, in the
  order of the roles.
* `Row.decode_form` — rows with different roles are read as they are.
-/

namespace GrantKeeper

/-- The role that an entry names, where it is a text. -/
def entryRole (entry : Fields) : String :=
  (Fields.get entry "role").text?.getD ""

/-- A written entry: the members are a set of keys, listed in an order that
sorting keeps. -/
structure Row where
  role : Json
  members : Keys
  condition : Json
  nonempty : members ≠ []
  isSet : members.IsSet
  sorted : Json.sort members = .ok members

namespace Row

/-- The entry is under a condition. -/
def isConditional (row : Row) : Bool := row.condition.truthy

/-- The fields of an entry. -/
def fields (row : Row) : Fields :=
  [("role", row.role), ("members", .arr row.members)] ++
    if row.isConditional then [("condition", row.condition)] else []

/-- The entry as it is written. -/
def written (row : Row) : Json := .obj row.fields

/-- The entry in transit. -/
def entry (row : Row) : WireEntry := ⟨row.fields, row.members⟩

/-- The role, where it is a text. -/
def name (row : Row) : String := row.role.text?.getD ""

/-- What an entry without condition grants. -/
def granted (row : Row) : Json × Keys := (row.role, row.members)

/-- The policy that consists of the entries. -/
def form (etag version : Json) (rows : List Row) : Json :=
  Policy.assembled etag version (rows.map written)

@[simp] theorem lookup_role_fields (row : Row) :
    row.fields.lookup "role" = some row.role := rfl

@[simp] theorem get_role_fields (row : Row) :
    Fields.get row.fields "role" = row.role := rfl

@[simp] theorem lookup_members_fields (row : Row) :
    row.fields.lookup "members" = some (.arr row.members) := rfl

@[simp] theorem get_members_fields (row : Row) :
    Fields.get row.fields "members" = .arr row.members := rfl

@[simp] theorem truthy_condition_fields (row : Row) :
    (Fields.get row.fields "condition").truthy = row.isConditional := by
  cases h : row.isConditional with
  | true =>
      rw [fields, h]
      exact h
  | false =>
      rw [fields, h]
      rfl

theorem role_eq_str {row : Row} (h : row.role.isStr = true) :
    row.role = .str row.name := by
  unfold name
  cases hrole : row.role with
  | str s => rfl
  | _ =>
      rw [hrole] at h
      cases h

/-- A list of fields that are all those of some row. -/
theorem exists_map_fields {entries : List Fields}
    (h : ∀ e ∈ entries, ∃ row : Row, row.fields = e) :
    ∃ rows : List Row, rows.map fields = entries := by
  have hrange : entries ∈ Set.range (List.map fields) := by
    rw [Set.range_list_map]
    exact h
  exact hrange

/-! ## Rows come out of transit -/

private theorem exists_of_encode {value : Json} {w : WireEntry} {out : Fields}
    (h : WireEntry.decode value = .ok w) (hne : w.members ≠ [])
    (hout : w.encode = .ok out) : ∃ row : Row, row.fields = out := by
  obtain ⟨fields, -, h⟩ := exists_of_bind_eq_ok h
  obtain ⟨listed, -, h⟩ := exists_of_bind_eq_ok h
  obtain ⟨members, hmembers, h⟩ := exists_of_bind_eq_ok h
  cases h
  have hset : Keys.IsSet members := Keys.isSet_nil.insertAll hmembers
  rw [WireEntry.encode_eq] at hout
  split at hout
  case h_2 => cases hout
  rename_i role hrole
  obtain ⟨sorted, hsorted, rfl⟩ := exists_of_map_eq_ok hout
  have hperm := Json.sort_perm hsorted
  have hsome : sorted ≠ [] := fun hnil => hne (hnil ▸ hperm).symm.eq_nil
  exact ⟨⟨role, sorted, fields.get "condition", hsome, hset.perm hperm,
    Json.sort_of_sort hset.key hsorted⟩, rfl⟩

private theorem exists_of_encodeAll {values : List Json} {ws : List WireEntry}
    {out : List Fields}
    (h : WireEntry.decodeAll values = .ok ws)
    (hout : WireEntry.encodeAll ws = .ok out) :
    ∀ e ∈ out, ∃ row : Row, row.fields = e := by
  induction values generalizing ws out with
  | nil =>
      cases h
      cases hout
      simp
  | cons value rest ih =>
      obtain ⟨w, hw, h⟩ := exists_of_bind_eq_ok h
      obtain ⟨ws', hws, h⟩ := exists_of_bind_eq_ok h
      cases h
      unfold WireEntry.encodeAll at hout
      split at hout
      · exact ih hws hout
      · rename_i hne
        obtain ⟨first, hfirst, hout⟩ := exists_of_bind_eq_ok hout
        obtain ⟨others, hothers, hout⟩ := exists_of_bind_eq_ok hout
        cases hout
        have hsome : w.members ≠ [] :=
          fun hnil => hne (List.isEmpty_iff.mpr hnil)
        intro e he
        rcases List.mem_cons.mp he with rfl | hrest
        · exact exists_of_encode hw hsome hfirst
        · exact ih hws hothers e hrest

/-- What sorting by role brings about: one text among the roles tells that all
are, and then they rise. -/
structure IsOrdered (rows : List Row) : Prop where
  texts : ∀ row ∈ rows,
    row.role.isStr = true → ∀ other ∈ rows, other.role.isStr = true
  rising : (∀ row ∈ rows, row.role.isStr = true) →
    rows.Pairwise fun x y => x.name ≤ y.name

private theorem isOrdered_of_sortedBy? {entries : List Fields} {rows : List Row}
    (h : Json.sortedBy? (fun entry => Fields.get entry "role") entries =
      some (rows.map fields)) :
    IsOrdered rows := by
  have hperm := Json.sortedBy?_perm h
  refine ⟨fun row hrow hstr other hother => ?_, fun hall => ?_⟩
  · have hmem {r : Row} (hr : r ∈ rows) : r.fields ∈ entries :=
      hperm.mem_iff.mp (List.mem_map_of_mem hr)
    exact Json.all_isStr_of_sortedBy? h (hmem hrow) hstr _ (hmem hother)
  · have hkey : ∀ e ∈ entries, Fields.get e "role" = .str (entryRole e) := by
      intro e he
      obtain ⟨row, hrow, rfl⟩ := List.mem_map.mp (hperm.mem_iff.mpr he)
      exact role_eq_str (hall row hrow)
    have hsorted :=
      Option.some.inj (h.symm.trans (Json.sortedBy?_eq_inOrder hkey))
    have hpairs := pairwise_inOrder entryRole entries
    rw [← hsorted, List.pairwise_map] at hpairs
    exact hpairs

/-- **Whatever gets through transit consists of rows.** -/
theorem exists_of_transit {value out : Json} {w : WirePolicy}
    (h : WirePolicy.decode value = .ok w) (hout : w.encode = .ok out) :
    ∃ rows, out = form w.etag w.version rows ∧ IsOrdered rows := by
  obtain ⟨fields, -, h⟩ := exists_of_bind_eq_ok h
  obtain ⟨entries, -, h⟩ := exists_of_bind_eq_ok h
  obtain ⟨ws, hws, h⟩ := exists_of_bind_eq_ok h
  cases h
  obtain ⟨written, hwritten, hout⟩ := exists_of_bind_eq_ok hout
  have hrows := exists_of_encodeAll hws hwritten
  split at hout
  · cases hout
  · rename_i ordered hordered
    cases hout
    have hperm := Json.sortedBy?_perm hordered
    obtain ⟨rows, rfl⟩ :=
      exists_map_fields fun e he => hrows e (hperm.mem_iff.mp he)
    refine ⟨rows, ?_, isOrdered_of_sortedBy? hordered⟩
    rw [form, Policy.assembled, List.map_map]
    rfl

/-! ## Rows go through transit -/

private theorem decodeAll_written (rows : List Row) :
    WireEntry.decodeAll (rows.map written) = .ok (rows.map entry) := by
  induction rows with
  | nil => rfl
  | cons row rest ih =>
      have hmembers : Keys.insertAll [] row.members = .ok row.members :=
        Keys.insertAll_of_isSet row.isSet
      have hfirst : WireEntry.decode row.written = .ok row.entry := by
        simp only [WireEntry.decode, written, Json.fields,
          lookup_members_fields, Option.getD_some, Json.elements, hmembers,
          bind, Except.bind, pure, Except.pure]
        rfl
      simp only [List.map_cons, WireEntry.decodeAll, hfirst, ih, bind,
        Except.bind, pure, Except.pure]

/-- Rows are read as they are, whatever else a policy holds. -/
theorem decode_wire {fields : Fields} {rows : List Row}
    (h : (fields.lookup "bindings").getD (.arr []) = .arr (rows.map written)) :
    WirePolicy.decode (.obj fields) =
      .ok ⟨fields.get "etag", fields.get "version", rows.map entry⟩ := by
  simp only [WirePolicy.decode, Json.fields, h, Json.elements,
    decodeAll_written, bind, Except.bind, pure, Except.pure]

/-- The fields of the policy that consists of the entries. -/
def formFields (etag version : Json) (rows : List Row) : Fields :=
  Policy.optionalField "etag" etag ++ Policy.optionalField "version" version ++
    Policy.arrayField "bindings" (rows.map written)

theorem form_eq (etag version : Json) (rows : List Row) :
    form etag version rows = .obj (formFields etag version rows) := rfl

theorem bindings_formFields (etag version : Json) (rows : List Row) :
    ((formFields etag version rows).lookup "bindings").getD (.arr []) =
      .arr (rows.map written) := by
  rw [formFields, Policy.lookup_bindings]
  cases rows <;> rfl

/-- A policy that consists of rows is read in transit as it is. -/
theorem decode_wire_form (etag version : Json) (rows : List Row) :
    WirePolicy.decode (form etag version rows) =
      .ok ⟨etag, version, rows.map entry⟩ := by
  have hetag : (formFields etag version rows).get "etag" = etag :=
    Policy.get_etag_assembled _ _ _
  have hversion : (formFields etag version rows).get "version" = version :=
    Policy.get_version_assembled _ _ _
  rw [form_eq, decode_wire (bindings_formFields etag version rows),
    hetag, hversion]

private theorem encodeAll_entry (rows : List Row) :
    WireEntry.encodeAll (rows.map entry) = .ok (rows.map fields) := by
  induction rows with
  | nil => rfl
  | cons row rest ih =>
      have hsome : row.entry.members.isEmpty = false :=
        List.isEmpty_eq_false_iff.mpr row.nonempty
      have hfirst : row.entry.encode = .ok row.fields := by
        have hcondition :
            (if (Fields.get row.fields "condition").truthy = true then
              [("condition", Fields.get row.fields "condition")]
            else []) =
              if row.isConditional then [("condition", row.condition)]
                else [] := by
          rw [truthy_condition_fields]
          cases h : row.isConditional with
          | true =>
              rw [fields, h]
              rfl
          | false => rfl
        simp only [WireEntry.encode_eq, entry, lookup_role_fields, row.sorted,
          Except.map, hcondition]
        rfl
      simp only [List.map_cons, WireEntry.encodeAll, hsome, hfirst, ih, bind,
        Except.bind, pure, Except.pure, Bool.false_eq_true, if_false]

/-- Rows come out of transit only if all their roles are texts, or none is. -/
theorem texts_of_encode {etag version out : Json} {rows : List Row}
    (h : WirePolicy.encode ⟨etag, version, rows.map entry⟩ = .ok out) :
    ∀ row ∈ rows,
      row.role.isStr = true → ∀ other ∈ rows, other.role.isStr = true := by
  obtain ⟨entries, hentries, h⟩ := exists_of_bind_eq_ok h
  rw [encodeAll_entry] at hentries
  cases hentries
  split at h
  · cases h
  · rename_i ordered hordered
    intro row hrow hstr other hother
    exact Json.all_isStr_of_sortedBy? hordered (List.mem_map_of_mem hrow) hstr _
      (List.mem_map_of_mem hother)

/-- **Rows with texts for roles get through transit**, in the order of the
roles. -/
theorem transit_form {rows : List Row} (h : ∀ row ∈ rows, row.role.isStr = true)
    (etag version : Json) :
    WirePolicy.encode ⟨etag, version, rows.map entry⟩ =
      .ok (form etag version (inOrder name rows)) := by
  have hkey : ∀ e ∈ rows.map fields,
      Fields.get e "role" = .str (entryRole e) := by
    intro e he
    obtain ⟨row, hrow, rfl⟩ := List.mem_map.mp he
    exact role_eq_str (h row hrow)
  have hname : ∀ row ∈ rows, entryRole row.fields = row.name := fun row _ => rfl
  simp only [WirePolicy.encode, encodeAll_entry, Json.sortedBy?_eq_inOrder hkey,
    bind, Except.bind, pure, Except.pure]
  rw [← map_inOrder hname, List.map_map]
  rfl

/-! ## Reading rows -/

/-- The row is read as a grant: it has a role, and no condition. -/
def isPlain (row : Row) : Bool := row.role.truthy && !row.isConditional

/-- The row is set aside when it is read: it has a role and a condition. -/
def isAside (row : Row) : Bool := row.role.truthy && row.isConditional

open Policy

/-- Reading a row, case by case. -/
theorem add_written (rd : Reading) (row : Row) :
    rd.add row.written =
      if row.isAside then
        .ok { rd with conditional := rd.conditional ++ [row.fields] }
      else if row.isPlain then
        if row.role.isKey then
          (Keys.insertAll (rd.grants.members row.role) row.members).map
          fun members => { rd with grants := rd.grants.put row.role members }
        else .error .notAKey
      else .ok rd := by
  rw [written, Reading.add_obj, get_role_fields, truthy_condition_fields,
    get_members_fields, Json.orElse_arr, isAside, isPlain]
  cases row.role.truthy with
  | false => rfl
  | true =>
      cases row.isConditional with
      | true => rfl
      | false =>
          cases row.role.isKey with
          | false => rfl
          | true =>
              show (Keys.insertAll (rd.grants.members row.role) row.members >>=
                _) = Except.map _ _
              cases Keys.insertAll (rd.grants.members row.role)
                row.members <;> rfl

/-- What reading rows can have come to. -/
structure IsRead (rows : List Row) (rd : Reading) : Prop where
  roles : ∀ e ∈ rd.grants, e.1 ∈ rows.map role
  members : ∀ e ∈ rd.grants, Keys.IsSet e.2
  conditional : rd.conditional = (rows.filter isAside).map fields

private theorem isSet_members {g : Grants} (h : ∀ e ∈ g, Keys.IsSet e.2)
    (key : Json) : Keys.IsSet (g.members key) := by
  unfold Grants.members
  cases hentry : g.entry? key with
  | none => exact Keys.isSet_nil
  | some e => exact h e (List.mem_of_find?_eq_some hentry)

private theorem isRead_add {rows : List Row} {row : Row} {rd next : Reading}
    (h : IsRead rows rd)
    (hadd : rd.add row.written = .ok next) : IsRead (rows ++ [row]) next := by
  have hroles : ∀ e ∈ rd.grants, e.1 ∈ (rows ++ [row]).map role := by
    intro e he
    rw [List.map_append]
    exact List.mem_append_left _ (h.roles e he)
  have hconditional : row.isAside = false → rd.conditional =
      ((rows ++ [row]).filter isAside).map fields := by
    intro hnone
    rw [h.conditional, List.filter_append,
      List.filter_cons_of_neg (by simp [hnone]), List.filter_nil,
      List.append_nil]
  rw [add_written] at hadd
  split at hadd
  · rename_i haside
    cases hadd
    refine ⟨hroles, h.members, ?_⟩
    rw [h.conditional, List.filter_append, List.filter_cons_of_pos haside,
      List.filter_nil, List.map_append]
    rfl
  · rename_i haside
    have haside := Bool.eq_false_iff.mpr haside
    split at hadd
    · split at hadd
      · obtain ⟨members, hmembers, rfl⟩ := exists_of_map_eq_ok hadd
        refine ⟨fun e he => ?_, fun e he => ?_, hconditional haside⟩
        · rcases Grants.fst_of_mem_put he with hrole | hold
          · rw [hrole]
            exact List.mem_map_of_mem (by simp)
          · obtain ⟨old, hin, heq⟩ := List.mem_map.mp hold
            rw [← heq]
            exact hroles old hin
        · rcases Grants.mem_or_of_mem_put he with hold | ⟨hnew, -⟩
          · exact h.members e hold
          · rw [hnew]
            exact (isSet_members h.members row.role).insertAll hmembers
      · cases hadd
    · cases hadd
      exact ⟨hroles, h.members, hconditional haside⟩

theorem isRead_addAll {rows more : List Row} {rd last : Reading}
    (h : IsRead rows rd)
    (hadd : rd.addAll (more.map written) = .ok last) :
    IsRead (rows ++ more) last := by
  induction more generalizing rows rd with
  | nil =>
      cases hadd
      rwa [List.append_nil]
  | cons row rest ih =>
      obtain ⟨next, hnext, hrest⟩ := exists_of_bind_eq_ok hadd
      rw [List.append_cons]
      exact ih (isRead_add h hnext) hrest

/-- Rows with different texts for roles are all put in or set aside as they
are. -/
theorem addAll_written {rows : List Row}
    (h : ∀ row ∈ rows, row.role.isStr = true) {rd : Reading}
    (hapart : (rd.grants.map Prod.fst ++
      (rows.filter isPlain).map role).Nodup) :
    rd.addAll (rows.map written) =
      .ok ⟨rd.grants ++ (rows.filter isPlain).map granted,
        rd.conditional ++ (rows.filter isAside).map fields⟩ := by
  induction rows generalizing rd with
  | nil => simp [Reading.addAll]
  | cons row rest ih =>
      have hrest : ∀ other ∈ rest, other.role.isStr = true :=
        fun other hother => h other (List.mem_cons_of_mem _ hother)
      have hstep {next : Reading} (hadd : rd.add row.written = .ok next) :
          rd.addAll ((row :: rest).map written) =
            next.addAll (rest.map written) := by
        rw [List.map_cons, Reading.addAll, hadd]
        rfl
      have hadd := add_written rd row
      by_cases haside : row.isAside = true
      · have hplain : row.isPlain = false := by
          unfold isAside at haside
          rw [Bool.and_eq_true] at haside
          simp [isPlain, haside]
        rw [if_pos haside] at hadd
        rw [List.filter_cons_of_neg (by simp [hplain])] at hapart ⊢
        have hlast :=
          @ih hrest ⟨rd.grants, rd.conditional ++ [row.fields]⟩ hapart
        rw [hstep hadd, hlast, List.filter_cons_of_pos haside, List.map_cons,
          List.append_assoc, List.singleton_append]
      · rw [if_neg haside] at hadd
        rw [List.filter_cons_of_neg haside]
        by_cases hplain : row.isPlain = true
        · rw [List.filter_cons_of_pos hplain] at hapart ⊢
          have hrole := role_eq_str (h row List.mem_cons_self)
          have hkey : row.role.isKey = true := by rw [hrole]; rfl
          have hfresh : ∀ e ∈ rd.grants, e.1 ≠ row.role := by
            intro e he heq
            have hdisjoint := (List.nodup_append.mp hapart).2.2
            exact hdisjoint e.1 (List.mem_map_of_mem he) row.role
              List.mem_cons_self heq
          have hnone : rd.grants.members row.role = [] := by
            rw [hrole]
            exact Grants.members_of_fresh (hrole ▸ hfresh)
          have hput : rd.grants.put row.role row.members = rd.grants ++
              [row.granted] := by
            rw [granted, hrole]
            exact Grants.put_of_fresh (hrole ▸ hfresh)
          have hmembers : Keys.insertAll [] row.members = .ok row.members :=
            Keys.insertAll_of_isSet row.isSet
          rw [if_pos hplain, if_pos hkey, hnone, hmembers, Except.map,
            hput] at hadd
          have hlast :=
            @ih hrest ⟨rd.grants ++ [row.granted], rd.conditional⟩ (by
            rw [List.map_append, List.append_assoc]
            exact hapart)
          rw [hstep hadd, hlast, List.map_cons, List.append_assoc,
            List.singleton_append]
        · rw [if_neg hplain] at hadd
          rw [List.filter_cons_of_neg hplain] at hapart ⊢
          rw [hstep hadd]
          exact ih hrest hapart

/-- **Rows with different roles are read as they are.** -/
theorem decode_form {rows : List Row} (h : ∀ row ∈ rows, row.role.isStr = true)
    (hapart : ((rows.filter isPlain).map role).Nodup) (etag version : Json) :
    Policy.decode (form etag version rows) =
      .ok ⟨etag, version, some ((rows.filter isPlain).map granted),
        (rows.filter isAside).map fields⟩ := by
  have hread := @addAll_written rows h ⟨[], []⟩ hapart
  have hkept : ((rows.filter isPlain).map granted).filter
      (fun e => !e.2.isEmpty) =
        (rows.filter isPlain).map granted := by
    rw [List.filter_eq_self]
    intro e he
    obtain ⟨row, -, rfl⟩ := List.mem_map.mp he
    simp [granted, row.nonempty]
  rw [form, decode_assembled, hread, Except.map, List.nil_append,
    List.nil_append, hkept]

end Row

end GrantKeeper
