import GrantKeeper.Proofs.Policy.Amended
import GrantKeeper.Proofs.Policy.Rows
import GrantKeeper.Proofs.Storage.Store

/-!
# Written policies are read back

A policy that was read may hold anything that its author could sort: roles and
members need not be texts. If it was amended and written, it is read back all
the same.  The reason is that a text does not sort with anything else: the
amendment is about a role that is a text, so all roles are texts, and sets of
members are sorted already when they come back.

## Main results

* `Client.isSettled_policyOf`, `Policy.IsSettled.amended` — what reading and
  amending leave behind.
* `Client.texts_of_payloadOf` — what is written has texts for roles, if one of
  them is a text.
* `Client.policyOf_stamped` — what was written is read back, and as what.
-/

namespace GrantKeeper

/-- The set of keys in order, where it can be sorted. -/
def Keys.settled (keys : Keys) : Keys := (Json.sort keys).toOption.getD []

namespace Policy

/-- All roles that a policy names, conditional or not. -/
def roles (d : Policy) : List Json :=
  d.grants.map Prod.fst ++ d.conditional.map fun entry =>
    Fields.get entry "role"

/-- The grants as they come back after they were written: in the order of the
roles, each with its members in order, and without the role that is no name. -/
def settledGrants (d : Policy) : Grants :=
  ((inOrder roleOf d.grants).filter (·.1.truthy)).map fun e =>
    (e.1, e.2.settled)

/-- A policy as reading and amending leave it. -/
structure IsSettled (d : Policy) : Prop where
  distinct : d.grants.Distinct
  nonempty : ∀ e ∈ d.grants, e.2 ≠ []
  members : ∀ e ∈ d.grants, Keys.IsSet e.2
  conditional : ∃ rows : List Row, d.conditional = rows.map Row.fields ∧
    (∀ row ∈ rows, row.isAside = true) ∧
    ((∀ row ∈ rows, row.role.isStr = true) →
      rows.Pairwise fun x y => x.name ≤ y.name)

variable {d : Policy} {b : Binding} {removal : Bool}

/-! ## Reading -/

private theorem exists_reading {etag version : Json} {rows : List Row}
    (h : decode (Row.form etag version rows) = .ok d) :
    ∃ last : Reading, Row.IsRead rows last ∧
      d = ⟨etag, version, some (last.grants.filter fun e => !e.2.isEmpty),
        last.conditional⟩ := by
  rw [Row.form, decode_assembled] at h
  obtain ⟨last, hlast, rfl⟩ := exists_of_map_eq_ok h
  have hstart : Row.IsRead [] ⟨[], []⟩ := ⟨by simp, by simp, rfl⟩
  exact ⟨last, Row.isRead_addAll hstart hlast, rfl⟩

private theorem isSettled_of_decode {etag version : Json} {rows : List Row}
    (hordered : Row.IsOrdered rows)
    (h : decode (Row.form etag version rows) = .ok d) : d.IsSettled := by
  have hdistinct := (isReadingOf_decode h).distinct
  obtain ⟨last, hread, rfl⟩ := exists_reading h
  refine ⟨hdistinct, fun e he => ?_, fun e he => ?_, rows.filter Row.isAside,
    hread.conditional, fun row hrow => (List.mem_filter.mp hrow).2,
    fun htexts => ?_⟩
  · have hkept := (List.mem_filter.mp he).2
    intro hnil
    simp [hnil] at hkept
  · exact hread.members e (List.mem_filter.mp he).1
  · -- without an entry there is nothing to order, and with one its role tells
    -- that all roles are texts
    cases haside : rows.filter Row.isAside with
    | nil => exact .nil
    | cons row rest =>
        have hrow : row ∈ rows.filter Row.isAside := haside ▸ List.mem_cons_self
        have hall :=
          hordered.texts row (List.mem_filter.mp hrow).1 (htexts row hrow)
        rw [← haside]
        exact (hordered.rising hall).filter _

private theorem roles_of_decode {etag version : Json} {rows : List Row}
    (h : decode (Row.form etag version rows) = .ok d) :
    ∀ r ∈ d.roles, r ∈ rows.map Row.role := by
  obtain ⟨last, hread, rfl⟩ := exists_reading h
  intro r hr
  rcases List.mem_append.mp hr with hgrant | hconditional
  · obtain ⟨e, he, rfl⟩ := List.mem_map.mp hgrant
    exact hread.roles e (List.mem_filter.mp he).1
  · obtain ⟨entry, hentry, rfl⟩ := List.mem_map.mp hconditional
    have hentry' : entry ∈ (rows.filter Row.isAside).map Row.fields :=
      hread.conditional ▸ hentry
    obtain ⟨row, hrow, rfl⟩ := List.mem_map.mp hentry'
    exact List.mem_map_of_mem (List.mem_filter.mp hrow).1

/-! ## Amending -/

private theorem IsSettled.isSet_members (h : d.IsSettled) (role : String) :
    Keys.IsSet (d.members role) := by
  rw [Policy.members, Grants.members]
  cases hentry : d.grants.entry? (.str role) with
  | none => exact Keys.isSet_nil
  | some e => exact h.members e (List.mem_of_find?_eq_some hentry)

private theorem IsSettled.of_put {next : Policy} {members : Keys}
    {role : String} (h : d.IsSettled)
    (hgrants : next.grants = d.grants.put (.str role) members)
    (hconditional : next.conditional = d.conditional) (hset : members.IsSet)
    (hne : members ≠ []) : next.IsSettled := by
  refine ⟨?_, fun e he => ?_, fun e he => ?_, hconditional ▸ h.conditional⟩
  · rw [hgrants]
    exact h.distinct.put _ _
  · rw [hgrants] at he
    rcases Grants.mem_or_of_mem_put he with hold | ⟨hnew, -⟩
    · exact h.nonempty e hold
    · rwa [hnew]
  · rw [hgrants] at he
    rcases Grants.mem_or_of_mem_put he with hold | ⟨hnew, -⟩
    · exact h.members e hold
    · rwa [hnew]

private theorem IsSettled.grant (h : d.IsSettled) (b : Binding) :
    (d.grant b).1.IsSettled := by
  cases hb : d.holds b.role b.member with
  | true => rwa [grant_of_holds hb]
  | false =>
      have hinsert : (d.members b.role).insert (.str b.member) =
          d.members b.role ++ [.str b.member] := by
        rw [Keys.insert, if_neg]
        exact Bool.eq_false_iff.mp hb
      refine h.of_put (grants_grant hb) (grant_conditional d b)
        ((h.isSet_members b.role).insert rfl) ?_
      simp [hinsert]

private theorem IsSettled.revoke (h : d.IsSettled) (b : Binding) :
    (d.revoke b).1.IsSettled := by
  cases hb : d.holds b.role b.member with
  | false => rwa [revoke_of_not_holds hb]
  | true =>
      have hgrants := grants_revoke hb
      split at hgrants
      · refine ⟨?_, fun e he => ?_, fun e he => ?_,
          (revoke_conditional d b).symm ▸ h.conditional⟩
        · exact distinct_revoke h.distinct b
        · rw [hgrants] at he
          exact h.nonempty e (Grants.mem_remove.mp he).1
        · rw [hgrants] at he
          exact h.members e (Grants.mem_remove.mp he).1
      · rename_i hsome
        refine h.of_put hgrants (revoke_conditional d b)
          ((h.isSet_members b.role).remove _) ?_
        exact fun hnil => hsome (List.isEmpty_iff.mpr hnil)

/-- An amended policy is as settled as it was. -/
theorem IsSettled.amended (h : d.IsSettled) (b : Binding) (removal : Bool) :
    (d.amended b removal).IsSettled := by
  cases removal with
  | true => exact h.revoke b
  | false => exact h.grant b

/-- An amendment names no role but its own. -/
theorem roles_amended :
    ∀ r ∈ (d.amended b removal).roles, r = .str b.role ∨ r ∈ d.roles := by
  intro r hr
  rcases List.mem_append.mp hr with hgrant | hconditional
  · have hput {members : Keys}
        (hrole : r ∈ (d.grants.put (.str b.role) members).map Prod.fst) :
        r = .str b.role ∨ r ∈ d.roles := by
      obtain ⟨e, he, rfl⟩ := List.mem_map.mp hrole
      exact (Grants.fst_of_mem_put he).imp_right (List.mem_append_left _)
    cases removal with
    | false =>
        cases hb : d.holds b.role b.member with
        | true =>
            rw [amended, if_neg Bool.false_ne_true, grant_of_holds hb] at hgrant
            exact Or.inr (List.mem_append_left _ hgrant)
        | false =>
            rw [amended, if_neg Bool.false_ne_true, grants_grant hb] at hgrant
            exact hput hgrant
    | true =>
        cases hb : d.holds b.role b.member with
        | false =>
            rw [amended, if_pos rfl, revoke_of_not_holds hb] at hgrant
            exact Or.inr (List.mem_append_left _ hgrant)
        | true =>
            rw [amended, if_pos rfl, grants_revoke hb] at hgrant
            split at hgrant
            · obtain ⟨e, he, rfl⟩ := List.mem_map.mp hgrant
              exact Or.inr
                (List.mem_append_left _
                  (List.mem_map_of_mem (List.mem_filter.mp he).1))
            · exact hput hgrant
  · rw [conditional_amended] at hconditional
    exact Or.inr (List.mem_append_right _ hconditional)

/-- A pair that is held is held under a role that is named. -/
theorem mem_roles_of_holds (h : d.holds b.role b.member = true) :
    .str b.role ∈ d.roles := by
  rw [holds, Keys.has_str_iff, members, Grants.members] at h
  cases hentry : d.grants.entry? (.str b.role) with
  | none =>
      rw [hentry] at h
      exact absurd h List.not_mem_nil
  | some e =>
      have hsame := List.find?_some hentry
      have hrole : e.1 = .str b.role := Json.same_str_left_iff.mp hsame
      have hmem :=
        List.mem_map_of_mem (f := Prod.fst) (List.mem_of_find?_eq_some hentry)
      rw [hrole] at hmem
      exact List.mem_append_left _ hmem

/-- A pair that was granted is granted under a role that is named. -/
theorem mem_roles_granted (h : d.holds b.role b.member = false) :
    .str b.role ∈ (d.amended b false).roles := by
  have hput (g : Grants) (members : Keys) : .str b.role ∈
      (g.put (.str b.role) members).map Prod.fst := by
    induction g with
    | nil => exact List.mem_singleton.mpr rfl
    | cons e rest ih =>
        obtain ⟨x, old⟩ := e
        unfold Grants.put
        split
        · rename_i hsame
          rw [Json.same_str_left_iff.mp hsame]
          exact List.mem_cons_self
        · exact List.mem_cons_of_mem _ ih
  rw [amended, if_neg Bool.false_ne_true, roles, grants_grant h]
  exact List.mem_append_left _ (hput _ _)

/-! ## Writing -/

private theorem exists_rows_of_encodeEntries {g : Grants}
    (hne : ∀ e ∈ g, e.2 ≠ [])
    (hset : ∀ e ∈ g, Keys.IsSet e.2) {entries : List Json}
    (h : encodeEntries g = .ok entries) :
    ∃ plain : List Row, entries = plain.map Row.written ∧
      (∀ row ∈ plain, row.isConditional = false) ∧
      plain.map Row.granted = g.map fun e => (e.1, e.2.settled) := by
  induction g generalizing entries with
  | nil =>
      cases h
      exact ⟨[], rfl, by simp, rfl⟩
  | cons e rest ih =>
      have hsome : e.2 ≠ [] := hne e List.mem_cons_self
      unfold encodeEntries at h
      rw [if_neg fun hempty => hsome (List.isEmpty_iff.mp hempty)] at h
      obtain ⟨first, hfirst, h⟩ := exists_of_bind_eq_ok h
      obtain ⟨others, hothers, h⟩ := exists_of_bind_eq_ok h
      cases h
      obtain ⟨sorted, hsorted, hentry⟩ := exists_of_bind_eq_ok hfirst
      cases hentry
      obtain ⟨plain, rfl, hplain, hgranted⟩ :=
        ih (fun d hd => hne d (List.mem_cons_of_mem _ hd))
          (fun d hd => hset d (List.mem_cons_of_mem _ hd)) hothers
      have hperm := Json.sort_perm hsorted
      have hkeys := hset e List.mem_cons_self
      let row : Row :=
        ⟨e.1, sorted, .null, fun hnil => hsome (hnil ▸ hperm).symm.eq_nil,
          hkeys.perm hperm, Json.sort_of_sort hkeys.key hsorted⟩
      have hsettled : e.2.settled = sorted := by
        rw [Keys.settled, hsorted]
        rfl
      refine ⟨row :: plain, rfl, fun other hother => ?_, ?_⟩
      · rcases List.mem_cons.mp hother with rfl | hrest
        · rfl
        · exact hplain other hrest
      · rw [List.map_cons, List.map_cons, hgranted, hsettled]
        rfl

/-- The rows as which a policy is written: the plain ones, and those that were
set aside. -/
structure IsWrittenAs (d : Policy) (plain aside : List Row) : Prop where
  encode : d.encode = .ok (Row.form d.etag d.version (plain ++ aside))
  grants : ∃ ordered, Json.sortedBy? Prod.fst d.grants = some ordered ∧
    plain.map Row.granted = ordered.map fun e => (e.1, e.2.settled)
  unconditional : ∀ row ∈ plain, row.isConditional = false
  conditional : d.conditional = aside.map Row.fields
  isAside : ∀ row ∈ aside, row.isAside = true
  rising : (∀ row ∈ aside, row.role.isStr = true) →
    aside.Pairwise fun x y => x.name ≤ y.name

/-- What is written of a settled policy are rows. -/
theorem IsSettled.exists_rows (h : d.IsSettled) {value : Json}
    (hvalue : d.encode = .ok value) :
    ∃ plain aside, d.IsWrittenAs plain aside := by
  obtain ⟨aside, hconditional, haside, hrising⟩ := h.conditional
  have hencode := hvalue
  rw [encode_eq] at hvalue
  split at hvalue
  case h_2 => cases hvalue
  rename_i ordered hordered
  obtain ⟨entries, hentries, hassembled⟩ := exists_of_map_eq_ok hvalue
  have hperm := Json.sortedBy?_perm hordered
  obtain ⟨plain, rfl, hplain, hgranted⟩ := exists_rows_of_encodeEntries
    (fun e he => h.nonempty e (hperm.mem_iff.mp he))
      (fun e he => h.members e (hperm.mem_iff.mp he))
    hentries
  refine ⟨plain, aside,
    ⟨?_, ⟨ordered, hordered, hgranted⟩, hplain, hconditional, haside, hrising⟩⟩
  rw [hencode, ← hassembled, Row.form, List.map_append, hconditional,
    List.map_map]
  rfl

/-- The roles that are written are those that are named. -/
theorem IsWrittenAs.mem_roles {plain aside : List Row}
    (h : d.IsWrittenAs plain aside) {r : Json} :
    r ∈ d.roles ↔ r ∈ (plain ++ aside).map Row.role := by
  obtain ⟨ordered, hordered, hgranted⟩ := h.grants
  have hplain : plain.map Row.role = ordered.map Prod.fst := by
    have hfst := congrArg (List.map Prod.fst) hgranted
    rw [List.map_map, List.map_map] at hfst
    exact hfst
  have haside : (d.conditional.map fun entry => Fields.get entry "role") =
      aside.map Row.role := by
    rw [h.conditional, List.map_map]
    rfl
  rw [roles, haside, List.map_append, hplain, List.mem_append, List.mem_append,
    ((Json.sortedBy?_perm hordered).map Prod.fst).mem_iff]

namespace IsWrittenAs

variable {plain aside : List Row}

theorem isStr_role (h : d.IsWrittenAs plain aside)
    (htexts : ∀ r ∈ d.roles, r.isStr = true) :
    ∀ row ∈ plain ++ aside, row.role.isStr = true :=
  fun _ hrow => htexts _ (h.mem_roles.mpr (List.mem_map_of_mem hrow))

/-- With texts for roles, grants are written in the order of their roles. -/
theorem map_granted (h : d.IsWrittenAs plain aside)
    (htexts : ∀ r ∈ d.roles, r.isStr = true) :
    plain.map Row.granted = (inOrder roleOf d.grants).map fun e =>
    (e.1, e.2.settled) := by
  obtain ⟨ordered, hordered, hgranted⟩ := h.grants
  have hkey : ∀ e ∈ d.grants, e.1 = .str (roleOf e) := by
    intro e he
    have hstr := htexts e.1 (List.mem_append_left _ (List.mem_map_of_mem he))
    unfold roleOf
    cases hrole : e.1 with
    | str s => rfl
    | _ =>
        rw [hrole] at hstr
        cases hstr
  rw [Json.sortedBy?_eq_inOrder hkey, Option.some.injEq] at hordered
  rw [hgranted, hordered]

theorem pairwise_plain (h : d.IsWrittenAs plain aside)
    (htexts : ∀ r ∈ d.roles, r.isStr = true) :
    plain.Pairwise fun x y => x.name ≤ y.name := by
  have hpairs := pairwise_inOrder roleOf d.grants
  have hmap : ((inOrder roleOf d.grants).map fun e =>
      (e.1, e.2.settled)).Pairwise
      fun x y => roleOf x ≤ roleOf y := List.pairwise_map.mpr hpairs
  rw [← h.map_granted htexts, List.pairwise_map] at hmap
  exact hmap

/-- No role is written twice. -/
theorem nodup_role (h : d.IsWrittenAs plain aside) (hd : d.IsSettled)
    (htexts : ∀ r ∈ d.roles, r.isStr = true) : (plain.map Row.role).Nodup := by
  have hfst := congrArg (List.map Prod.fst) (h.map_granted htexts)
  rw [List.map_map, List.map_map] at hfst
  have hrole : plain.map Row.role =
      (inOrder roleOf d.grants).map Prod.fst := hfst
  have hstr : (d.grants.map Prod.fst).all Json.isStr = true :=
    List.all_eq_true.mpr fun r hr => htexts r (List.mem_append_left _ hr)
  have hnodup : (d.grants.map Prod.fst).Nodup := by
    rw [← Json.map_str_texts hstr]
    exact List.Nodup.map Json.str_injective hd.distinct
  rw [hrole]
  exact (((inOrder_perm roleOf d.grants).map Prod.fst).nodup_iff).mpr hnodup

/-- The rows that are read as grants are the plain ones whose role is a name. -/
theorem filter_isPlain (h : d.IsWrittenAs plain aside)
    (htexts : ∀ r ∈ d.roles, r.isStr = true) :
    (inOrder Row.name (plain ++ aside)).filter Row.isPlain =
      plain.filter (·.role.truthy) := by
  have hplain : plain.filter Row.isPlain = plain.filter (·.role.truthy) :=
    List.filter_congr fun row hrow => by
      simp [Row.isPlain, h.unconditional row hrow]
  have haside : aside.filter Row.isPlain = [] := by
    rw [List.filter_eq_nil_iff]
    intro row hrow
    have hset := h.isAside row hrow
    rw [Row.isAside, Bool.and_eq_true] at hset
    simp [Row.isPlain, hset.2]
  rw [filter_inOrder, List.filter_append, hplain, haside, List.append_nil]
  exact inOrder_of_pairwise ((h.pairwise_plain htexts).filter _)

/-- The rows that are set aside are those that were. -/
theorem filter_isAside (h : d.IsWrittenAs plain aside)
    (htexts : ∀ r ∈ d.roles, r.isStr = true) :
    (inOrder Row.name (plain ++ aside)).filter Row.isAside = aside := by
  have hplain : plain.filter Row.isAside = [] := by
    rw [List.filter_eq_nil_iff]
    intro row hrow
    simp [Row.isAside, h.unconditional row hrow]
  have haside : aside.filter Row.isAside = aside :=
    List.filter_eq_self.mpr h.isAside
  rw [filter_inOrder, List.filter_append, hplain, haside, List.nil_append]
  refine inOrder_of_pairwise (h.rising fun row hrow => ?_)
  exact h.isStr_role htexts row (List.mem_append_right _ hrow)

end IsWrittenAs

end Policy

namespace Client

open Policy

variable {d : Policy} {b : Binding} {removal : Bool} {stored payload : Json}

/-! ## Both together -/

private theorem exists_decode_of_policyOf (h : policyOf stored = .ok d) :
    ∃ etag version rows,
      Row.IsOrdered rows ∧ Policy.decode (Row.form etag version rows) =
        .ok d := by
  obtain ⟨w, hw, h⟩ := exists_of_bind_eq_ok h
  obtain ⟨value, hvalue, h⟩ := exists_of_bind_eq_ok h
  obtain ⟨rows, rfl, hordered⟩ := Row.exists_of_transit hw hvalue
  exact ⟨_, _, rows, hordered, h⟩

/-- **What was read is settled.** -/
theorem isSettled_policyOf (h : policyOf stored = .ok d) : d.IsSettled := by
  obtain ⟨etag, version, rows, hordered, h⟩ := exists_decode_of_policyOf h
  exact isSettled_of_decode hordered h

/-- What was read has texts for roles, if one of them is a text. -/
theorem texts_of_policyOf (h : policyOf stored = .ok d) :
    ∀ r ∈ d.roles, r.isStr = true → ∀ other ∈ d.roles, other.isStr = true := by
  obtain ⟨etag, version, rows, hordered, h⟩ := exists_decode_of_policyOf h
  intro r hr hstr other hother
  obtain ⟨row, hrow, rfl⟩ := List.mem_map.mp (roles_of_decode h r hr)
  obtain ⟨row', hrow', rfl⟩ := List.mem_map.mp (roles_of_decode h other hother)
  exact hordered.texts row hrow hstr row' hrow'

/-- **What is written has texts for roles, if one of them is a text.** -/
theorem texts_of_payloadOf (hd : d.IsSettled) (h : payloadOf d = .ok payload) :
    ∀ r ∈ d.roles, r.isStr = true → ∀ other ∈ d.roles, other.isStr = true := by
  obtain ⟨value, hvalue, h⟩ := exists_of_bind_eq_ok h
  obtain ⟨w, hw, h⟩ := exists_of_bind_eq_ok h
  obtain ⟨plain, aside, hwritten⟩ := hd.exists_rows hvalue
  rw [hwritten.encode] at hvalue
  cases hvalue
  rw [Row.decode_wire_form] at hw
  cases hw
  intro r hr hstr other hother
  obtain ⟨row, hrow, rfl⟩ := List.mem_map.mp (hwritten.mem_roles.mp hr)
  obtain ⟨row', hrow', rfl⟩ := List.mem_map.mp (hwritten.mem_roles.mp hother)
  exact Row.texts_of_encode h row hrow hstr row' hrow'

/-- An amendment that is one and can be written leaves texts for roles. -/
theorem texts_of_amended (h : policyOf stored = .ok d)
    (hchanges : d.holds b.role b.member = removal)
    (hpayload : payloadOf (d.amended b removal) = .ok payload) :
    ∀ r ∈ (d.amended b removal).roles, r.isStr = true := by
  cases removal with
  | false =>
      exact texts_of_payloadOf ((isSettled_policyOf h).amended b false)
        hpayload _
        (mem_roles_granted hchanges) rfl
  | true =>
      have hall := texts_of_policyOf h _ (mem_roles_of_holds hchanges) rfl
      intro r hr
      rcases roles_amended r hr with rfl | hold
      · rfl
      · exact hall r hold

/-- What is sent for a settled policy with texts for roles: its rows, in the
order of their roles. -/
theorem payloadOf_eq {plain aside : List Row} (h : d.IsWrittenAs plain aside)
    (htexts : ∀ r ∈ d.roles, r.isStr = true) :
    payloadOf d =
      .ok (Row.form d.etag d.version (inOrder Row.name (plain ++ aside))) := by
  simp only [payloadOf, h.encode, Row.decode_wire_form, bind, Except.bind]
  exact Row.transit_form (h.isStr_role htexts) _ _

/-- **What was written is read back**, under whatever etag it was stored. -/
theorem policyOf_stamped (hd : d.IsSettled)
    (htexts : ∀ r ∈ d.roles, r.isStr = true)
    (hpayload : payloadOf d = .ok payload) (etag : Json) :
    policyOf (payload.stamped etag) =
      .ok ⟨etag, d.version, some d.settledGrants, d.conditional⟩ := by
  obtain ⟨value, hvalue, -⟩ := exists_of_bind_eq_ok hpayload
  obtain ⟨plain, aside, h⟩ := hd.exists_rows hvalue
  obtain rfl := Except.ok.inj (hpayload.symm.trans (payloadOf_eq h htexts))
  have hrows : ∀ row ∈ inOrder Row.name (plain ++ aside),
      row.role.isStr = true :=
    fun row hrow => h.isStr_role htexts row (mem_inOrder.mp hrow)
  have hwire : WirePolicy.decode ((Row.form d.etag d.version
      (inOrder Row.name (plain ++ aside))).stamped etag) =
        .ok ⟨etag, d.version,
          (inOrder Row.name (plain ++ aside)).map Row.entry⟩ := by
    have hversion :
        (Row.formFields d.etag d.version
          (inOrder Row.name (plain ++ aside))).get
        "version" = d.version := get_version_assembled _ _ _
    have hbindings := Row.bindings_formFields d.etag d.version
      (inOrder Row.name (plain ++ aside))
    rw [← Fields.lookup_put_of_ne (n := "etag") (by decide) _ etag] at hbindings
    rw [Row.form_eq, Json.stamped, Row.decode_wire hbindings,
      Fields.get_put_self, Fields.get_put_of_ne (by decide), hversion]
  have hgrants : ((inOrder Row.name (plain ++ aside)).filter Row.isPlain).map
      Row.granted =
        d.settledGrants := by
    have hfilter (xs : List Row) : (xs.filter (·.role.truthy)).map Row.granted =
        (xs.map Row.granted).filter (·.1.truthy) := by
      rw [List.filter_map]
      rfl
    rw [h.filter_isPlain htexts, hfilter, h.map_granted htexts, List.filter_map,
      settledGrants]
    rfl
  have hapart : (((inOrder Row.name (plain ++ aside)).filter Row.isPlain).map
      Row.role).Nodup := by
    rw [h.filter_isPlain htexts]
    exact (h.nodup_role hd htexts).sublist (List.filter_sublist.map _)
  simp only [policyOf, hwire, Row.transit_form hrows, inOrder_inOrder, bind,
    Except.bind]
  rw [Row.decode_form hrows hapart, hgrants, h.filter_isAside htexts,
    h.conditional]

end Client

end GrantKeeper
