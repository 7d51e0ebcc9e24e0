import GrantKeeper.Proofs.Policy.Entries

/-!
# The canonical form

What is sent for a policy depends on what the policy says and on nothing else:
not on the order in which its roles and members were read, nor on how its
entries were split.  `Content.written` is that form.  A well-formed policy
always gets through all conversions; then the resolver works on its content, and
what it decides is sent in canonical form.

## Main results

* `Client.exists_policyOf` — a well-formed policy is read, and represents its
  content.
* `Client.payloadOf_represents` — what represents a content is sent in its
  canonical form.
* `Content.of_written` — the canonical form says what it was made from,
  conditional clauses in order.
* `Policy.Represents.grant`, `Policy.Represents.revoke` — the resolver puts one
  pair in or takes it out.
-/

namespace GrantKeeper

/-! ## Contents in canonical form -/

namespace Content

/-- A content as a well-formed policy gives it. -/
structure IsProper (c : Content) : Prop where
  role : ∀ p ∈ c.granted, p.1 ≠ ""
  conditional : ∀ k ∈ c.conditional,
    k.IsProper ∧ k.isConditional = true ∧ k.hasMembers = true

theorem isProper_of {policy : Json} (h : policy.isWellFormed = true) :
    (of policy).IsProper := by
  refine ⟨?_, fun k hk => ?_⟩
  · rintro ⟨r, m⟩ hp
    exact (mem_granted.mp hp).1
  · obtain ⟨hmem, hboth⟩ := List.mem_filter.mp hk
    rw [Bool.and_eq_true] at hboth
    exact ⟨isProper_of_mem_clauses h hmem, hboth⟩

/-- The conditional clauses in the order of their roles; those of one role keep
their order. -/
def settled (c : Content) : Content :=
  { c with conditional := inOrder Clause.role c.conditional }

theorem IsProper.settled {c : Content} (h : c.IsProper) : c.settled.IsProper :=
  ⟨h.role, fun k hk => h.conditional k (mem_inOrder.mp hk)⟩

@[simp] theorem settled_settled (c : Content) :
    c.settled.settled = c.settled := by
  rw [settled, settled, inOrder_inOrder]

/-- The content with one more pair. -/
def granting (c : Content) (b : Binding) : Content :=
  { c with granted := insert (b.role, b.member) c.granted }

/-- The content without a pair. -/
def revoking (c : Content) (b : Binding) : Content :=
  { c with granted := c.granted.erase (b.role, b.member) }

theorem IsProper.granting {c : Content} (h : c.IsProper) {b : Binding}
    (hrole : b.role ≠ "") : (c.granting b).IsProper := by
  refine ⟨fun p hp => ?_, h.conditional⟩
  rcases Finset.mem_insert.mp hp with rfl | hold
  · exact hrole
  · exact h.role p hold

theorem IsProper.revoking {c : Content} (h : c.IsProper) (b : Binding) :
    (c.revoking b).IsProper :=
  ⟨fun p hp => h.role p (Finset.mem_of_mem_erase hp), h.conditional⟩

/-- The clauses of the canonical form. -/
def clauses (c : Content) : List Clause :=
  inOrder Clause.role (plain c.granted ++ c.conditional)

/-- The canonical form of a content, under an etag. -/
def written (c : Content) (etag : Json) : Json := form etag c.version c.clauses

theorem IsProper.clauses {c : Content} (h : c.IsProper) {k : Clause}
    (hk : k ∈ c.clauses) : k.IsProper ∧ k.hasMembers = true := by
  rw [Content.clauses, mem_inOrder, List.mem_append] at hk
  rcases hk with hplain | hcond
  · exact ⟨isProper_of_mem_plain h.role hplain, hasMembers_of_mem_plain hplain⟩
  · exact ⟨(h.conditional k hcond).1, (h.conditional k hcond).2.2⟩

theorem isWellFormed_written {c : Content} (h : c.IsProper) (etag : Json) :
    (c.written etag).isWellFormed = true :=
  isWellFormed_form (fun _ hk => (h.clauses hk).1) _ _

theorem filter_conditional_clauses {c : Content} (h : c.IsProper) :
    c.clauses.filter Clause.isConditional =
      inOrder Clause.role c.conditional := by
  rw [Content.clauses, filter_inOrder, List.filter_append]
  have hplain : (plain c.granted).filter Clause.isConditional = [] := by
    rw [List.filter_eq_nil_iff]
    intro k hk
    rw [isConditional_of_mem_plain hk]
    exact Bool.false_ne_true
  have hcond : c.conditional.filter Clause.isConditional = c.conditional :=
    List.filter_eq_self.mpr fun k hk => (h.conditional k hk).2.1
  rw [hplain, hcond, List.nil_append]

theorem pairs_clauses {c : Content} (h : c.IsProper) :
    pairs c.clauses = c.granted := by
  have hcond : pairs c.conditional = ∅ := by
    rw [Finset.eq_empty_iff_forall_notMem]
    rintro ⟨r, m⟩ hp
    obtain ⟨k, hk, hplain, -⟩ := mem_pairs.mp hp
    rw [(h.conditional k hk).2.1] at hplain
    cases hplain
  rw [Content.clauses, pairs_perm (inOrder_perm _ _), pairs_append,
    pairs_plain, hcond, Finset.union_empty]

/-- **The canonical form says what it was made from**, the conditional clauses
in order. -/
theorem of_written {c : Content} (h : c.IsProper) (etag : Json) :
    of (c.written etag) = c.settled := by
  have hclauses : GrantKeeper.clauses (c.written etag) = c.clauses :=
    clauses_form (fun k hk => (h.clauses hk).1) _ _
  have hfilter : c.clauses.filter (fun k => k.isConditional && k.hasMembers) =
      c.clauses.filter Clause.isConditional :=
    List.filter_congr fun k hk => by rw [(h.clauses hk).2, Bool.and_true]
  rw [of, hclauses, hfilter, filter_conditional_clauses h,
    pairs_clauses h, written, get_version_form, settled]

end Content

/-! ## Reading -/

/-- The etag, the version and the conditional entries are those of the content,
and its pairs are listed, each role once, by texts only. -/
structure Policy.Represents (d : Policy) (etag : Json) (c : Content) :
    Prop where
  etag : d.etag = etag
  version : d.version = c.version
  tidy : d.grants.Tidy
  lists : ∀ r m, d.grants.Lists r m ↔ (r, m) ∈ c.granted
  conditional : d.conditional = c.conditional.map Clause.fields

theorem Policy.Represents.holds_iff {d : Policy} {etag : Json} {c : Content}
    (h : d.Represents etag c) {r m : String} :
    d.holds r m = true ↔ (r, m) ∈ c.granted := by
  rw [Policy.holds_iff h.tidy.distinct, h.lists]

/-- The content of clauses that all have members. -/
def Content.ofClauses (version : Json) (cs : List Clause) : Content :=
  ⟨version, pairs cs, cs.filter Clause.isConditional⟩

namespace Clause

/-- Whatever it says, a clause is written so that it can be read. -/
theorem isReadable_written (c : Clause) : c.written.isReadable = true := by
  have htexts : ((Fields.get c.fields "members").orElse (.arr [])).isTexts =
      true := by
    rw [Fields.get_of_lookup c.lookup_members_fields, Json.orElse_arr,
      Json.isTexts, Json.all_isStr_map_str]
  have hrole : (Fields.get c.fields "role").isStr = true := rfl
  rw [written, Json.isReadable, htexts, hrole]
  simp

/-- A clause without condition is not set aside. -/
theorem aside?_written {c : Clause} (h : c.isConditional = false) :
    c.written.aside? = none := by
  rw [written, Json.aside?, Fields.get, Fields.get, lookup_condition_fields, h]
  simp

/-- Of clauses that were written, the conditional ones are set aside. -/
theorem filterMap_aside?_written {cs : List Clause} (h : ∀ c ∈ cs, c.IsProper) :
    (cs.map written).filterMap Json.aside? =
      (cs.filter isConditional).map fields := by
  induction cs with
  | nil => rfl
  | cons c cs ih =>
      have hproper := h c List.mem_cons_self
      have hrest := ih fun d hd => h d (List.mem_cons_of_mem c hd)
      have hrole : (Fields.get c.fields "role").truthy = true := by
        rw [Fields.get_of_lookup c.lookup_role_fields, Json.truthy_str,
          bne_iff_ne]
        exact hproper.role
      have haside : c.written.aside? =
          if c.isConditional then some c.fields else none := by
        rw [written, Json.aside?, hrole, hproper.get_condition, Bool.true_and]
        rfl
      by_cases hc : c.isConditional = true
      · simp [haside, hc, hrest]
      · simp [haside, hc, hrest]

end Clause

namespace WireEntry

theorem decode_of_elements {fields : Fields} {listed : List Json}
    {members : Keys}
    (hlisted : ((fields.lookup "members").getD (.arr [])).elements = .ok listed)
    (hmembers : Keys.insertAll [] listed = .ok members) :
    decode (.obj fields) = .ok ⟨fields, members⟩ := by
  simp only [decode, Json.fields, hlisted, hmembers, bind, Except.bind, pure,
    Except.pure]

/-- An entry gets through transit as its clause. -/
private theorem encode_of_isEntry {entry : Json} (h : entry.isEntry = true) :
    ∃ (c : Clause) (w : WireEntry),
      Clause.read? entry = some c ∧ decode entry = .ok w ∧
        w.members.isEmpty = !c.hasMembers ∧ w.encode = .ok c.fields := by
  obtain ⟨fields, role, members, rfl, hrole, hne, hmembers, -⟩ :=
    Json.exists_of_isEntry h
  obtain ⟨new, hnew, hnodup, hmem⟩ :=
    Keys.insertAll_texts List.nodup_nil members
  have hset : new.toFinset = members.toFinset := by
    ext s
    simp [hmem]
  have hlisted : ((fields.lookup "members").getD (.arr [])).elements =
      .ok (members.map .str) := by
    rw [hmembers]
    rfl
  refine ⟨⟨role, (Fields.get fields "condition").orElse .null, new.toFinset⟩,
    ⟨fields, new.map .str⟩, ?_, decode_of_elements hlisted hnew, ?_, ?_⟩
  · rw [Clause.read?_eq_some_iff]
    refine ⟨Fields.get_of_lookup hrole, hne, rfl, ?_⟩
    rw [Json.get_obj, Fields.get_of_lookup hmembers, Json.listed_arr,
      Json.texts_map_str]
    exact hset
  · cases new with
    | nil => rfl
    | cons s ss => simp [Clause.hasMembers]
  · simp only [encode_eq, hrole, Json.sort_texts hnodup, Except.map,
      Clause.fields, Clause.isConditional]
    by_cases hc : (Fields.get fields "condition").truthy = true
    · have hkept : (Fields.get fields "condition").orElse .null =
          Fields.get fields "condition" :=
        if_pos hc
      simp only [hkept]
    · have hnone : (Fields.get fields "condition").orElse .null =
          .null := if_neg hc
      simp [hnone, hc]

private theorem encodeAll_of_isEntry {entries : List Json}
    (h : ∀ e ∈ entries, e.isEntry = true) :
    ∃ ws : List WireEntry, decodeAll entries = .ok ws ∧
      encodeAll ws =
        .ok (((entries.filterMap Clause.read?).filter (·.hasMembers)).map
          Clause.fields) := by
  induction entries with
  | nil => exact ⟨[], rfl, rfl⟩
  | cons entry rest ih =>
      obtain ⟨c, w, hread, hw, hempty, hfields⟩ :=
        encode_of_isEntry (h entry List.mem_cons_self)
      obtain ⟨ws, hws, hrest⟩ :=
        ih fun e he => h e (List.mem_cons_of_mem entry he)
      refine ⟨w :: ws, ?_, ?_⟩
      · simp only [decodeAll, hw, hws, bind, Except.bind, pure, Except.pure]
      · rw [List.filterMap_cons_some hread, encodeAll, hempty]
        cases hc : c.hasMembers with
        | false =>
            rw [List.filter_cons_of_neg (by rw [hc]; exact Bool.false_ne_true),
              ← hrest]; rfl
        | true =>
            rw [List.filter_cons_of_pos hc, List.map_cons]
            simp only [hfields, hrest, bind, Except.bind, pure, Except.pure,
              Bool.not_true, Bool.false_eq_true, if_false]

end WireEntry

/-- **A well-formed policy gets through transit clause by clause**, in the order
of the roles. -/
theorem WirePolicy.encode_of_isWellFormed {policy : Json}
    (h : policy.isWellFormed = true) : ∃ w, decode policy = .ok w ∧
      w.encode = .ok (form (policy.get "etag") (policy.get "version")
        (inOrder Clause.role ((clauses policy).filter (·.hasMembers)))) := by
  obtain ⟨fields, entries, rfl, hbindings, hlisted, hentries⟩ :=
    Json.exists_of_isWellFormed h
  obtain ⟨ws, hws, hwritten⟩ := WireEntry.encodeAll_of_isEntry hentries
  refine ⟨⟨fields.get "etag", fields.get "version", ws⟩, ?_, ?_⟩
  · simp only [decode, Json.fields, hbindings, Json.elements, hws, bind,
      Except.bind, pure, Except.pure]
  · have hkey :
        ∀ f ∈ ((entries.filterMap Clause.read?).filter
          (·.hasMembers)).map Clause.fields,
        Fields.get f "role" = .str (((Fields.get f "role").text?).getD "") := by
      intro f hf
      obtain ⟨c, -, rfl⟩ := List.mem_map.mp hf
      rfl
    have hsorted := Json.sortedBy?_eq_inOrder hkey
    have hrole : ∀ c ∈ (entries.filterMap Clause.read?).filter (·.hasMembers),
        ((Fields.get c.fields "role").text?).getD "" = c.role := fun c _ => rfl
    rw [← map_inOrder hrole] at hsorted
    have hclauses : entries.filterMap Clause.read? = clauses (.obj fields) := by
      rw [clauses, hlisted]
    rw [hclauses] at hwritten hsorted
    simp only [encode, hwritten, hsorted, bind, Except.bind, pure, Except.pure]
    rw [form, Policy.assembled, List.map_map]
    rfl

namespace Policy

open Grants

/-- What was written clause by clause is read, and represents the content of the
clauses. -/
theorem decode_form {cs : List Clause}
    (h : ∀ c ∈ cs, c.IsProper ∧ c.hasMembers = true) (etag version : Json) :
    ∃ d, decode (form etag version cs) = .ok d ∧
      d.Represents etag (.ofClauses version cs) := by
  have hreadable : ∀ entry ∈ cs.map Clause.written,
      entry.isReadable = true := by
    intro entry hentry
    obtain ⟨c, hc, rfl⟩ := List.mem_map.mp hentry
    exact c.isReadable_written
  obtain ⟨d, hdecode, hread, -, htidy, hconditional⟩ :=
    exists_decode_assembled hreadable etag version
  refine ⟨d, hdecode, ?_⟩
  refine
    { etag := hread.etag.trans (get_etag_form etag version cs)
      version := hread.version.trans (get_version_form etag version cs)
      tidy := htidy
      lists := ?_
      conditional := ?_ }
  · intro r m
    have hclauses : clauses (form etag version cs) = cs :=
      clauses_form (fun c hc => (h c hc).1) _ _
    rw [form] at hclauses
    rw [hread.lists, Content.of, hclauses]
    exact Iff.rfl
  · rw [hconditional, Clause.filterMap_aside?_written fun c hc => (h c hc).1]
    rfl

/-! ## Writing -/

/-- The role of an entry of grants, where it is a text. -/
def roleOf (entry : Json × Keys) : String := entry.1.text?.getD ""

/-- The plain clause that an entry of tidy grants is written as. -/
private def clauseOf (entry : Json × Keys) : Clause :=
  ⟨roleOf entry, .null, (Json.texts entry.2).toFinset⟩

private theorem encodeEntries_texts {g : Grants} (h : ∀ e ∈ g, ∃ (role : String)
    (members : List String), e = (.str role, members.map .str) ∧
    members.Nodup) :
    encodeEntries g = .ok
      (((g.filter fun e => !e.2.isEmpty).map clauseOf).map Clause.written) := by
  induction g with
  | nil => rfl
  | cons e rest ih =>
      obtain ⟨role, members, rfl, hnodup⟩ := h e List.mem_cons_self
      have hrest := ih fun d hd => h d (List.mem_cons_of_mem _ hd)
      have hentry : encodeEntry (.str role, members.map .str) =
          .ok (clauseOf (.str role, members.map .str)).written := by
        simp only [encodeEntry, Json.sort_texts hnodup, bind, Except.bind, pure,
          Except.pure]
        rw [clauseOf, Json.texts_map_str]
        rfl
      rw [encodeEntries]
      by_cases hempty : (members.map Json.str).isEmpty = true
      · rw [if_pos hempty,
          List.filter_cons_of_neg (by simpa using hempty), hrest]
      · rw [if_neg hempty, List.filter_cons_of_pos (by simpa using hempty),
          hentry, hrest]
        rfl

/-- The entries of grants, in order, are the plain clauses of the pairs that
they list. -/
private theorem map_clauseOf_inOrder {g : Grants} (h : g.OfTexts)
    (hsome : ∀ e ∈ g, e.2 ≠ [])
    {granted : Finset (String × String)}
    (hlists : ∀ r m, g.Lists r m ↔ (r, m) ∈ granted) :
    (inOrder roleOf g).map clauseOf = plain granted := by
  have hclause : ∀ e ∈ inOrder roleOf g,
      clauseOf e = plainClause granted (roleOf e) := by
    intro e he
    obtain ⟨role, members, rfl, -⟩ := h.entry e (mem_inOrder.mp he)
    rw [clauseOf, plainClause, Json.texts_map_str]
    refine congrArg _ ?_
    ext m
    have hmembers : g.members (.str role) = members.map .str :=
      members_of_mem h.distinct (mem_inOrder.mp he)
    have hrole : roleOf (.str role, members.map .str) = role := rfl
    rw [mem_holders, ← hlists, ← str_mem_members_iff h.distinct,
      List.mem_toFinset, hrole, hmembers, Json.str_mem_map_str]
  have hnames : g.map roleOf = g.roles := by
    apply Json.str_injective.list_map
    rw [h.map_str_roles, List.map_map]
    apply List.map_congr_left
    intro e he
    obtain ⟨role, members, rfl, -⟩ := h.entry e he
    rfl
  have hroles : g.roles.toFinset = granted.image Prod.fst := by
    ext role
    rw [List.mem_toFinset, mem_roles, Finset.mem_image]
    constructor
    · rintro ⟨keys, he⟩
      obtain ⟨r, members, heq, -⟩ := h.entry _ he
      cases heq
      have hne : members ≠ [] := fun hnil => hsome _ he (by rw [hnil]; rfl)
      obtain ⟨m, hm⟩ := List.exists_mem_of_ne_nil members hne
      have hgranted : (role, m) ∈ granted :=
        (hlists _ _).mp ⟨_, he, Json.str_mem_map_str.mpr hm⟩
      exact ⟨(role, m), hgranted, rfl⟩
    · rintro ⟨⟨r, m⟩, hp, rfl⟩
      obtain ⟨keys, he, -⟩ := (hlists _ _).mpr hp
      exact ⟨keys, he⟩
  have hsorted : (inOrder roleOf g).map roleOf =
      (granted.image Prod.fst).sort := by
    have hmap : (inOrder roleOf g).map roleOf = inOrder id (g.map roleOf) :=
      map_inOrder fun _ _ => rfl
    rw [hmap, hnames, inOrder_id h.distinct, hroles]
  rw [List.map_congr_left hclause, plain, ← hsorted, List.map_map]
  rfl

/-- **A map of texts is written by the pairs that it lists alone**, and what was
set aside comes last. -/
theorem encode_texts {d : Policy} (h : d.grants.OfTexts)
    {granted : Finset (String × String)}
    (hlists : ∀ r m, d.grants.Lists r m ↔ (r, m) ∈ granted) :
    d.encode = .ok (assembled d.etag d.version
      ((plain granted).map Clause.written ++ d.conditional.map .obj)) := by
  have hkey : ∀ e ∈ d.grants, e.1 = .str (roleOf e) := by
    intro e he
    obtain ⟨role, members, rfl, -⟩ := h.entry e he
    rfl
  have hentries := encodeEntries_texts (g := inOrder roleOf d.grants)
    fun e he => h.entry e (mem_inOrder.mp he)
  have hsome : ∀ e ∈ d.grants.filter fun e => !e.2.isEmpty, e.2 ≠ [] := by
    intro e he hnil
    simp [hnil] at he
  have hplain := map_clauseOf_inOrder (h.filter _) hsome fun r m =>
    lists_filter.trans (hlists r m)
  rw [filter_inOrder, hplain] at hentries
  rw [encode_eq, Json.sortedBy?_eq_inOrder hkey]
  simp only [hentries, Except.map]

/-- What represents a content is written by it alone. -/
theorem encode_represents {d : Policy} {etag : Json} {c : Content}
    (h : d.Represents etag c) :
    d.encode = .ok
      (form etag c.version (plain c.granted ++ c.conditional)) := by
  rw [encode_texts h.tidy.ofTexts h.lists, form, h.etag, h.version,
    h.conditional, List.map_append, List.map_map]
  rfl

end Policy

/-! ## Both together -/

/-- What is left of clauses in transit: those with members, in the order of
their roles. -/
private theorem ofClauses_inOrder (policy : Json) :
    Content.ofClauses (policy.get "version")
      (inOrder Clause.role ((clauses policy).filter (·.hasMembers))) =
        (Content.of policy).settled := by
  rw [Content.ofClauses, Content.settled, Content.of,
    pairs_perm (inOrder_perm _ _), pairs_filter_hasMembers, filter_inOrder,
    List.filter_filter]

namespace Client

/-- **A well-formed policy is read**, and represents its content. -/
theorem exists_policyOf {policy : Json} (h : policy.isWellFormed = true) :
    ∃ d, policyOf policy = .ok d ∧
      d.Represents (policy.get "etag") (Content.of policy).settled := by
  obtain ⟨w, hw, hvalue⟩ := WirePolicy.encode_of_isWellFormed h
  have hclauses :
      ∀ c ∈ inOrder Clause.role ((clauses policy).filter (·.hasMembers)),
        c.IsProper ∧ c.hasMembers = true := by
    intro c hc
    obtain ⟨hmem, hmembers⟩ := List.mem_filter.mp (mem_inOrder.mp hc)
    exact ⟨isProper_of_mem_clauses h hmem, hmembers⟩
  obtain ⟨d, hd, hrep⟩ :=
    Policy.decode_form hclauses (policy.get "etag") (policy.get "version")
  refine ⟨d, ?_, ofClauses_inOrder policy ▸ hrep⟩
  simp only [policyOf, hw, hvalue, hd, bind, Except.bind]

/-- **What represents a content is sent in its canonical form.** -/
theorem payloadOf_represents {d : Policy} {etag : Json} {c : Content}
    (h : d.Represents etag c)
    (hproper : c.IsProper) : payloadOf d = .ok (c.written etag) := by
  have hparts : ∀ k ∈ plain c.granted ++ c.conditional,
      k.IsProper ∧ k.hasMembers = true :=
    fun k hk => hproper.clauses (mem_inOrder.mpr hk)
  have hwell :
      (form etag c.version (plain c.granted ++ c.conditional)).isWellFormed =
        true :=
    isWellFormed_form (fun k hk => (hparts k hk).1) _ _
  obtain ⟨w, hw, hvalue⟩ := WirePolicy.encode_of_isWellFormed hwell
  have hfilter : (plain c.granted ++ c.conditional).filter (·.hasMembers) =
      plain c.granted ++ c.conditional :=
        List.filter_eq_self.mpr fun k hk => (hparts k hk).2
  rw [clauses_form (fun k hk => (hparts k hk).1), get_etag_form,
    get_version_form, hfilter] at hvalue
  simp only [payloadOf, Policy.encode_represents h, hw, hvalue, bind,
    Except.bind]
  rfl

end Client

/-! ## Resolving -/

namespace Policy.Represents

variable {d : Policy} {etag : Json} {c : Content} {b : Binding}

/-- Granting puts one pair in. -/
theorem grant (h : d.Represents etag c) (hrole : b.role ≠ "") :
    (d.grant b).1.Represents etag (c.granting b) where
  etag := by rw [grant_etag, h.etag]
  version := by rw [grant_version, h.version]; rfl
  tidy := tidy_grant h.tidy hrole
  lists r m := by
    rw [lists_grant h.tidy.distinct, h.lists, Content.granting,
      Finset.mem_insert, Prod.mk.injEq]
  conditional := by rw [grant_conditional, h.conditional]; rfl

/-- Revoking takes one pair out. -/
theorem revoke (h : d.Represents etag c) (hrole : b.role ≠ "") :
    (d.revoke b).1.Represents etag (c.revoking b) where
  etag := by rw [revoke_etag, h.etag]
  version := by rw [revoke_version, h.version]; rfl
  tidy := tidy_revoke h.tidy hrole
  lists r m := by
    rw [lists_revoke h.tidy.distinct, h.lists, Content.revoking,
      Finset.mem_erase, ne_eq, Prod.mk.injEq]
  conditional := by rw [revoke_conditional, h.conditional]; rfl

end Policy.Represents

end GrantKeeper
