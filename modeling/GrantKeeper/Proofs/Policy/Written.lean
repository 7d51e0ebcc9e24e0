import GrantKeeper.Proofs.Json.Agreement
import GrantKeeper.Proofs.Policy.Canonical
import GrantKeeper.Proofs.Policy.Maps

/-!
# Reading what was written

A policy that is a map from names to sets of texts can be written, and what was
written is read back.  Writing leaves out the roles that have no members, and an
absent map comes back as an empty one; everything else comes back as it was,
conditional entries included, because an entry is set aside exactly for what
sets conditional entries apart.  To write what was read gives the same value
again.

## Main results

* `Policy.same_iff` — when policies that agree on all else are the same.
* `Policy.exists_rereading` — what comes back of a policy.
* `Policy.decode_undoes_encode` — when it is the policy itself.
-/

namespace GrantKeeper

/-! ## Equal sets and maps -/

/-- Sets of texts are the same when they have the same texts. -/
theorem Keys.same_texts_iff {ss ts : List String} (hss : ss.Nodup)
    (hts : ts.Nodup) :
    Keys.same (ss.map .str) (ts.map .str) = true ↔ ∀ s, s ∈ ss ↔ s ∈ ts := by
  have hany (s : String) : (ts.map Json.str).any (Json.str s).same = true ↔
      s ∈ ts := by
    simp
  rw [Keys.same, Bool.and_eq_true, beq_iff_eq, List.length_map, List.length_map,
    List.all_eq_true, List.forall_mem_map]
  simp only [hany]
  constructor
  · rintro ⟨hlength, hsub⟩
    have hperm := (List.subperm_of_subset hss hsub).perm_of_length_le hlength.ge
    intro s
    exact hperm.mem_iff
  · intro h
    have hperm := (List.perm_ext_iff_of_nodup hss hts).mpr h
    exact ⟨hperm.length_eq, fun s hs => (h s).mp hs⟩

namespace Grants

variable {g g' : Grants}

theorem length_eq_of_same (h : g.same g' = true) : g.length = g'.length := by
  rw [Grants.same, Bool.and_eq_true, beq_iff_eq] at h
  exact h.1

/-- The pairs of texts that are listed. -/
def granted (g : Grants) : Finset (String × String) :=
  (g.flatMap fun e => e.1.text?.toList.product (Json.texts e.2)).toFinset

theorem mem_granted {r m : String} : (r, m) ∈ g.granted ↔ g.Lists r m := by
  simp only [granted, List.mem_toFinset, List.mem_flatMap,
    List.pair_mem_product, Option.mem_toList, Json.text?_eq_some_iff,
    Json.mem_texts]
  constructor
  · rintro ⟨⟨x, keys⟩, he, rfl, hm⟩
    exact ⟨keys, he, hm⟩
  · rintro ⟨keys, he, hm⟩
    exact ⟨(.str r, keys), he, rfl, hm⟩

end Grants

namespace Policy

open Grants

variable {d read : Policy}

/-- Values in the policy are such that they equal themselves. -/
def namesApart (d : Policy) : Bool :=
  d.etag.namesApart && d.version.namesApart &&
    (Json.arr (d.conditional.map .obj)).namesApart

/-- Policies that agree on all else are the same when their grants are. -/
theorem same_iff {e : Policy} {g : Grants} (hnames : d.namesApart = true)
    (hg : d.grants? = some g)
    (hetag : e.etag = d.etag) (hversion : e.version = d.version)
    (hconditional : e.conditional = d.conditional) :
    d.same e = true ↔ ∃ g', e.grants? = some g' ∧ g.same g' = true := by
  simp only [namesApart, Bool.and_eq_true] at hnames
  obtain ⟨⟨hetag', hversion'⟩, hconditional'⟩ := hnames
  rw [Policy.same, hg, hetag, hversion, hconditional, Json.same_self hetag',
    Json.same_self hversion', Json.same_self hconditional']
  cases e.grants? <;> simp

/-! ## Writing and reading again -/

/-- The entry is set aside by a reader: it names a role, and has a condition. -/
def IsAside (entry : Fields) : Prop :=
  (Fields.get entry "role").truthy = true ∧
    (Fields.get entry "condition").truthy = true

instance (entry : Fields) : Decidable (IsAside entry) :=
  inferInstanceAs (Decidable (_ ∧ _))

theorem IsAside.aside? {entry : Fields} (h : IsAside entry) :
    (Json.obj entry).aside? = some entry := by
  rw [Json.aside?, h.1, h.2]
  rfl

/-- Behind plain entries, what is set aside is what follows them. -/
private theorem filterMap_aside?_plain {granted : Finset (String × String)}
    {conditional : List Fields} (h : ∀ entry ∈ conditional, IsAside entry) :
    ((plain granted).map Clause.written ++ conditional.map Json.obj).filterMap
      Json.aside? = conditional := by
  have hnone : ((plain granted).map Clause.written).filterMap
      Json.aside? = [] := by
    rw [List.filterMap_eq_nil_iff, List.forall_mem_map]
    exact fun c hc => Clause.aside?_written (isConditional_of_mem_plain hc)
  have hall : conditional.filterMap (Json.aside? ∘ Json.obj) =
      conditional.filterMap some :=
    List.filterMap_congr fun entry hentry => (h entry hentry).aside?
  rw [List.filterMap_append, hnone, List.filterMap_map, hall,
    List.filterMap_some, List.nil_append]

/-- A map of texts is written by its pairs. -/
theorem encode_granted (h : d.grants.OfTexts) :
    d.encode = .ok
      (assembled d.etag d.version ((plain d.grants.granted).map
        Clause.written ++ d.conditional.map .obj)) :=
  encode_texts h fun _ _ => mem_granted.symm

/-- What comes back of a policy that was written. -/
structure IsRereadAs (d read : Policy) : Prop where
  etag : read.etag = d.etag
  version : read.version = d.version
  bindings : read.grants? = some read.grants
  tidy : read.grants.Tidy
  lists : ∀ r m, read.grants.Lists r m ↔ d.grants.Lists r m
  conditional : read.conditional = d.conditional

/-- **A map from names to texts can be written, and comes back.** -/
theorem exists_rereading (hgrants : d.grants.OfNames)
    (haside : ∀ entry ∈ d.conditional, IsAside entry) :
    ∃ payload read,
      d.encode = .ok payload ∧ decode payload = .ok read ∧
        d.IsRereadAs read := by
  have hencode := encode_granted hgrants.toOfTexts
  have hreadable :
      ∀ entry ∈ (plain d.grants.granted).map Clause.written ++
          d.conditional.map .obj, entry.isReadable = true := by
    intro entry hentry
    rcases List.mem_append.mp hentry with hplain | hconditional
    · obtain ⟨c, -, rfl⟩ := List.mem_map.mp hplain
      exact c.isReadable_written
    · obtain ⟨fields, hfields, rfl⟩ := List.mem_map.mp hconditional
      rw [Json.isReadable, (haside fields hfields).2]
      simp
  obtain ⟨read, hdecode, hread, hbindings, htidy, hconditional⟩ :=
    exists_decode_assembled hreadable d.etag d.version
  obtain ⟨hetag, hversion, hlists⟩ :=
    mem_granted_encode hencode fun entry hentry => (haside entry hentry).2
  refine ⟨_, read, hencode, hdecode, ?_⟩
  refine
    { etag := hread.etag.trans hetag
      version := hread.version.trans hversion
      bindings := hbindings
      tidy := htidy
      lists := ?_
      conditional := hconditional.trans (filterMap_aside?_plain haside) }
  intro r m
  rw [hread.lists, hlists, and_iff_right_iff_imp]
  rintro ⟨keys, he, -⟩
  exact hgrants.named r (mem_roles.mpr ⟨keys, he⟩)

/-- To write what came back gives the same value again. -/
theorem IsRereadAs.encode_eq (h : d.IsRereadAs read)
    (hgrants : d.grants.OfTexts) : read.encode = d.encode := by
  have hgranted : read.grants.granted = d.grants.granted := by
    ext ⟨r, m⟩
    rw [mem_granted, mem_granted, h.lists]
  rw [encode_granted h.tidy.ofTexts, encode_granted hgrants, h.etag, h.version,
    h.conditional, hgranted]

/-- The policy with a map in any case, in which every role has members. -/
def pruned (d : Policy) : Policy :=
  { d with grants? := some (d.grants.filter fun e => !e.2.isEmpty) }

/-- A policy equals what agrees with it and has the same grants. -/
private theorem IsRereadAs.same_iff {e : Policy} (h : d.IsRereadAs read)
    (hnames : d.namesApart = true)
    (hetag : e.etag = d.etag) (hversion : e.version = d.version)
    (hconditional : e.conditional = d.conditional) :
    read.same e = true ↔
      ∃ g, e.grants? = some g ∧ read.grants.same g = true := by
  have hnames' : read.namesApart = true := by
    rw [← hnames, namesApart, namesApart, h.etag, h.version, h.conditional]
  exact Policy.same_iff hnames' h.bindings (hetag.trans h.etag.symm)
    (hversion.trans h.version.symm)
    (hconditional.trans h.conditional.symm)

/-- **Reading undoes writing**, but for roles without members and for an absent
map: so it gives back the policy itself exactly when there is a map and all
roles of it have members.  To write what was read gives the same value as
before. -/
theorem decode_undoes_encode (hgrants : d.grants.OfNames)
    (haside : ∀ entry ∈ d.conditional, IsAside entry)
    (hnames : d.namesApart = true) :
    ∃ payload read, d.encode = .ok payload ∧ decode payload = .ok read ∧
      read.same d.pruned = true ∧
      (read.same d = true ↔ ∃ g, d.grants? = some g ∧ ∀ e ∈ g, e.2 ≠ []) ∧
      read.encode = .ok payload := by
  obtain ⟨payload, read, hencode, hdecode, hreread⟩ :=
    exists_rereading hgrants haside
  have hpruned : read.grants.same (d.grants.filter fun e => !e.2.isEmpty) =
      true :=
    same_of_lists hreread.tidy hgrants.tidy fun r m =>
      (hreread.lists r m).trans lists_filter.symm
  refine ⟨payload, read, hencode, hdecode, ?_, ?_,
    (hreread.encode_eq hgrants.toOfTexts).trans hencode⟩
  · exact (hreread.same_iff (e := d.pruned) hnames rfl rfl rfl).mpr
      ⟨_, rfl, hpruned⟩
  · rw [hreread.same_iff hnames rfl rfl rfl]
    apply exists_congr
    intro g
    apply and_congr_right
    intro hg
    have hd : d.grants = g := by
      rw [Policy.grants, hg]
      rfl
    rw [hd] at hpruned
    constructor
    · intro hsame
      have hlength :=
        (length_eq_of_same hpruned).symm.trans (length_eq_of_same hsame)
      rw [List.length_filter_eq_length_iff] at hlength
      intro e he hnil
      simpa [hnil] using hlength e he
    · intro hsome
      have hall : (g.filter fun e => !e.2.isEmpty) = g := by
        rw [List.filter_eq_self]
        intro e he
        simpa using hsome e he
      rwa [hall] at hpruned

/-- A policy with a role that nobody has, and one that somebody has under a
condition. -/
def vacated : Policy where
  etag := .str "1"
  version := .int 3
  grants? := some [(.str "r/2", []), (.str "r/1", [.str "u:b", .str "u:a"])]
  conditional := [[("role", .str "r/1"), ("members", .arr [.str "u:c"]),
    ("condition", .obj [("title", .str "t")])]]

theorem decode_undoes_encode_vacated :
    ∃ payload read, vacated.encode = .ok payload ∧ decode payload = .ok read ∧
      read.same vacated.pruned = true ∧ read.same vacated = false := by
  obtain ⟨payload, read, hencode, hdecode, hsame, hiff, -⟩ :=
    decode_undoes_encode (d := vacated) (by decide) (by decide) (by decide)
  refine ⟨payload, read, hencode, hdecode, hsame, ?_⟩
  rw [Bool.eq_false_iff, ne_eq, hiff]
  rintro ⟨g, hg, hall⟩
  cases hg
  exact hall (.str "r/2", []) List.mem_cons_self rfl

end Policy

end GrantKeeper
