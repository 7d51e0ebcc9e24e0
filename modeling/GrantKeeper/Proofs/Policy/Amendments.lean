import GrantKeeper.Proofs.Policy.Amended
import GrantKeeper.Proofs.Policy.Written

/-!
# Sequences of amendments

A policy is amended step by step, each step made to what the one before it left.
One step decides about one pair and leaves all else, so after a sequence the
last step that names a pair has decided about it, and pairs that no step names
are as they were.  A policy with a map in which every role has members keeps it
that way; then nothing but the last steps can be told from what a sequence
leaves.

## Main results

* `Amendment.has_apply` — what one step does.
* `Policy.has_through` — what a sequence does.
* `Policy.IsPruned.through` — no step leaves a role without members.
* `Policy.same_through` — sequences with the same last step for each pair leave
  the same policy.
* `Policy.last_step_decides` — all of it together.
-/

namespace GrantKeeper

open Grants

/-- A request that a member be given a role, or lose it. -/
structure Amendment where
  binding : Binding
  removal : Bool
deriving DecidableEq, Repr

namespace Policy

/-- There is a map, and every role in it has members. -/
def IsPruned (d : Policy) : Prop := ∃ g, d.grants? = some g ∧ g.IsPruned

variable {d : Policy} {b : Binding}

/-! ## One step -/

theorem isMap_grant (h : d.grants.IsMap) (b : Binding) :
    (d.grant b).1.grants.IsMap := by
  cases hb : d.holds b.role b.member with
  | true => rwa [grant_of_holds hb]
  | false =>
      rw [grants_grant hb]
      exact h.put (Json.isKey_str _)
        ((h.isSet_members _).insert (Json.isKey_str _))

theorem isMap_revoke (h : d.grants.IsMap) (b : Binding) :
    (d.revoke b).1.grants.IsMap := by
  cases hb : d.holds b.role b.member with
  | false => rwa [revoke_of_not_holds hb]
  | true =>
      rw [grants_revoke hb]
      split
      · exact h.remove _
      · exact h.put (Json.isKey_str _) ((h.isSet_members _).remove _)

theorem IsPruned.grants (h : d.IsPruned) : d.grants.IsPruned := by
  obtain ⟨g, hg, hpruned⟩ := h
  rwa [Policy.grants, hg]

theorem IsPruned.grants? (h : d.IsPruned) : d.grants? = some d.grants := by
  obtain ⟨g, hg, -⟩ := h
  rw [Policy.grants, hg]
  rfl

theorem IsPruned.grant (h : d.IsPruned) (b : Binding) :
    (d.grant b).1.IsPruned := by
  cases hb : d.holds b.role b.member with
  | true => rwa [grant_of_holds hb]
  | false =>
      refine ⟨_, by rw [Policy.grant, hb, if_neg Bool.false_ne_true],
        h.grants.put _ ?_⟩
      exact List.ne_nil_of_mem (Keys.mem_insert_str.mpr (Or.inr rfl))

theorem IsPruned.revoke (h : d.IsPruned) (b : Binding) :
    (d.revoke b).1.IsPruned := by
  cases hb : d.holds b.role b.member with
  | false => rwa [revoke_of_not_holds hb]
  | true =>
      refine ⟨_, by rw [Policy.revoke, hb, if_pos rfl], ?_⟩
      split
      · exact h.grants.remove _
      · rename_i hsome
        exact h.grants.put _ fun hnil => hsome (List.isEmpty_iff.mpr hnil)

end Policy

namespace Amendment

variable {a : Amendment} {d : Policy} {x y : Json}

/-- The policy after the step, and whether that is a change. -/
def apply (a : Amendment) (d : Policy) : Policy × Bool :=
  if a.removal then d.revoke a.binding else d.grant a.binding

/-- The role and the member that the step is about. -/
def pair (a : Amendment) : String × String := (a.binding.role, a.binding.member)

/-- The step is about the pair. -/
def names (a : Amendment) (role member : Json) : Bool :=
  role.same (.str a.binding.role) && member.same (.str a.binding.member)

theorem names_iff : a.names x y = true ↔
    x = .str a.binding.role ∧ y = .str a.binding.member := by
  rw [names, Bool.and_eq_true, Json.same_str_right_iff, Json.same_str_right_iff]

theorem apply_fst (a : Amendment) (d : Policy) :
    (a.apply d).1 = d.amended a.binding a.removal := by
  rw [apply, Policy.amended]
  split <;> rfl

theorem isMap_apply (h : d.grants.IsMap) (a : Amendment) :
    (a.apply d).1.grants.IsMap := by
  unfold apply
  split
  · exact Policy.isMap_revoke h _
  · exact Policy.isMap_grant h _

theorem isPruned_apply (h : d.IsPruned) (a : Amendment) :
    (a.apply d).1.IsPruned := by
  unfold apply
  split
  · exact h.revoke _
  · exact h.grant _

/-- **One step decides about one pair** and leaves all else. -/
theorem has_apply (h : d.grants.Distinct) :
    (a.apply d).1.grants.Has x y ↔
      if a.names x y then a.removal = false else d.grants.Has x y := by
  unfold apply
  cases hremoval : a.removal with
  | true =>
      rw [if_pos rfl, Policy.has_revoke h, ← names_iff]
      split <;> simp_all
  | false =>
      rw [if_neg Bool.false_ne_true, Policy.has_grant h, ← names_iff]
      split <;> simp_all

/-- A step reports a change iff what it asks for was not so. -/
theorem apply_changed (h : d.grants.Distinct) : (a.apply d).2 = true ↔
    ¬ (d.grants.Has (.str a.binding.role) (.str a.binding.member) ↔
      a.removal = false) := by
  have hholds : d.grants.Has (.str a.binding.role) (.str a.binding.member) ↔
      d.holds a.binding.role a.binding.member = true :=
        (Policy.holds_iff h).symm
  rw [hholds, apply]
  cases a.removal with
  | true => simp
  | false => simp

/-- A step that reports no change returns the policy it was given. -/
theorem apply_eq_self (h : (a.apply d).2 = false) : (a.apply d).1 = d := by
  unfold apply at h ⊢
  cases hremoval : a.removal with
  | true =>
      rw [hremoval, if_pos rfl, Policy.revoke_changed] at h
      rw [if_pos rfl, Policy.revoke_of_not_holds h]
  | false =>
      rw [hremoval, if_neg Bool.false_ne_true, Policy.grant_changed,
        Bool.not_eq_false'] at h
      rw [if_neg Bool.false_ne_true, Policy.grant_of_holds h]

/-- What the last step that names the pair asks for, if some step names it. -/
def verdict? (as : List Amendment) (role member : Json) : Option Bool :=
  (as.reverse.find? fun a => a.names role member).map fun a => !a.removal

theorem verdict?_nil (x y : Json) : verdict? [] x y = none := rfl

theorem verdict?_cons (a : Amendment) (as : List Amendment) (x y : Json) :
    verdict? (a :: as) x y =
      (verdict? as x y).or
        (if a.names x y then some (!a.removal) else none) := by
  rw [verdict?, verdict?, List.reverse_cons, List.find?_append,
    List.find?_singleton, Option.map_or]
  congr 1
  split <;> rfl

/-- Steps about different pairs have the same verdicts in either order. -/
theorem verdict?_swap {c : Amendment} (h : a.pair ≠ c.pair) (x y : Json) :
    verdict? [a, c] x y = verdict? [c, a] x y := by
  have hone : ¬ (a.names x y = true ∧ c.names x y = true) := by
    rw [names_iff, names_iff]
    rintro ⟨⟨rfl, rfl⟩, hrole, hmember⟩
    exact h (Prod.ext (Json.str.inj hrole) (Json.str.inj hmember))
  simp only [verdict?_cons, verdict?_nil]
  cases ha : a.names x y with
  | true =>
      have hc : c.names x y = false := by simpa [ha] using hone
      simp [hc]
  | false => cases c.names x y <;> simp

end Amendment

/-! ## Sequences -/

namespace Policy

open Amendment

variable {d : Policy} {x y : Json}

/-- The policy after steps, each made to what the one before left. -/
def through (d : Policy) (as : List Amendment) : Policy :=
  as.foldl (fun e a => (a.apply e).1) d

@[simp] theorem through_nil (d : Policy) : d.through [] = d := rfl

@[simp] theorem through_cons (d : Policy) (a : Amendment)
    (as : List Amendment) :
    d.through (a :: as) = (a.apply d).1.through as := rfl

theorem isMap_through (h : d.grants.IsMap) (as : List Amendment) :
    (d.through as).grants.IsMap := by
  induction as generalizing d with
  | nil => exact h
  | cons a as ih => exact ih (isMap_apply h a)

/-- **No step leaves a role without members.** -/
theorem IsPruned.through (h : d.IsPruned) (as : List Amendment) :
    (d.through as).IsPruned := by
  induction as generalizing d with
  | nil => exact h
  | cons a as ih => exact ih (isPruned_apply h a)

/-- Etag, version and conditional entries stay. -/
theorem aside_through (d : Policy) (as : List Amendment) :
    (d.through as).etag = d.etag ∧
    (d.through as).version = d.version ∧ (d.through as).conditional =
      d.conditional := by
  induction as generalizing d with
  | nil => exact ⟨rfl, rfl, rfl⟩
  | cons a as ih =>
      obtain ⟨hetag, hversion, hconditional⟩ := ih (a.apply d).1
      rw [apply_fst] at hetag hversion hconditional
      rw [through_cons, apply_fst]
      exact ⟨hetag.trans (etag_amended _ _ _),
        hversion.trans (version_amended _ _ _),
        hconditional.trans (conditional_amended _ _ _)⟩

theorem namesApart_through (d : Policy) (as : List Amendment) :
    (d.through as).namesApart = d.namesApart := by
  obtain ⟨hetag, hversion, hconditional⟩ := aside_through d as
  rw [namesApart, namesApart, hetag, hversion, hconditional]

/-- **The last step that names a pair decides about it**, and all other pairs
are as they were. -/
theorem has_through (h : d.grants.IsMap) (as : List Amendment) :
    (d.through as).grants.Has x y ↔
      verdict? as x y = some true ∨ verdict? as x y = none ∧
      d.grants.Has x y := by
  induction as generalizing d with
  | nil => simp [verdict?_nil]
  | cons a as ih =>
      rw [through_cons, ih (isMap_apply h a), has_apply h.distinct,
        verdict?_cons]
      cases verdict? as x y with
      | some asked => simp
      | none =>
          by_cases hnames : a.names x y = true
          · simp [hnames]
          · simp [hnames]

/-- Policies that steps lead to from one policy are the same when they have the
same. -/
theorem same_of_has_through (hmap : d.grants.IsMap)
    (hnames : d.namesApart = true)
    (hpruned : d.IsPruned) (as as' : List Amendment)
    (h : ∀ x y, (d.through as).grants.Has x y ↔
      (d.through as').grants.Has x y) :
    (d.through as).same (d.through as') = true := by
  obtain ⟨hetag, hversion, hconditional⟩ := aside_through d as
  obtain ⟨hetag', hversion', hconditional'⟩ := aside_through d as'
  have hnames' := (namesApart_through d as).trans hnames
  rw [same_iff hnames' (hpruned.through as).grants? (hetag'.trans hetag.symm)
    (hversion'.trans hversion.symm) (hconditional'.trans hconditional.symm)]
  exact ⟨_, (hpruned.through as').grants?,
    same_of_has (isMap_through hmap as) (isMap_through hmap as')
    (hpruned.through as).grants (hpruned.through as').grants h⟩

/-- **Sequences with the same last step for each pair leave the same
policy.** -/
theorem same_through (hmap : d.grants.IsMap) (hnames : d.namesApart = true)
    (hpruned : d.IsPruned)
    {as as' : List Amendment} (h : ∀ x y, verdict? as x y = verdict? as' x y) :
    (d.through as).same (d.through as') = true :=
  same_of_has_through hmap hnames hpruned as as' fun x y => by
    rw [has_through hmap, has_through hmap, h]

/-- A step that is made again changes nothing. -/
theorem through_twice (h : d.grants.IsMap) (a : Amendment) :
    d.through [a, a] = d.through [a] := by
  apply apply_eq_self
  rw [Bool.eq_false_iff, ne_eq,
    apply_changed (isMap_apply h a).distinct, not_not, has_apply h.distinct,
    if_pos (names_iff.mpr ⟨rfl, rfl⟩)]

/-- **A change that is undone gives the policy back.** -/
theorem same_through_undone (hmap : d.grants.IsMap)
    (hnames : d.namesApart = true)
    (hpruned : d.IsPruned) {a : Amendment} (h : (a.apply d).2 = true) :
    (d.through [a, ⟨a.binding, !a.removal⟩]).same d = true := by
  refine same_of_has_through hmap hnames hpruned _ [] fun x y => ?_
  rw [apply_changed hmap.distinct] at h
  rw [has_through hmap, verdict?_cons, verdict?_cons, verdict?_nil, through_nil]
  have hsame : Amendment.names ⟨a.binding, !a.removal⟩ x y = a.names x y := rfl
  rw [hsame]
  by_cases hpair : a.names x y = true
  · obtain ⟨rfl, rfl⟩ := names_iff.mp hpair
    rw [if_pos hpair, if_pos hpair]
    cases hremoval : a.removal <;> simp_all
  · simp [hpair]

/-- **The last step that names a pair decides.**  Whatever steps are made to a
policy, they leave each pair as the last step that names it asks, and pairs that
none names, the etag, the version and the conditional entries as they were; each
step reports a change iff the pair was not as it asks, and returns the policy it
was given if it reports none.  If every role has members at the start, every
role has members after each step; then sequences with the same last step for
each pair leave the same policy, steps about different pairs commute, a step
that is made again does nothing, and a change that is undone gives the policy
back. -/
theorem last_step_decides (hmap : d.grants.IsMap) (hnames : d.namesApart = true)
    (as : List Amendment) :
    (∀ x y, (d.through as).grants.Has x y ↔
      verdict? as x y = some true ∨ verdict? as x y = none ∧ d.grants.Has x y) ∧
    ((d.through as).etag = d.etag ∧ (d.through as).version = d.version ∧
      (d.through as).conditional = d.conditional) ∧
    (∀ front a back, as = front ++ a :: back →
      let before := d.through front
      ((a.apply before).2 = true ↔
        ¬ (before.grants.Has (.str a.binding.role) (.str a.binding.member) ↔
          a.removal = false)) ∧
      ((a.apply before).2 = false → (a.apply before).1 = before)) ∧
    (d.IsPruned →
      (∀ front back, as = front ++ back → (d.through front).IsPruned) ∧
      (∀ as', (∀ x y, verdict? as x y = verdict? as' x y) →
        (d.through as).same (d.through as') = true) ∧
      let last := d.through as
      (∀ a c : Amendment, a.pair ≠ c.pair →
        (last.through [a, c]).same (last.through [c, a]) = true) ∧
      (∀ a, last.through [a, a] = last.through [a]) ∧
      ∀ (b : Binding) removal,
        (last.grants.Has (.str b.role) (.str b.member) ↔ removal = true) →
        (last.through [⟨b, removal⟩, ⟨b, !removal⟩]).same last = true) := by
  refine ⟨fun x y => has_through hmap as, aside_through d as,
    fun front a back _ => ?_, fun hpruned => ?_⟩
  · exact ⟨apply_changed (isMap_through hmap front).distinct, apply_eq_self⟩
  · have hmap' := isMap_through hmap as
    have hnames' := (namesApart_through d as).trans hnames
    have hpruned' := hpruned.through as
    refine ⟨fun front back _ => hpruned.through front,
      fun as' => same_through hmap hnames hpruned,
      fun a c hne => same_through hmap' hnames' hpruned' (verdict?_swap hne),
      through_twice hmap',
      fun b removal hbefore => ?_⟩
    have hchanged : (Amendment.apply ⟨b, removal⟩ (d.through as)).2 = true := by
      rw [apply_changed hmap'.distinct, hbefore]
      cases removal <;> simp
    exact same_through_undone hmap' hnames' hpruned' hchanged

/-- A policy with a role that is no text. -/
def cluttered : Policy where
  etag := .str "1"
  version := .null
  grants? := some [(.int 3, [.str "u:a", .int 7]), (.str "r/2", [.str "u:a"])]
  conditional := []

theorem last_step_decides_cluttered :
    let given : Amendment := ⟨⟨"b", "r/1", "u:a"⟩, false⟩
    let taken : Amendment := ⟨⟨"b", "r/2", "u:a"⟩, true⟩
    let last := cluttered.through [given, taken]
    last.grants.Has (.str "r/1") (.str "u:a") ∧
      ¬ last.grants.Has (.str "r/2") (.str "u:a") ∧
      last.grants.Has (.int 3) (.int 7) ∧
      last.same (cluttered.through [taken, given]) = true ∧
      (last.through [⟨given.binding, true⟩, ⟨given.binding, false⟩]).same last =
        true := by
  intro given taken last
  obtain ⟨hhas, -, -, hpruned⟩ :=
    last_step_decides (d := cluttered) (by decide) (by decide) [given, taken]
  obtain ⟨-, hsame, -, -, hundone⟩ := hpruned ⟨_, rfl, by decide⟩
  have hgiven : last.grants.Has (.str "r/1") (.str "u:a") :=
    (hhas _ _).mpr (Or.inl (by decide))
  refine ⟨hgiven, fun htaken => ?_, (hhas _ _).mpr (Or.inr ⟨by decide, ?_⟩),
    hsame _ (verdict?_swap (by decide)),
    hundone given.binding true (iff_of_true hgiven rfl)⟩
  · rcases (hhas _ _).mp htaken with hasked | ⟨hunnamed, -⟩
    · exact absurd hasked (by decide)
    · exact absurd hunnamed (by decide)
  · exact ⟨[.str "u:a", .int 7], List.mem_cons_self, by simp⟩

/-- Where nobody has a role, an undone change can be told. -/
theorem not_same_through_undone :
    let vacant : Policy := { cluttered with grants? := some [(.str "r/1", [])] }
    let b : Binding := ⟨"b", "r/1", "u:a"⟩
    (vacant.through [⟨b, false⟩, ⟨b, true⟩]).same vacant = false := by
  decide

end Policy

end GrantKeeper
