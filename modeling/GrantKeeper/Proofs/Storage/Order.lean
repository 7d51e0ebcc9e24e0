import GrantKeeper.Proofs.Storage.Convergence

/-!
# Resources in any order

Cycles for several resources are run one after another, without other writers.
Every one of them writes the whole policy of its bucket anew, and yet their
order does not matter.  Up to its etag, a policy is turned by a cycle into one
that depends on nothing else, and turns for different pairs can be made in
either order.

## Main results

* `Json.turned_comm`, `View.turned_comm` — two turns can be made in either
  order.
* `World.run_turn` — a cycle makes its turn.
* `reconcile_in_any_order` — all orders lead to the same actions and policies,
  and then nothing is left to do.
-/

namespace GrantKeeper

variable {policy : Json} {r x : Declared}

/-! ## Policies up to their etags -/

namespace Json

/-- The policy without its etag. -/
def withoutEtag : Json → Json
  | .obj fields => .obj (Fields.erase fields "etag")
  | value => value

theorem get_withoutEtag {name : String} (h : name ≠ "etag") (policy : Json) :
    policy.withoutEtag.get name = policy.get name := by
  cases policy with
  | obj fields =>
      exact congrArg (·.getD .null) (Fields.lookup_erase_of_ne h fields)
  | _ => rfl

theorem of_withoutEtag (policy : Json) :
    Content.of policy.withoutEtag = Content.of policy := by
  rw [Content.of, Content.of, clauses, clauses, get_withoutEtag (by decide),
    get_withoutEtag (by decide)]

theorem isWellFormed_withoutEtag (policy : Json) :
    policy.withoutEtag.isWellFormed = policy.isWellFormed := by
  cases policy with
  | obj fields =>
      show isWellFormed (.obj (Fields.erase fields "etag")) =
        isWellFormed (.obj fields)
      rw [isWellFormed, isWellFormed, Fields.lookup_erase_of_ne (by decide)]
  | _ => rfl

theorem withoutEtag_stamped {policy : Json} (h : policy.isWellFormed = true)
    (etag : Json) : (policy.stamped etag).withoutEtag = policy.withoutEtag := by
  obtain ⟨fields, -, rfl, -⟩ := exists_of_isWellFormed h
  exact congrArg Json.obj (Fields.erase_put_self fields "etag" etag)

theorem withoutEtag_written (c : Content) (etag : Json) :
    (c.written etag).withoutEtag = c.written .null := by
  have hversion : Fields.erase
      (Policy.optionalField "version" c.version) "etag" =
        Policy.optionalField "version" c.version := by
    cases c.version <;> rfl
  have hbindings (entries : List Json) : Fields.erase
      (Policy.arrayField "bindings" entries) "etag" =
        Policy.arrayField "bindings" entries := by
    unfold Policy.arrayField
    split <;> rfl
  have hetag : Fields.erase (Policy.optionalField "etag" etag) "etag" = [] := by
    cases etag <;> rfl
  rw [Fields.erase] at hversion hetag
  simp only [Fields.erase] at hbindings
  simp only [Content.written, form, Policy.assembled, withoutEtag, Fields.erase,
    List.filter_append, hversion, hbindings, hetag]
  rfl

/-! ## Turns -/

/-- The policy has the pair that the resource looks for. -/
def binds (policy : Json) (r : Declared) : Bool :=
  decide (r.pair ∈ (Content.of policy).granted)

/-- What a cycle makes of a policy, up to the etag. -/
def turned (policy : Json) (r : Declared) : Json :=
  if policy.isWellFormed = true ∧ policy.binds r = r.removal then
    ((Content.of policy).settled.amended r.binding r.removal).written .null
  else policy

theorem binds_eq_not_iff {removal : Bool} :
    policy.binds r = !removal ↔
      (r.pair ∈ (Content.of policy).granted ↔ removal = false) := by
  have hbinds : policy.binds r = true ↔ r.pair ∈ (Content.of policy).granted :=
    decide_eq_true_iff
  rw [← hbinds]
  cases policy.binds r <;> cases removal <;> simp

theorem binds_withoutEtag (policy : Json) (r : Declared) :
    policy.withoutEtag.binds r = policy.binds r := by
  rw [binds, binds, of_withoutEtag]

theorem isProper_amended (h : policy.isWellFormed = true) (r : Declared) :
    ((Content.of policy).settled.amended r.binding r.removal).IsProper :=
  (Content.isProper_of h).settled.amended r.declares.role r.removal

theorem turned_eq (h : policy.isWellFormed = true) (r : Declared) :
    policy.turned r =
      if policy.binds r = r.removal then
        ((Content.of policy).settled.amended r.binding r.removal).written .null
      else policy := by
  rw [turned]
  exact if_congr (and_iff_right h) rfl rfl

@[simp] theorem isWellFormed_turned (policy : Json) (r : Declared) :
    (policy.turned r).isWellFormed = policy.isWellFormed := by
  rw [turned]
  split
  · rename_i h
    rw [h.1, Content.isWellFormed_written (isProper_amended h.1 r)]
  · rfl

/-- Where a policy does not turn, there is nothing to amend. -/
theorem amended_of_ne (h : policy.binds r ≠ r.removal) :
    (Content.of policy).settled.amended r.binding r.removal =
      (Content.of policy).settled :=
  Content.amended_eq_self (binds_eq_not_iff.mp (Bool.eq_not.mpr h))

/-- **A turn amends the content**, also where it changes nothing. -/
theorem settled_of_turned (h : policy.isWellFormed = true) (r : Declared) :
    (Content.of (policy.turned r)).settled =
      (Content.of policy).settled.amended r.binding r.removal := by
  rw [turned_eq h]
  by_cases hturns : policy.binds r = r.removal
  · rw [if_pos hturns, Content.of_written (isProper_amended h r),
      Content.settled_amended, Content.settled_amended, Content.settled_settled,
      Content.settled_settled]
  · rw [if_neg hturns, amended_of_ne hturns]

theorem binds_turned_self (h : policy.isWellFormed = true) (r : Declared) :
    (policy.turned r).binds r = !r.removal := by
  apply binds_eq_not_iff.mpr
  show r.pair ∈ (Content.of (policy.turned r)).settled.granted ↔ _
  rw [settled_of_turned h]
  exact Content.mem_granted_amended

/-- A turn decides about one pair only. -/
theorem binds_turned_of_ne (h : x.pair ≠ r.pair) (policy : Json) :
    (policy.turned r).binds x = policy.binds x := by
  by_cases hwell : policy.isWellFormed = true
  · apply decide_eq_decide.mpr
    show x.pair ∈ (Content.of (policy.turned r)).settled.granted ↔ _
    rw [settled_of_turned hwell]
    exact Content.mem_granted_amended_of_ne h
  · rw [turned, if_neg fun hturns => hwell hturns.1]

private theorem turned_turned (hwell : policy.isWellFormed = true)
    (h : x.pair ≠ r.pair) :
    (policy.turned r).turned x =
      if policy.binds x = x.removal then
        (((Content.of policy).settled.amended r.binding r.removal).amended
          x.binding x.removal).written .null
      else policy.turned r := by
  have hwell' := hwell
  rw [← isWellFormed_turned policy r] at hwell'
  rw [turned_eq hwell', binds_turned_of_ne h, settled_of_turned hwell]

/-- **Two turns can be made in either order.** -/
theorem turned_comm (h : r.pair ≠ x.pair) (policy : Json) :
    (policy.turned r).turned x = (policy.turned x).turned r := by
  by_cases hwell : policy.isWellFormed = true
  · rw [turned_turned hwell h.symm, turned_turned hwell h, turned_eq hwell,
      turned_eq hwell]
    by_cases hr : policy.binds r = r.removal
    · by_cases hx : policy.binds x = x.removal
      · rw [if_pos hr, if_pos hx, Content.amended_comm h, if_pos hr]
      · rw [if_neg hx, if_pos hr, if_pos hr, amended_of_ne hx]
    · by_cases hx : policy.binds x = x.removal
      · rw [if_pos hx, if_neg hr, if_pos hx, amended_of_ne hr]
      · rw [if_neg hx, if_neg hr, if_neg hr, if_neg hx]
  · have hrests (y : Declared) : policy.turned y = policy :=
      if_neg fun hturns => hwell hturns.1
    rw [hrests, hrests, hrests]

end Json

/-! ## Views -/

/-- What the buckets hold up to the etags. -/
abbrev View := String → Option Json

/-- What the buckets of a store hold up to the etags. -/
def Store.view (s : Store) : View :=
  fun bucket => (s.policy? bucket).map Json.withoutEtag

namespace View

variable {v : View}

/-- The policy of the bucket that the resource names takes its turn. -/
def turned (v : View) (r : Declared) : View := fun bucket =>
  if bucket = r.binding.resource then (v bucket).map (·.turned r) else v bucket

/-- What a cycle for the resource reports. -/
def due (v : View) (r : Declared) : CycleResult Bool :=
  .due ((v r.binding.resource).any (·.binds r)) r.removal

/-- There is a bucket with a well-formed policy for the resource. -/
def Knows (v : View) (r : Declared) : Prop :=
  ∃ policy, v r.binding.resource = some policy ∧ policy.isWellFormed = true

/-- What the resource asks for is the case. -/
def Satisfies (v : View) (r : Declared) : Prop :=
  ∃ policy, v r.binding.resource = some policy ∧ policy.binds r = !r.removal

theorem pair_ne (h : r.binding ≠ x.binding)
    (hbucket : r.binding.resource = x.binding.resource) : r.pair ≠ x.pair := by
  intro hpair
  apply h
  obtain ⟨hrole, hmember⟩ := Prod.mk.inj hpair
  have hr : r.binding =
      ⟨r.binding.resource, r.binding.role, r.binding.member⟩ := rfl
  rw [hr, hbucket, hrole, hmember]

theorem turned_of_eq {bucket : String} (h : bucket = r.binding.resource) :
    v.turned r bucket = (v bucket).map (·.turned r) := if_pos h

theorem turned_of_ne {bucket : String} (h : bucket ≠ r.binding.resource) :
    v.turned r bucket = v bucket := if_neg h

/-- **Turns of different resources can be made in either order.** -/
theorem turned_comm (h : r.binding ≠ x.binding) (v : View) :
    (v.turned r).turned x = (v.turned x).turned r := by
  funext bucket
  by_cases hr : bucket = r.binding.resource
  · by_cases hx : bucket = x.binding.resource
    · have hpair := pair_ne h (hr.symm.trans hx)
      have hcomm : (Json.turned · x) ∘ (Json.turned · r) =
          (Json.turned · r) ∘ (Json.turned · x) := by
        funext policy
        exact Json.turned_comm hpair policy
      rw [turned_of_eq hx, turned_of_eq hr, turned_of_eq hr, turned_of_eq hx,
        Option.map_map, Option.map_map]
      exact congrArg (Option.map · _) hcomm
    · rw [turned_of_ne hx, turned_of_eq hr, turned_of_eq hr, turned_of_ne hx]
  · by_cases hx : bucket = x.binding.resource
    · rw [turned_of_eq hx, turned_of_ne hr, turned_of_ne hr, turned_of_eq hx]
    · rw [turned_of_ne hx, turned_of_ne hr, turned_of_ne hr, turned_of_ne hx]

/-- What is stored at the end does not depend on the order. -/
theorem foldl_turned_perm {rs order : List Declared} (hperm : order.Perm rs)
    (hdistinct : (rs.map Declared.binding).Nodup) (v : View) :
    order.foldl turned v = rs.foldl turned v := by
  refine (hperm.symm.foldl_eq' ?_ v).symm
  intro r hr x hx v
  by_cases h : r.binding = x.binding
  · rw [List.inj_on_of_nodup_map hdistinct hr hx h]
  · exact turned_comm h v

/-- A turn does not change what is due for another resource. -/
theorem due_turned_of_ne (h : x.binding ≠ r.binding) (v : View) :
    (v.turned r).due x = v.due x := by
  have hany : (v.turned r x.binding.resource).any (·.binds x) =
      (v x.binding.resource).any (·.binds x) := by
    by_cases hbucket : x.binding.resource = r.binding.resource
    · have hsame : (Json.binds · x) ∘ (Json.turned · r) = (Json.binds · x) := by
        funext policy
        exact Json.binds_turned_of_ne (pair_ne h hbucket) policy
      rw [turned_of_eq hbucket, Option.any_map]
      exact congrArg (Option.any · _) hsame
    · rw [turned_of_ne hbucket]
  rw [due, due, hany]

theorem Knows.turned (h : v.Knows x) (r : Declared) : (v.turned r).Knows x := by
  obtain ⟨policy, hpolicy, hwell⟩ := h
  by_cases hbucket : x.binding.resource = r.binding.resource
  · refine ⟨policy.turned r, ?_,
      (Json.isWellFormed_turned policy r).trans hwell⟩
    rw [turned_of_eq hbucket, hpolicy]
    rfl
  · exact ⟨policy, (turned_of_ne hbucket).trans hpolicy, hwell⟩

/-- After its turn a resource has what it asks for. -/
theorem Knows.satisfies (h : v.Knows r) : (v.turned r).Satisfies r := by
  obtain ⟨policy, hpolicy, hwell⟩ := h
  refine ⟨policy.turned r, ?_, Json.binds_turned_self hwell r⟩
  rw [turned_of_eq rfl, hpolicy]
  rfl

/-- Turns of other resources leave it that. -/
theorem Satisfies.turned (h : v.Satisfies x) (hne : x.binding ≠ r.binding) :
    (v.turned r).Satisfies x := by
  obtain ⟨policy, hpolicy, hbinds⟩ := h
  by_cases hbucket : x.binding.resource = r.binding.resource
  · refine ⟨policy.turned r, ?_,
      (Json.binds_turned_of_ne (pair_ne hne hbucket) policy).trans hbinds⟩
    rw [turned_of_eq hbucket, hpolicy]
    rfl
  · exact ⟨policy, (turned_of_ne hbucket).trans hpolicy, hbinds⟩

theorem Satisfies.foldl_turned {rs : List Declared} (h : v.Satisfies x)
    (hne : x.binding ∉ rs.map Declared.binding) :
    (rs.foldl View.turned v).Satisfies x := by
  induction rs generalizing v with
  | nil => exact h
  | cons r rest ih =>
      rw [List.map_cons, List.mem_cons, not_or] at hne
      exact ih (h.turned hne.1) hne.2

/-- **At the end every resource has what it asks for.** -/
theorem satisfies_foldl_turned {rs : List Declared}
    (hdistinct : (rs.map Declared.binding).Nodup)
    (h : ∀ r ∈ rs, v.Knows r) :
    ∀ r ∈ rs, (rs.foldl View.turned v).Satisfies r := by
  induction rs generalizing v with
  | nil =>
      intro r hr
      cases hr
  | cons first rest ih =>
      rw [List.map_cons, List.nodup_cons] at hdistinct
      intro r hr
      rcases List.mem_cons.mp hr with rfl | hrest
      · exact (h r List.mem_cons_self).satisfies.foldl_turned hdistinct.1
      · have hknows : ∀ x ∈ rest, (v.turned first).Knows x := by
          intro x hx
          exact (h x (List.mem_cons_of_mem first hx)).turned first
        exact ih hdistinct.2 hknows r hrest

/-- A policy that has what the resource asks for stays as it is. -/
theorem turned_eq_self (hpolicy : v r.binding.resource = some policy)
    (h : policy.binds r ≠ r.removal) : v.turned r = v := by
  funext bucket
  by_cases hbucket : bucket = r.binding.resource
  · rw [turned_of_eq hbucket, hbucket, hpolicy]
    exact congrArg some (if_neg fun hturns => h hturns.2)
  · exact turned_of_ne hbucket

end View

/-! ## One cycle -/

namespace Store

variable {s s' s'' : Store} {bucket other : String} {payload : Json}
  {d : Policy}

/-- The bucket has a policy that can be replaced. -/
def Serves (s : Store) (bucket : String) : Prop :=
  ∃ policy, s.policy? bucket = some policy ∧ policy.IsReplaceable

theorem Takes.eq (h : s.Takes bucket d s') (h' : s.Takes bucket d s'') :
    s' = s'' := by
  obtain ⟨-, payload, reply, hpayload, hset, -⟩ := h
  obtain ⟨-, payload', reply', hpayload', hset', -⟩ := h'
  obtain rfl : payload = payload' :=
    Except.ok.inj (hpayload.symm.trans hpayload')
  exact congrArg Prod.snd (hset.symm.trans hset')

/-- What was written can be replaced again. -/
theorem isReplaceable_stamped (h : payload.isWellFormed = true) (number : Nat) :
    (payload.stamped (etagOf number)).IsReplaceable := by
  refine ⟨Json.isWellFormed_stamped h _, ?_, ?_⟩
  · rw [Json.get_etag_stamped, etagOf, Json.truthy_str, bne_iff_ne]
    intro hempty
    have hlength := congrArg String.length hempty
    rw [String.length_append] at hlength
    have hprefix : "etag-".length = 5 := by decide
    have hnone : "".length = 0 := by decide
    omega
  · rw [Json.get_etag_stamped, etagOf, Json.equals_str, beq_self_eq_true]

/-- What is stored there is known up to its etag. -/
theorem Serves.knows {r : Declared} (h : s.Serves r.binding.resource) :
    s.view.Knows r := by
  obtain ⟨policy, hpolicy, hreplaceable⟩ := h
  refine ⟨policy.withoutEtag, ?_, ?_⟩
  · rw [view, hpolicy]
    rfl
  · rw [Json.isWellFormed_withoutEtag]
    exact hreplaceable.wellFormed

theorem Serves.accepted (h : s.Serves other)
    (hwell : payload.isWellFormed = true) :
    (s.accepted bucket payload).Serves other := by
  by_cases hbucket : other = bucket
  · refine ⟨_, ?_, isReplaceable_stamped hwell (s.writes + 1)⟩
    rw [policy?_accepted, if_pos hbucket]
  · obtain ⟨policy, hpolicy, hreplaceable⟩ := h
    refine ⟨policy, ?_, hreplaceable⟩
    rw [policy?_accepted, if_neg hbucket, hpolicy]

theorem view_accepted (hwell : payload.isWellFormed = true) :
    (s.accepted bucket payload).view other =
      if other = bucket then some payload.withoutEtag else s.view other := by
  rw [view, policy?_accepted]
  split
  · exact congrArg some (Json.withoutEtag_stamped hwell _)
  · rfl

end Store

section Cycles

variable {τ : Type} [Seconds τ] {w : World τ (StorageCall τ) Json Service}
  {rs : List Declared}

/-- **A cycle makes its turn**: it returns, reports what was due, and the
policies can be replaced again. -/
theorem World.run_turn (c : Connector τ) (hcalm : w.Calm)
    (hserves : w.server.store.Serves r.binding.resource) :
    let turn := w.run (Service.remote τ) (c.reconcile (.member r.resource))
    turn.1 = .ok (w.server.store.view.due r) ∧ turn.2.Calm ∧
      turn.2.server.store.view = w.server.store.view.turned r ∧
      ∀ bucket, w.server.store.Serves bucket →
        turn.2.server.store.Serves bucket := by
  intro turn
  obtain ⟨policy, hpolicy, hreplaceable⟩ := hserves
  obtain ⟨d, hd, -⟩ := Client.exists_policyOf hreplaceable.wellFormed
  have hholds : d.holds r.binding.role r.binding.member = policy.binds r := by
    rw [Bool.eq_iff_iff, (Client.isReadingOf_policyOf hd).holds_iff]
    exact decide_eq_true_iff.symm
  have hview : w.server.store.view r.binding.resource =
      some policy.withoutEtag :=
    congrArg (Option.map Json.withoutEtag) hpolicy
  have hdue : w.server.store.view.due r = .due (policy.binds r) r.removal := by
    rw [View.due, hview]
    exact congrArg (CycleResult.due · r.removal)
      (Json.binds_withoutEtag policy r)
  by_cases hturns : policy.binds r = r.removal
  · have htaken := Store.takes_of_isReplaceable hpolicy hreplaceable hd
      r.declares.role r.removal
    have hwell := Content.isWellFormed_written
      (Json.isProper_amended hreplaceable.wellFormed r)
      (policy.get "etag")
    obtain ⟨store, htakes, hreturns, hat⟩ | ⟨-, hrefuses⟩ :=
      World.run_unsettled r.declares c hcalm hpolicy hd (hholds.trans hturns)
    · obtain rfl := htakes.eq htaken
      refine ⟨?_, hat.calm, ?_, fun bucket h => ?_⟩
      · rw [hdue, CycleResult.due_of_eq hturns]
        exact hreturns
      · rw [hat.store]
        funext bucket
        rw [Store.view_accepted hwell, Json.withoutEtag_written]
        by_cases hbucket : bucket = r.binding.resource
        · have hwell' :=
            (Json.isWellFormed_withoutEtag policy).trans hreplaceable.wellFormed
          rw [if_pos hbucket, View.turned_of_eq hbucket, hbucket, hview,
            Option.map_some, Json.turned_eq hwell', Json.binds_withoutEtag,
            if_pos hturns, Json.of_withoutEtag]
        · rw [if_neg hbucket, View.turned_of_ne hbucket]
      · rw [hat.store]
        exact h.accepted hwell
    · exact absurd htaken (hrefuses _)
  · have hrests : policy.binds r = !r.removal := Bool.eq_not.mpr hturns
    obtain ⟨hreturns, hat⟩ :=
      World.run_settled r.declares c hcalm hpolicy hd (hholds.trans hrests)
    refine ⟨?_, hat.calm, ?_, fun bucket h => ?_⟩
    · rw [hdue, CycleResult.due_of_eq_not hrests]
      exact hreturns
    · rw [hat.store]
      refine (View.turned_eq_self hview ?_).symm
      rw [Json.binds_withoutEtag]
      exact hturns
    · rw [hat.store]
      exact h

/-! ## Many cycles -/

/-- Runs a cycle for each resource, one after another. -/
def World.inTurn (c : Connector τ) :
    List Declared → World τ (StorageCall τ) Json Service →
      List (Outcome (CycleResult Bool)) × World τ (StorageCall τ) Json Service
  | [], w => ([], w)
  | r :: rest, w =>
      let turn := w.run (Service.remote τ) (c.reconcile (.member r.resource))
      let others := inTurn c rest turn.2
      (turn.1 :: others.1, others.2)

/-- **All cycles return, and report what was due at the beginning.** -/
theorem World.run_inTurn (c : Connector τ) (hcalm : w.Calm)
    (hdistinct : (rs.map Declared.binding).Nodup)
    (hserves : ∀ r ∈ rs, w.server.store.Serves r.binding.resource) :
    (inTurn c rs w).1 = rs.map (fun r => .ok (w.server.store.view.due r)) ∧
      (inTurn c rs w).2.Calm ∧
      (inTurn c rs w).2.server.store.view =
        rs.foldl View.turned w.server.store.view ∧
      ∀ bucket, w.server.store.Serves bucket →
        (inTurn c rs w).2.server.store.Serves bucket := by
  induction rs generalizing w with
  | nil => exact ⟨rfl, hcalm, rfl, fun bucket h => h⟩
  | cons first rest ih =>
      rw [List.map_cons, List.nodup_cons] at hdistinct
      obtain ⟨hresult, hcalm', hview, hkeeps⟩ :=
        run_turn c hcalm (hserves first List.mem_cons_self)
      obtain ⟨hresults, hlast, hviews, hkept⟩ :=
        ih hcalm' hdistinct.2 fun r hr =>
        hkeeps _ (hserves r (List.mem_cons_of_mem first hr))
      refine ⟨?_, hlast, ?_, fun bucket h => hkept bucket (hkeeps bucket h)⟩
      · show _ :: _ = _ :: _
        rw [hresult, hresults, hview]
        congr 1
        apply List.map_congr_left
        intro r hr
        have hne : r.binding ≠ first.binding := by
          intro heq
          exact hdistinct.1 (heq ▸ List.mem_map_of_mem hr)
        rw [View.due_turned_of_ne hne]
      · apply hviews.trans
        rw [hview]
        rfl

/-- What the buckets hold up to the etags tells whether the goal can be read. -/
theorem Store.settled_of_satisfies {s : Store}
    (hserves : s.Serves r.binding.resource)
    (h : s.view.Satisfies r) : Settled r.binding r.removal s := by
  obtain ⟨policy, hpolicy, hreplaceable⟩ := hserves
  obtain ⟨d, hd, -⟩ := Client.exists_policyOf hreplaceable.wellFormed
  obtain ⟨seen, hseen, hbinds⟩ := h
  obtain rfl : policy.withoutEtag = seen :=
    Option.some.inj
      ((congrArg (Option.map Json.withoutEtag) hpolicy).symm.trans hseen)
  refine ⟨policy, d, hpolicy, hd, ?_⟩
  rw [← hbinds, Json.binds_withoutEtag, Bool.eq_iff_iff,
    (Client.isReadingOf_policyOf hd).holds_iff]
  exact decide_eq_true_iff.symm

/-- Where all goals are reached, no cycle does anything. -/
theorem World.inTurn_settled (c : Connector τ) (hcalm : w.Calm)
    (h : ∀ r ∈ rs, Settled r.binding r.removal w.server.store) :
    (inTurn c rs w).1 = rs.map (fun r => .ok (.resting r.removal)) ∧
      (inTurn c rs w).2.sets = w.sets ∧ (inTurn c rs w).2.server.store =
        w.server.store := by
  induction rs generalizing w with
  | nil => exact ⟨rfl, rfl, rfl⟩
  | cons first rest ih =>
      obtain ⟨policy, d, hpolicy, hd, hholds⟩ := h first List.mem_cons_self
      obtain ⟨hresult, hat⟩ :=
        run_settled first.declares c hcalm hpolicy hd hholds
      obtain ⟨hresults, hsets, hstore⟩ := ih hat.calm fun r hr => by
        rw [hat.store]
        exact h r (List.mem_cons_of_mem first hr)
      refine ⟨?_, hsets.trans hat.sets, hstore.trans hat.store⟩
      show _ :: _ = _ :: _
      rw [hresult, hresults]
      rfl

/-- **The order of distinct resources does not matter.**  In every order all
cycles return, each resource gets the same result, and the same policies are
left behind up to their etags.  After that, cycles for all of them in any order
write nothing. -/
theorem reconcile_in_any_order (c : Connector τ) {s : Store}
    (hdistinct : (rs.map Declared.binding).Nodup)
    (hserves : ∀ r ∈ rs, s.Serves r.binding.resource) :
    ∃ (result : Declared → CycleResult Bool) (left : String → Option Json),
      ∀ (order : List Declared) (w : World τ (StorageCall τ) Json Service),
        order.Perm rs → w.Calm → w.server.store = s →
        let first := World.inTurn c order w
        first.1 = order.map (fun r => .ok (result r)) ∧
          (∀ bucket, (first.2.server.store.policy? bucket).map
            Json.withoutEtag = left bucket) ∧
          first.2.Calm ∧
          ∀ (order' : List Declared)
            (w' : World τ (StorageCall τ) Json Service),
            order'.Perm rs → w'.Calm → w'.server.store = first.2.server.store →
            let second := World.inTurn c order' w'
            second.1 = order'.map (fun r => .ok (.resting r.removal)) ∧
              second.2.sets = w'.sets ∧
              second.2.server.store = w'.server.store := by
  refine ⟨s.view.due, rs.foldl View.turned s.view, ?_⟩
  intro order w hperm hcalm hstore first
  subst hstore
  have hdistinct' : (order.map Declared.binding).Nodup :=
    (hperm.map Declared.binding).nodup_iff.mpr hdistinct
  have hserves' : ∀ r ∈ order, w.server.store.Serves r.binding.resource := by
    intro r hr
    exact hserves r (hperm.mem_iff.mp hr)
  obtain ⟨hresults, hlast, hview, hkept⟩ :=
    World.run_inTurn c hcalm hdistinct' hserves'
  refine ⟨hresults, ?_, hlast, ?_⟩
  · intro bucket
    show first.2.server.store.view bucket = _
    rw [hview, View.foldl_turned_perm hperm hdistinct]
  · intro order' w' hperm' hcalm' hstore'
    have hsettled : ∀ r ∈ order',
        Settled r.binding r.removal w'.server.store := by
      intro r hr
      rw [hstore']
      have hmem : r ∈ order := hperm.mem_iff.mpr (hperm'.mem_iff.mp hr)
      have hknows : ∀ x ∈ order,
          w.server.store.view.Knows x := fun x hx => (hserves' x hx).knows
      have hsatisfies := View.satisfies_foldl_turned hdistinct' hknows r hmem
      rw [← hview] at hsatisfies
      exact Store.settled_of_satisfies (hkept _ (hserves' r hmem)) hsatisfies
    exact World.inTurn_settled c hcalm' hsettled

/-- A bucket in which one member holds the role. -/
def crowded : World Int (StorageCall Int) Json Service :=
  { unhurried with
    server :=
      ⟨.holding
        [("b", .obj [("etag", .str "1"), ("bindings", .arr [
          .obj [("role", .str "r"), ("members", .arr [.str "u:b"])]])])],
        none⟩ }

theorem reconcile_in_any_order_crowded :
    let c : Connector Int := ⟨⟨"p", .given .null, none⟩, 30, ""⟩
    let comes : Declared :=
      ⟨.declaring "m" ⟨"b", "r", "u:a"⟩ false, ⟨"b", "r", "u:a"⟩, rfl,
        by decide⟩
    let goes : Declared :=
      ⟨.declaring "n" ⟨"b", "r", "u:b"⟩ true, ⟨"b", "r", "u:b"⟩, rfl, by decide⟩
    (World.inTurn c [comes, goes] crowded).1 =
      (World.inTurn c [goes, comes] crowded).1.reverse ∧
      ((World.inTurn c [comes, goes] crowded).2.server.store.policy? "b").map
          Json.withoutEtag =
        ((World.inTurn c [goes, comes] crowded).2.server.store.policy? "b").map
          Json.withoutEtag ∧
      (World.inTurn c [goes, comes]
        (World.inTurn c [comes, goes] crowded).2).2.server.store =
          (World.inTurn c [comes, goes] crowded).2.server.store := by
  intro c comes goes
  have hcalm : crowded.Calm :=
    ⟨rfl, calm_unhurried.live, calm_unhurried.happenings,
      calm_unhurried.calendar⟩
  have hserves : ∀ r ∈ [comes, goes],
      crowded.server.store.Serves r.binding.resource := by
    intro r hr
    have hbucket : r.binding.resource = "b" := by
      rcases List.mem_cons.mp hr with rfl | hrest
      · rfl
      · rw [List.mem_singleton.mp hrest]
    rw [hbucket]
    exact ⟨_, rfl, rfl, rfl, by decide⟩
  obtain ⟨result, left, hall⟩ := reconcile_in_any_order c (by decide) hserves
  obtain ⟨hresults, hleft, hlast, hagain⟩ :=
    hall [comes, goes] crowded (List.Perm.refl _) hcalm rfl
  obtain ⟨hresults', hleft', -⟩ :=
    hall [goes, comes] crowded (List.Perm.swap _ _ _) hcalm rfl
  have hsecond := hagain [goes, comes] _ (List.Perm.swap _ _ _) hlast rfl
  refine ⟨?_, ?_, hsecond.2.2⟩
  · rw [hresults, hresults']
    rfl
  · rw [hleft, hleft']

end Cycles

end GrantKeeper
