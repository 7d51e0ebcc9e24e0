import Mathlib
import GrantKeeper.Proofs.Storage.Alone

/-!
# Convergence in one cycle

Without other writers one cycle brings about what a resource asks for, and the
next cycle finds it so and writes nothing.  This is so whatever the store holds,
as long as the first cycle can read it and write it back; and a well-formed
policy with an etag can always be read and written.

## Main results

* `Store.Takes.settles` — after a write the goal can be read from the store.
* `Store.takes_of_isReplaceable` — a well-formed policy can be replaced.
* `reconcile_converges` — the first cycle and the second.
-/

namespace GrantKeeper

open Program

variable {τ : Type} {b : Binding} {removal : Bool} {stored : Json} {d : Policy}
  {s s' : Store}

/-! ## What a write leaves behind -/

/-- The goal can be read from the store. -/
def Settled (b : Binding) (removal : Bool) (s : Store) : Prop :=
  ∃ policy d, s.policy? b.resource = some policy ∧
    Client.policyOf policy = .ok d ∧
    d.holds b.role b.member = !removal

/-- **After a write the goal can be read from the store**, whatever was stored
before. -/
theorem Store.Takes.settles (h : s.Takes b.resource (d.amended b removal) s')
    (hd : Client.policyOf stored = .ok d) (hrole : b.role ≠ "") :
    Settled b removal s' := by
  have hreading := Client.isReadingOf_policyOf hd
  obtain ⟨-, payload, reply, hpayload, hset, d', hreply⟩ := h
  have hsent := Client.mem_granted_payloadOf hpayload fun entry hentry =>
    hreading.conditional entry (Policy.conditional_amended d b removal ▸ hentry)
  obtain ⟨fault, hrefused, -⟩ | ⟨before, -, -, haccepted⟩ :=
    set_cases s b.resource payload
  · rw [hset] at hrefused
    cases hrefused
  · rw [hset] at haccepted
    cases haccepted
    refine ⟨_, d', ?_, hreply, ?_⟩
    · rw [policy?_accepted, if_pos rfl]
    · have hholds : d'.holds b.role b.member = true ↔ removal = false := by
        rw [(Client.isReadingOf_policyOf hreply).holds_iff, Content.of_stamped,
          hsent.2.2, Policy.lists_amended hreading.distinct]
        exact and_iff_right hrole
      cases removal with
      | true => exact Bool.eq_false_iff.mpr fun h => by cases hholds.mp h
      | false => exact hholds.mpr rfl

/-! ## What can be replaced -/

/-- The policy is well formed and has an etag, which the store recognizes when
it is sent back.  Only a not-a-number would not be recognized. -/
structure Json.IsReplaceable (policy : Json) : Prop where
  wellFormed : policy.isWellFormed = true
  etag : (policy.get "etag").truthy = true
  recognized : (policy.get "etag").equals (policy.get "etag") = true

/-- **A well-formed policy can be replaced** by its amendment in canonical
form. -/
theorem Store.takes_of_isReplaceable
    (hstored : s.policy? b.resource = some stored)
    (h : stored.IsReplaceable) (hd : Client.policyOf stored = .ok d)
    (hrole : b.role ≠ "") (removal : Bool) :
    s.Takes b.resource (d.amended b removal) (s.accepted b.resource
      (((Content.of stored).settled.amended b removal).written
        (stored.get "etag"))) := by
  obtain ⟨d', hd', hrep⟩ := Client.exists_policyOf h.wellFormed
  obtain rfl : d = d' := Except.ok.inj (hd.symm.trans hd')
  have hproper :=
    ((Content.isProper_of h.wellFormed).settled).amended hrole removal
  have hpayload :=
    Client.payloadOf_represents (hrep.amended hrole removal) hproper
  have hrecognized : (stored.get "etag").equals
      ((((Content.of stored).settled.amended b removal).written
        (stored.get "etag")).get "etag") = true := by
    rw [Content.written, get_etag_form]
    exact h.recognized
  have hset := set_of_equals hstored h.wellFormed hrecognized
  obtain ⟨d', hreply, -⟩ := Client.exists_policyOf
    (Json.isWellFormed_stamped
      (Content.isWellFormed_written hproper (stored.get "etag"))
      (etagOf (s.writes + 1)))
  refine ⟨?_, _, _, hpayload, hset, d', hreply⟩
  rw [Policy.etag_amended, hrep.etag]
  exact h.etag

/-! ## What is due -/

namespace CycleResult

/-- What a cycle reports that finds the member to hold the role or not. -/
def due (holds removal : Bool) : CycleResult Bool :=
  if holds = removal then changing removal else resting removal

variable {holds removal : Bool}

theorem due_of_eq (h : holds = removal) :
    due holds removal = changing removal := if_pos h

theorem due_of_eq_not (h : holds = !removal) :
    due holds removal = resting removal :=
  if_neg (Bool.eq_not.mp h)

theorem due_eq_created_iff :
    (due holds removal).action = .created ↔
      holds = false ∧ removal = false := by
  cases holds <;> cases removal <;> decide

theorem due_eq_deleted_iff :
    (due holds removal).action = .deleted ↔ holds = true ∧ removal = true := by
  cases holds <;> cases removal <;> decide

theorem due_ne_updated : (due holds removal).action ≠ .updated := by
  cases holds <;> cases removal <;> decide

theorem due_eq_none_iff :
    (due holds removal).action = .none ↔ holds = !removal := by
  cases holds <;> cases removal <;> decide

end CycleResult

/-! ## The first cycle and the second -/

section Cycles

variable [Seconds τ] {r : Resource} {w : World τ (StorageCall τ) Json Service}

/-- A cycle that returns has done what was due, and the goal can be read. -/
theorem World.run_first (hb : r.Declares b) (c : Connector τ) (hcalm : w.Calm)
    (hstored : w.server.store.policy? b.resource = some stored)
    (hd : Client.policyOf stored = .ok d) {result : CycleResult Bool}
    (hresult : (w.run (Service.remote τ) (c.reconcile (.member r))).1 =
      .ok result) :
    let first := w.run (Service.remote τ) (c.reconcile (.member r))
    result = .due (d.holds b.role b.member) r.wantsRemoval ∧ first.2.Calm ∧
      first.2.sets = w.sets + (if result.action = .none then 0 else 1) ∧
      Settled b r.wantsRemoval first.2.server.store := by
  intro first
  by_cases hholds : d.holds b.role b.member = r.wantsRemoval
  · obtain ⟨store, htakes, hreturns, hat⟩ | ⟨⟨fault, hfails⟩, -⟩ :=
      World.run_unsettled hb c hcalm hstored hd hholds
    · have hdue : result = .due (d.holds b.role b.member) r.wantsRemoval := by
        rw [CycleResult.due_of_eq hholds]
        exact Except.ok.inj (hresult.symm.trans hreturns)
      refine ⟨hdue, hat.calm, ?_, ?_⟩
      · rw [hdue, if_neg fun hnone => ?_]
        · exact hat.sets
        · exact Bool.eq_not.mp (CycleResult.due_eq_none_iff.mp hnone) hholds
      · rw [hat.store]
        exact htakes.settles hd hb.role
    · rw [hfails] at hresult
      cases hresult
  · have hsettled : d.holds b.role b.member = !r.wantsRemoval :=
      Bool.eq_not.mpr hholds
    obtain ⟨hreturns, hat⟩ := World.run_settled hb c hcalm hstored hd hsettled
    have hdue : result = .due (d.holds b.role b.member) r.wantsRemoval := by
      rw [CycleResult.due_of_eq_not hsettled]
      exact Except.ok.inj (hresult.symm.trans hreturns)
    refine ⟨hdue, hat.calm, ?_, ?_⟩
    · rw [hdue, if_pos (CycleResult.due_eq_none_iff.mpr hsettled)]
      exact hat.sets
    · rw [hat.store]
      exact ⟨stored, d, hstored, hd, hsettled⟩

/-- A cycle returns if what is stored can be replaced. -/
theorem World.exists_result (hb : r.Declares b) (c : Connector τ)
    (hcalm : w.Calm)
    (hstored : w.server.store.policy? b.resource = some stored)
    (h : stored.IsReplaceable) :
    ∃ result, (w.run (Service.remote τ) (c.reconcile (.member r))).1 =
      .ok result := by
  obtain ⟨d, hd, -⟩ := Client.exists_policyOf h.wellFormed
  by_cases hholds : d.holds b.role b.member = r.wantsRemoval
  · obtain ⟨store, -, hreturns, -⟩ | ⟨-, hrefuses⟩ :=
      World.run_unsettled hb c hcalm hstored hd hholds
    · exact ⟨_, hreturns⟩
    · exact absurd (Store.takes_of_isReplaceable hstored h hd hb.role _)
        (hrefuses _)
  · exact ⟨_,
      (World.run_settled hb c hcalm hstored hd (Bool.eq_not.mpr hholds)).1⟩

/-- A cycle that can read the goal asks once and does nothing, whatever was
noted on the resource. -/
theorem World.run_again (hb : r.Declares b) (c : Connector τ) (hcalm : w.Calm)
    (news : List Condition) (h : Settled b r.wantsRemoval w.server.store) :
    let again :=
      w.run (Service.remote τ) (c.reconcile (.member (r.setConditions news)))
    again.1 = .ok ⟨.none, ⟨!r.wantsRemoval, !r.wantsRemoval⟩⟩ ∧
      again.2.gets = w.gets + 1 ∧ again.2.sets = w.sets ∧
      again.2.server.store = w.server.store := by
  obtain ⟨policy, d, hpolicy, hd, hholds⟩ := h
  have hremoval := Resource.wantsRemoval_setConditions r news
  rw [← hremoval] at hholds
  obtain ⟨hresult, hat⟩ :=
    World.run_settled (hb.setConditions news) c hcalm hpolicy hd hholds
  refine ⟨?_, hat.gets, hat.sets, hat.store⟩
  rw [hresult, hremoval, CycleResult.resting]
  cases r.wantsRemoval <;> rfl

/-- **One cycle brings the goal about, and the next one finds it so.**  A first
cycle that returns has created the binding if it was missing in what can be read
from the store and was not to be removed, deleted it if it was there and was to
be removed, and otherwise done nothing; it wrote once if it did something. The
next cycle for the resource asks once and does nothing.  If the stored policy is
well formed and has an etag, the first cycle does return. -/
theorem reconcile_converges (hb : r.Declares b) (c : Connector τ)
    (hcalm : w.Calm)
    (hstored : w.server.store.policy? b.resource = some stored) :
    let first := w.run (Service.remote τ) (c.reconcile (.member r))
    (∀ result, first.1 = .ok result →
      (∃ d, Client.policyOf stored = .ok d ∧
        (result.action = .created ↔
          d.holds b.role b.member = false ∧ r.wantsRemoval = false) ∧
        (result.action = .deleted ↔
          d.holds b.role b.member = true ∧ r.wantsRemoval = true)) ∧
      result.action ≠ .updated ∧
      first.2.sets = w.sets + (if result.action = .none then 0 else 1) ∧
      first.2.Calm ∧
      ∀ (news : List Condition) (c' : Connector τ)
        (w' : World τ (StorageCall τ) Json Service), w'.Calm →
        w'.server.store = first.2.server.store →
        let second := w'.run (Service.remote τ)
          (c'.reconcile (.member (r.setConditions news)))
        second.1 = .ok ⟨.none, ⟨!r.wantsRemoval, !r.wantsRemoval⟩⟩ ∧
          second.2.gets = w'.gets + 1 ∧ second.2.sets = w'.sets ∧
          second.2.server.store = w'.server.store) ∧
    (stored.IsReplaceable → ∃ result, first.1 = .ok result) := by
  intro first
  refine ⟨?_, World.exists_result hb c hcalm hstored⟩
  intro result hresult
  cases hd : Client.policyOf stored with
  | error cause =>
      have hfails : first.1 = .error (.malformed cause) :=
        World.run_unreadable hb c hcalm hstored hd
      rw [hfails] at hresult
      cases hresult
  | ok d =>
      obtain ⟨hdue, hcalm', hsets, hsettled⟩ :=
        World.run_first hb c hcalm hstored hd hresult
      refine ⟨⟨d, rfl, ?_, ?_⟩, ?_, hsets, hcalm', ?_⟩
      · rw [hdue]
        exact CycleResult.due_eq_created_iff
      · rw [hdue]
        exact CycleResult.due_eq_deleted_iff
      · rw [hdue]
        exact CycleResult.due_ne_updated
      · intro news c' w' hw' hstore
        rw [← hstore] at hsettled
        exact World.run_again hb c' hw' news hsettled

/-- Time passes at the first call, and a context is cancelled that no cycle runs
under. -/
def unhurried : World Int (StorageCall Int) Json Service where
  clock := .starting 0 0
  contexts := [("other", .background)]
  current? := none
  resource? := none
  loggers := []
  logger := ""
  requestId := ""
  happenings := [⟨some 5, some "other", [], none⟩]
  server := ⟨.holding [("b", .obj [("etag", .str "1")])], none⟩
  calls := []
  records := []

theorem calm_unhurried : unhurried.Calm := by
  refine ⟨rfl, rfl, fun h hh => ?_, ⟨⟨.utc 0, rfl⟩, .utc 5, rfl⟩⟩
  rw [List.mem_singleton.mp hh]
  exact ⟨rfl, rfl, fun name _ hname => by cases hname⟩

theorem reconcile_converges_unhurried :
    let r := Resource.declaring "m" ⟨"b", "r", "u:a"⟩ false
    let c : Connector Int := ⟨⟨"p", .given .null, none⟩, 30, ""⟩
    let first := unhurried.run (Service.remote Int) (c.reconcile (.member r))
    first.1 = .ok ⟨.created, .absent⟩ ∧ first.2.sets = 1 ∧
      (first.2.run (Service.remote Int)
        (c.reconcile (.member (r.setConditions [])))).1 =
          .ok ⟨.none, ⟨true, true⟩⟩ := by
  have hreturns : (unhurried.run (Service.remote Int) (Connector.reconcile
      ⟨⟨"p", .given .null, none⟩, 30, ""⟩
      (.member (Resource.declaring "m" ⟨"b", "r", "u:a"⟩ false)))).1 =
        .ok ⟨.created, .absent⟩ := by
    cbv
  intro r c first
  have hb : r.Declares ⟨"b", "r", "u:a"⟩ := ⟨rfl, by decide⟩
  obtain ⟨-, -, hsets, hcalm, hsecond⟩ :=
    (reconcile_converges hb c calm_unhurried rfl).1 _ hreturns
  exact ⟨hreturns, hsets, (hsecond [] c first.2 hcalm rfl).1⟩

end Cycles

end GrantKeeper
