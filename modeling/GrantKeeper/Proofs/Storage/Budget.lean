import Mathlib
import GrantKeeper.Decimal.Places
import GrantKeeper.Proofs.Storage.Timely

/-!
# The time budget of an operation

Time is exact here: a context is made at some time to last for so long, and from
then on the clock never goes back. What is left before the deadline at a gate is
then what the call behind it may take, and the gate is only open while something
is left.  `World.IsBudgeted` is kept by every step, along with the order of
clocks, so that what is left gets less from call to call.

## Main results

* `Context.remaining?_of_open` — under a context that is not over, what is left
  is the time before the deadline.
* `World.persists_budget` — the deadline stays where it is, and the clock does
  not go back.
* `Gated.length_calls_le` — there are no more calls than stages.
* `calls_within_budget` — how long the calls of an operation may take.
-/

namespace GrantKeeper

/-- Exact seconds.  Microseconds are rounded, and a half goes to the even
neighbour. -/
instance : Seconds ℚ where
  add := (· + ·)
  sub := (· - ·)
  nothing := 0
  isNegative time := decide (time < 0)
  isNothing time := decide (time = 0)
  micros time :=
    let micros := time * 1000000
    .ok (micros.num.sign * Decimal.roundDiv micros.num.natAbs micros.den)

/-- **Under a context that is not over, what is left is the time before the
deadline**, and that is some. -/
theorem Context.remaining?_of_open {c : Context ℚ} {now deadline : ℚ}
    (hdeadline : c.deadline? = some deadline)
    (hopen : c.isOver now = false) :
    c.remaining? now = some (deadline - now) ∧ 0 < deadline - now := by
  have hremaining : c.remaining? now = some (timeUntil deadline now) := by
    rw [remaining?, hdeadline, Option.map_some]
  have hsome : timeUntil deadline now ≠ 0 := fun hnothing =>
    Bool.eq_false_iff.mp hopen
      (isOver_iff.mpr (Or.inr ⟨deadline, hdeadline, decide_eq_true hnothing⟩))
  have hcases : timeUntil deadline now =
      if deadline - now < 0 then 0 else deadline - now :=
    ite_congr (decide_eq_true_eq) (fun _ => rfl) fun _ => rfl
  rw [hremaining, hcases]
  rw [hcases] at hsome
  split at hsome
  · exact absurd rfl hsome
  · rename_i hleft
    rw [if_neg hleft]
    exact ⟨rfl, lt_of_le_of_ne (not_lt.mp hleft) hsome.symm⟩

/-! ## The clock -/

namespace World

variable {w : World ℚ (StorageCall ℚ) Json Service} {start timeout : ℚ}

/-- The context of the world was made at `start`, to last for `timeout`; since
then the clock did not go back, and it is not going to. -/
structure IsBudgeted (w : World ℚ (StorageCall ℚ) Json Service)
    (start timeout : ℚ) : Prop where
  deadline : w.context.deadline? = (Context.lasting start timeout).deadline?
  since : start ≤ w.clock.now
  forward : ∀ h ∈ w.happenings, ∀ time, h.advance? = some time → 0 ≤ time

theorem IsBudgeted.now_le_served (h : w.IsBudgeted start timeout)
    (request : StorageCall ℚ) :
    w.clock.now ≤ (w.served (Service.remote ℚ) request).2.clock.now := by
  obtain ⟨server, hserved | hserved⟩ :=
    world_served_cases (Service.remote ℚ) w request
  · rw [hserved]
    show w.clock.now ≤ (w.asked (Service.remote ℚ) request).clock.now
    rw [asked_clock]
    obtain hnone | hmem := w.upcoming_cases
    · rw [hnone]
      exact le_refl _
    · cases hadvance : w.upcoming.advance? with
      | none => exact le_refl _
      | some time =>
          exact le_add_of_nonneg_right (h.forward _ hmem time hadvance)
  · rw [hserved]
    exact le_refl _

/-- **The deadline stays where it is, and the clock does not go back.** -/
theorem persists_budget (start timeout : ℚ) : Persists (Service.remote ℚ)
    fun u v : World ℚ (StorageCall ℚ) Json Service =>
      u.IsBudgeted start timeout → v.IsBudgeted start timeout ∧
        u.clock.now ≤ v.clock.now where
  refl _ h := ⟨h, le_refl _⟩
  trans huv hvw h := ⟨(hvw (huv h).1).1, (huv h).2.trans (hvw (huv h).1).2⟩
  written _ _ h := ⟨⟨h.deadline, h.since, h.forward⟩, le_refl _⟩
  noted _ _ h := ⟨⟨h.deadline, h.since, h.forward⟩, le_refl _⟩
  served w request h := by
    have hdeadline :=
      (deadline?_served (Service.remote ℚ) w request).trans h.deadline
    have hnow := h.now_le_served request
    exact ⟨⟨hdeadline, h.since.trans hnow,
      fun g hg => h.forward g (happenings_served_subset _ w request hg)⟩, hnow⟩

end World

/-! ## The calls -/

/-- The gets and sets of an operation, in order. -/
def Operation.calls {τ : Type} [Seconds τ] (op : Operation τ)
    (w : World τ (StorageCall τ) Json Service) :
    List (Exchange τ (StorageCall τ) Json Service op.Result) :=
  (w.exchanges (Service.remote τ) op.program).filter fun x =>
    (Service.remote τ).eventful x.request

/-- **There are no more calls than stages.** -/
theorem Gated.length_calls_le {τ α : Type} [Seconds τ] {standard : τ}
    {seen : Option (Moment τ)} {stages : List Stage} {p : StorageProgram τ α}
    (h : Gated standard seen stages p)
    (w : World τ (StorageCall τ) Json Service) :
    ((w.exchanges (Service.remote τ) p).filter fun x =>
      (Service.remote τ).eventful x.request).length ≤ stages.length := by
  induction h generalizing w with
  | done a => exact Nat.zero_le _
  | fail fault => exact Nat.zero_le _
  | log entry _ ih => exact ih (w.written entry)
  | note condition _ ih => exact ih (w.noted condition)
  | calendar _ _ ih => exact ih w.moment w
  | connect account _ ih =>
      rw [World.exchanges_call, List.filter_cons_of_neg Bool.false_ne_true]
      exact ih _ _
  | gate hover _ ih =>
      cases hmoment : w.moment.isOver with
      | true =>
          rw [World.exchanges_of_over (hover _ hmoment)]
          exact Nat.zero_le _
      | false => exact ih w.moment hmoment w
  | call _ _ htimeout _ ih =>
      rw [World.exchanges_call, List.filter_cons,
        if_pos (Gated.eventful_of_timeout? htimeout)]
      exact Nat.succ_le_succ (ih _ _)

theorem Deed.length_stages_le (deed : Deed) : deed.stages.length ≤ 2 := by
  cases deed <;> decide

theorem Operation.length_stages_le {τ : Type} (op : Operation τ) :
    op.stages.length ≤ 3 := by
  cases op with
  | verb client deed managed => exact deed.length_stages_le.trans (by decide)
  | visit connector deed managed =>
      exact deed.length_stages_le.trans (by decide)
  | cycle connector managed =>
      exact Nat.succ_le_succ (Operation.follower managed).length_stages_le

/-- **How long the calls of an operation may take.**  The context was made at
`start` to last for `timeout`, and time passes as it likes at the calls, if only
it never goes back.  There are three calls at most; each may take what is left
before the deadline at that time, which is more than nothing, no more than the
whole, and no more than any call before it was given.  Where the context was
never to last, nothing is called. -/
theorem calls_within_budget (op : Operation ℚ)
    {w : World ℚ (StorageCall ℚ) Json Service} {start timeout : ℚ}
    (hw : w.IsBudgeted start timeout) :
    let left (x : Exchange ℚ (StorageCall ℚ) Json Service op.Result) :=
      start + timeout - x.before.clock.now
    (op.calls w).length ≤ 3 ∧
      (∀ x ∈ op.calls w, x.request.timeout? = some (.seconds (left x)) ∧
        0 < left x ∧ left x ≤ timeout) ∧
      (op.calls w).Pairwise (fun x y => left y ≤ left x) ∧
      (timeout ≤ 0 → op.calls w = []) := by
  intro left
  obtain ⟨hbefore, hpairs⟩ :=
    (World.persists_budget start timeout).before op.program w
  have hcall : ∀ x ∈ op.calls w,
      x.request.timeout? = some (.seconds (left x)) ∧ 0 < left x ∧
      left x ≤ timeout := by
    intro x hx
    obtain ⟨hmem, heventful⟩ := List.mem_filter.mp hx
    obtain ⟨hopen, htimeout⟩ :=
      op.gated_program.timely (by simp) x hmem heventful
    obtain ⟨hbudget, -⟩ := hbefore x hmem hw
    obtain ⟨hremaining, hpositive⟩ :=
      Context.remaining?_of_open hbudget.deadline hopen
    refine ⟨?_, hpositive, ?_⟩
    · have hleft : x.before.moment.remaining? = some (left x) := hremaining
      rw [htimeout, hleft, Option.getD_some]
    · show start + timeout - x.before.clock.now ≤ timeout
      linarith [hbudget.since]
  refine ⟨(op.gated_program.length_calls_le w).trans op.length_stages_le, hcall,
    ?_, fun hnothing => ?_⟩
  · refine List.Pairwise.filter _ (hpairs.imp_of_mem fun hx _ hlater => ?_)
    exact sub_le_sub_left (hlater (hbefore _ hx hw).1).2 _
  · refine List.eq_nil_iff_forall_not_mem.mpr fun x hx => ?_
    obtain ⟨-, hpositive, hwhole⟩ := hcall x hx
    exact absurd (hpositive.trans_le (hwhole.trans hnothing)) (lt_irrefl 0)

/-- The context lasts for two and a half seconds; time passes at the first get
and at the second, and at the set that comes after. -/
def hurrying : World ℚ (StorageCall ℚ) Json Service :=
  { World.around 1 [("b", .obj [("etag", .str "1")])] with
    contexts := [("c", .lasting 1 (5 / 2))]
    current? := some "c"
    happenings :=
      [⟨some (1 / 2), none, [], none⟩, ⟨some (1 / 3), none, [], none⟩,
        ⟨some 7, none, [], none⟩] }

/-- A cycle that gives a role. -/
def giving : Operation ℚ :=
  .cycle ⟨⟨"p", .given .null, none⟩, 30, ""⟩
    (.member (.declaring "m" ⟨"b", "r", "u:a"⟩ false))

/-- Three calls are made, and each is given less time than the one before. -/
theorem calls_within_budget_hurrying :
    hurrying.IsBudgeted 1 (5 / 2) ∧
      (giving.calls hurrying).map (fun x => x.before.clock.now) =
        [1, 3 / 2, 11 / 6] ∧
        (giving.calls hurrying).map (fun x => x.request.timeout?) =
          [some (.seconds (5 / 2)), some (.seconds 2),
            some (.seconds (5 / 3))] := by
  have hbudget : hurrying.IsBudgeted 1 (5 / 2) := by
    refine ⟨rfl, le_refl _, ?_⟩
    simp only [hurrying, List.forall_mem_cons, Option.some.injEq, forall_eq']
    norm_num
  have hclocks : (giving.calls hurrying).map (fun x => x.before.clock.now) =
      [1, 3 / 2, 11 / 6] := by
    cbv
  obtain ⟨-, hcall, -, -⟩ := calls_within_budget giving hbudget
  refine ⟨hbudget, hclocks, ?_⟩
  have htimeouts : (giving.calls hurrying).map (fun x => x.request.timeout?) =
      ((giving.calls hurrying).map fun x => x.before.clock.now).map fun now =>
        some (.seconds (1 + 5 / 2 - now)) := by
    rw [List.map_map]
    exact List.map_congr_left fun x hx => (hcall x hx).1
  rw [htimeouts, hclocks]
  norm_num

end GrantKeeper
