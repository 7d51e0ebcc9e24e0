import Mathlib
import GrantKeeper.Proofs.Cycle.Exchanges
import GrantKeeper.Proofs.Cycle.Gated

/-!
# No call out of time

Operations run one after the other under one context, while time passes and
contexts are cancelled at their calls.  Since every get and set stands behind a
gate, each is made in time, and an operation that comes to a gate of a context
that is over ends there, with the stage of the call that it did not make.  What
call that is can be told from the same program in the same world under a context
that is never over: `World.due`.

## Main results

* `Gated.timely` — every get and set is made in time, and may take as long as is
  left.
* `Gated.run_of_over` — what is due under a context that is over is not called.
* `World.Persists.course` — what no step undoes holds ever after.
* `calls_in_time` — the same for operations one after the other.
-/

namespace GrantKeeper

open Program

/-! ## What is due -/

namespace World

variable {τ α : Type} {w : World τ (StorageCall τ) Json Service}

/-- The world under the context that is never over. -/
def unbound (w : World τ (StorageCall τ) Json Service) :
    World τ (StorageCall τ) Json Service :=
  { w with current? := none }

variable [Seconds τ]

/-- The get or set that a program would come to next if its context was not
over. -/
def due (w : World τ (StorageCall τ) Json Service) (p : StorageProgram τ α) :
    Option (StorageCall τ) :=
  ((w.unbound.exchanges (Service.remote τ) p).map (·.request)).find?
    (Service.remote τ).eventful

theorem isOver_unbound (w : World τ (StorageCall τ) Json Service) :
    w.unbound.moment.isOver = false :=
  Context.isOver_background w.clock.now

/-- Behind a closed gate there are no calls. -/
theorem exchanges_of_over {next : Moment τ → StorageProgram τ α} {fault : Fault}
    (h : next w.moment = .fail fault) :
    w.exchanges (Service.remote τ) (.look next) = [] := by
  rw [exchanges, h]
  rfl

theorem unbound_served_connect (w : World τ (StorageCall τ) Json Service)
    (account : Account) :
    w.unbound.served (Service.remote τ) (.connect account) =
      ((w.served (Service.remote τ) (.connect account)).1,
        (w.served (Service.remote τ) (.connect account)).2.unbound) := by
  rw [served_uneventful rfl, served_uneventful rfl]
  rfl

theorem due_connect (account : Account)
    (next : Outcome Json → StorageProgram τ α) :
    w.due (.call (.connect account) next) =
      (w.served (Service.remote τ) (.connect account)).2.due
        (next (w.served (Service.remote τ) (.connect account)).1) := by
  have hserved := unbound_served_connect w account
  rw [due, exchanges, hserved, List.map_cons]
  exact List.find?_cons_of_neg Bool.false_ne_true

theorem due_eventful {request : StorageCall τ}
    (h : (Service.remote τ).eventful request = true)
    (next : Outcome Json → StorageProgram τ α) :
    w.due (.call request next) = some request := by
  rw [due, exchanges, List.map_cons, List.find?_cons_of_pos h]

/-- To sign in takes no time. -/
theorem moment_served_connect (w : World τ (StorageCall τ) Json Service)
    (account : Account) :
    (w.served (Service.remote τ) (.connect account)).2.moment = w.moment := by
  rw [served_uneventful rfl]
  rfl

theorem made_served_connect (w : World τ (StorageCall τ) Json Service)
    (account : Account) :
    (w.served (Service.remote τ) (.connect account)).2.made = w.made :=
  made_served w (.connect account)

theorem store_served_connect (w : World τ (StorageCall τ) Json Service)
    (account : Account) :
    (w.served (Service.remote τ) (.connect account)).2.server.store =
      w.server.store := by
  rw [served_uneventful rfl]
  exact Service.store_answer_connect _ _

end World

/-! ## Gated programs in a world -/

namespace Gated

variable {τ α : Type} [Seconds τ] {standard : τ} {seen : Option (Moment τ)}
  {stages : List Stage}
  {p : StorageProgram τ α} {w : World τ (StorageCall τ) Json Service}
  {request : StorageCall τ}

omit [Seconds τ] in
theorem eventful_of_timeout? {timeout : Timeout τ}
    (h : request.timeout? = some timeout) :
    (Service.remote τ).eventful request = true := by
  cases request with
  | connect account => cases h
  | get bucket version options => rfl
  | set bucket payload options => rfl

/-- **Every get and set is made in time**, and may take as long as is left. -/
theorem timely (h : Gated standard seen stages p)
    (hseen : ∀ m, seen = some m → w.moment = m) :
    ∀ x ∈ w.exchanges (Service.remote τ) p,
      (Service.remote τ).eventful x.request = true →
        x.before.moment.isOver = false ∧
        x.request.timeout? =
          some (.seconds (x.before.moment.remaining?.getD standard)) := by
  induction h generalizing w with
  | done a => exact fun x hx => absurd hx List.not_mem_nil
  | fail fault => exact fun x hx => absurd hx List.not_mem_nil
  | log entry _ ih => exact ih (w := w.written entry) hseen
  | note condition _ ih => exact ih (w := w.noted condition) hseen
  | calendar _ _ ih => exact ih w.moment hseen
  | connect account _ ih =>
      intro x hx hr
      rcases World.mem_exchanges_call.mp hx with rfl | hrest
      · cases hr
      · exact ih _ (by simp) x hrest hr
  | gate hover _ ih =>
      cases hmoment : w.moment.isOver with
      | true =>
          rw [World.exchanges_of_over (hover _ hmoment)]
          exact fun x hx => absurd hx List.not_mem_nil
      | false =>
          refine ih w.moment hmoment fun m hm => ?_
          exact Option.some.inj hm
  | call hopen _ htimeout _ ih =>
      intro x hx hr
      rcases World.mem_exchanges_call.mp hx with rfl | hrest
      · rw [hseen _ rfl]
        exact ⟨hopen, htimeout⟩
      · exact ih _ (by simp) x hrest hr

/-- What is left after a call is gated by the stages that are left. -/
theorem rest (h : Gated standard seen stages p) :
    ∀ x ∈ w.exchanges (Service.remote τ) p, w.made ≤ x.after.made ∧
      Gated standard none (stages.drop (x.after.made - w.made)) x.rest := by
  induction h generalizing w with
  | done a => exact fun x hx => absurd hx List.not_mem_nil
  | fail fault => exact fun x hx => absurd hx List.not_mem_nil
  | log entry _ ih => exact ih (w := w.written entry)
  | note condition _ ih => exact ih (w := w.noted condition)
  | calendar _ _ ih => exact ih w.moment
  | connect account hnext ih =>
      intro x hx
      have hmade := World.made_served_connect w account
      rcases World.mem_exchanges_call.mp hx with rfl | hrest
      · dsimp only
        rw [hmade, Nat.sub_self, List.drop_zero]
        exact ⟨Nat.le_refl _, hnext _⟩
      · rw [← hmade]
        exact ih _ x hrest
  | gate hover _ ih =>
      cases hmoment : w.moment.isOver with
      | true =>
          rw [World.exchanges_of_over (hover _ hmoment)]
          exact fun x hx => absurd hx List.not_mem_nil
      | false => exact ih w.moment hmoment
  | @call m stage stages next request hopen hkind htimeout hnext ih =>
      intro x hx
      have hmade : (w.served (Service.remote τ) request).2.made =
          w.made + 1 := by
        rw [World.made_served, eventful_of_timeout? htimeout, if_pos rfl]
      rcases World.mem_exchanges_call.mp hx with rfl | hrest
      · dsimp only
        rw [hmade, Nat.add_sub_cancel_left]
        exact ⟨Nat.le_add_right _ _, hnext _⟩
      · obtain ⟨hle, hgated⟩ := ih _ x hrest
        have hsplit : x.after.made - w.made =
            x.after.made -
              (w.served (Service.remote τ) request).2.made + 1 := by
          omega
        rw [hsplit]
        exact ⟨by omega, hgated⟩

/-- What is due is a call of the next stage. -/
theorem isSet_of_due (h : Gated standard seen stages p)
    (hdue : w.due p = some request) :
    ∃ stage rest, stages = stage :: rest ∧ stage.isWrite = request.isSet := by
  induction h generalizing w with
  | done a => cases hdue
  | fail fault => cases hdue
  | log entry _ ih => exact ih (w := w.written entry) hdue
  | note condition _ ih => exact ih (w := w.noted condition) hdue
  | calendar _ _ ih => exact ih w.unbound.moment hdue
  | connect account _ ih =>
      rw [World.due_connect] at hdue
      exact ih _ hdue
  | gate _ _ ih => exact ih w.unbound.moment w.isOver_unbound hdue
  | call _ hkind htimeout _ _ =>
      rw [World.due_eventful (eventful_of_timeout? htimeout)] at hdue
      cases hdue
      exact ⟨_, _, rfl, hkind.symm⟩

/-- **What is due under a context that is over is not called**: the program ends
at the stage of that call. -/
theorem run_of_over (h : Gated standard seen stages p)
    (hseen : ∀ m, seen = some m → w.moment = m)
    (hover : w.moment.isOver = true) (hdue : w.due p = some request) :
    ∃ stage rest, stages = stage :: rest ∧ stage.isWrite = request.isSet ∧
      (w.run (Service.remote τ) p).1 = .error (.cancelled stage.text) ∧
      (w.run (Service.remote τ) p).2.made = w.made ∧
      (w.run (Service.remote τ) p).2.server.store = w.server.store := by
  induction h generalizing w with
  | done a => cases hdue
  | fail fault => cases hdue
  | log entry _ ih => exact ih (w := w.written entry) hseen hover hdue
  | note condition _ ih => exact ih (w := w.noted condition) hseen hover hdue
  | calendar hwall _ ih =>
      have hsame := hwall w.unbound.moment w.moment rfl
      refine ih w.moment hseen hover ?_
      rw [← hsame]
      exact hdue
  | connect account _ ih =>
      rw [World.due_connect] at hdue
      have hmoment := w.moment_served_connect account
      rw [← w.made_served_connect account, ← w.store_served_connect account]
      exact ih _ (by simp) (hmoment ▸ hover) hdue
  | @gate seen stage stages next hstop hnext ih =>
      obtain ⟨stage', rest, heq, hkind⟩ :=
        (hnext _ w.isOver_unbound).isSet_of_due hdue
      cases heq
      have hrun : w.run (Service.remote τ) (.look next) =
          (.error (.cancelled stage.text), w) := by
        rw [World.run, hstop _ hover]
        rfl
      rw [hrun]
      exact ⟨stage, stages, rfl, hkind, rfl, rfl, rfl⟩
  | call hopen _ _ _ _ =>
      rw [hseen _ rfl, hopen] at hover
      cases hover

end Gated

/-! ## What is started too late -/

section

variable {τ α : Type} [Seconds τ] {client : Client τ} {managed : Managed}
  {b : Binding} {w : World τ (StorageCall τ) Json Service}

/-- A fetch under a context that is over is not made. -/
theorem Membership.run_fetch_of_over {stage : Stage}
    {f : Outcome Policy → StorageProgram τ α}
    (hcancelled : f (.error (.cancelled stage.text)) =
      .fail (.cancelled stage.text))
    (hover : w.moment.isOver = true) :
    w.run (Service.remote τ) (((fetch b stage).lower client.serve).attempt f) =
      (.error (.cancelled stage.text), w) := by
  rw [fetch_lower_attempt, World.run, if_pos hover, hcancelled]
  rfl

/-- A verb under a context that is over ends at its first stage. -/
theorem Deed.run_of_over (client : Client τ) (hb : managed.binding = .ok b)
    (deed : Deed)
    (k : deed.Result → StorageProgram τ α) (hover : w.moment.isOver = true) :
    ∃ stage rest, deed.stages = stage :: rest ∧
      w.run (Service.remote τ) ((deed.program client managed).bind k) =
        (.error (.cancelled stage.text), w) := by
  have hcreate (k : Unit → StorageProgram τ α) : w.run (Service.remote τ)
      (((Membership.create managed).lower client.serve).bind k) =
        (.error (.cancelled Stage.createFetch.text), w) := by
    rw [Membership.create_lower hb, attempt_bind]
    exact Membership.run_fetch_of_over rfl hover
  cases deed with
  | observe =>
      refine ⟨.observeFetch, _, rfl, ?_⟩
      show World.run _
        (((Membership.observe managed).lower client.serve).bind k) w = _
      rw [Membership.observe_lower hb, attempt_bind]
      exact Membership.run_fetch_of_over rfl hover
  | create => exact ⟨.createFetch, _, rfl, hcreate k⟩
  | update => exact ⟨.createFetch, _, rfl, hcreate k⟩
  | delete =>
      refine ⟨.deleteFetch, _, rfl, ?_⟩
      show World.run _
        (((Membership.delete managed).lower client.serve).bind k) w = _
      rw [Membership.delete_lower hb, attempt_bind]
      exact Membership.run_fetch_of_over rfl hover

/-- Where nobody is refused, a client is made. -/
theorem Connector.run_connect (hb : managed.binding = .ok b) (c : Connector τ)
    (hrefusal : w.server.refusal? = none) (k : Client τ → StorageProgram τ α) :
    w.run (Service.remote τ) ((c.connect managed).bind k) =
      (w.served (Service.remote τ) (.connect c.account)).2.run
        (Service.remote τ) (k ⟨c.callTimeout⟩) := by
  have hreply : (w.served (Service.remote τ) (.connect c.account)).1 =
      .ok .null := by
    rw [World.served_uneventful rfl, Service.answer_connect hrefusal]
  rw [connect_eq hb]
  show World.run _
    (Program.bind (ofOutcome (c.signedIn (World.served _ w _).1)) k) _ = _
  rw [hreply]
  rfl

/-- **What is started under a context that is over ends at its first stage**,
provided that its client could be made. -/
theorem Operation.run_of_over (op : Operation τ)
    (hb : op.managed.binding = .ok b)
    (hclient : op.signsIn = true → w.server.refusal? = none)
    (hover : w.moment.isOver = true) :
    ∃ stage rest,
      op.stages = stage :: rest ∧
        (op.run w).1 = .error (.cancelled stage.text) ∧
        (op.run w).2.made = w.made ∧
        (op.run w).2.server.store = w.server.store := by
  have hsigned (c : Connector τ) :
      (w.served (Service.remote τ) (.connect c.account)).2.moment.isOver =
        true := by
    rw [World.moment_served_connect, hover]
  cases op with
  | verb client deed managed =>
      have hb : managed.binding = .ok b := hb
      obtain ⟨stage, rest, hstages, hrun⟩ :=
        Deed.run_of_over client hb deed .done hover
      rw [bind_done] at hrun
      rw [run, program, hrun]
      exact ⟨stage, rest, hstages, rfl, rfl, rfl⟩
  | visit c deed managed =>
      have hb : managed.binding = .ok b := hb
      obtain ⟨stage, rest, hstages, hrun⟩ :=
        Deed.run_of_over ⟨c.callTimeout⟩ hb deed .done (hsigned c)
      rw [bind_done] at hrun
      rw [run, program, Connector.run_connect hb c (hclient rfl), hrun]
      exact ⟨stage, rest, hstages, rfl, World.made_served_connect _ _,
        World.store_served_connect _ _⟩
  | cycle c managed =>
      have hb : managed.binding = .ok b := hb
      obtain ⟨stage, rest, hstages, hrun⟩ :=
        Deed.run_of_over ⟨c.callTimeout⟩ hb .observe
          (Connector.act ⟨c.callTimeout⟩ managed) (hsigned c)
      cases hstages
      have hcycle : (Operation.cycle c managed).run w = _ :=
        (congrArg (World.run (Service.remote τ) · w)
          (c.reconcile_eq managed)).trans
          ((Connector.run_connect hb c (hclient rfl) _).trans hrun)
      rw [hcycle]
      exact ⟨_, _, rfl, rfl, World.made_served_connect _ _,
        World.store_served_connect _ _⟩

end

/-! ## What holds ever after -/

namespace World

variable {τ : Type} [Seconds τ]

/-- The worlds of operations one after the other: where each starts, and after
each of its calls. -/
def course : List (Operation τ) → World τ (StorageCall τ) Json Service →
    List (World τ (StorageCall τ) Json Service)
  | [], _ => []
  | op :: ops, w =>
      (w.points (Service.remote τ) op.program).map Prod.snd ++
        course ops (op.run w).2

variable {R : World τ (StorageCall τ) Json Service →
  World τ (StorageCall τ) Json Service → Prop}

/-- **What no step undoes holds ever after.** -/
theorem Persists.course (h : Persists (Service.remote τ) R)
    (ops : List (Operation τ)) (w : World τ (StorageCall τ) Json Service) :
    (∀ v ∈ w.course ops, R w v) ∧ (w.course ops).Pairwise R := by
  induction ops generalizing w with
  | nil => exact ⟨fun v hv => absurd hv List.not_mem_nil, .nil⟩
  | cons op ops ih =>
      obtain ⟨hlater, hpairs⟩ := ih (op.run w).2
      obtain ⟨hafter, hwithin⟩ := h.exchanges op.program w
      have hpoints : ((w.points (Service.remote τ) op.program).map Prod.snd) =
          w :: (w.exchanges (Service.remote τ) op.program).map (·.after) := by
        rw [points, List.map_cons, List.map_map]
        rfl
      have hstart : ∀ v ∈ (w.points (Service.remote τ) op.program).map Prod.snd,
          R w v := by
        rw [hpoints]
        exact List.forall_mem_cons.mpr
          ⟨h.refl w, List.forall_mem_map.mpr hafter⟩
      have hend : ∀ v ∈ (w.points (Service.remote τ) op.program).map Prod.snd,
          R v (op.run w).2 := by
        rw [hpoints]
        refine List.forall_mem_cons.mpr
          ⟨h.run _ _, List.forall_mem_map.mpr fun x hx => ?_⟩
        rw [Operation.run, ← run_rest hx]
        exact h.run _ _
      refine ⟨fun v hv => ?_,
        List.pairwise_append.mpr ⟨?_, hpairs, fun u hu v hv => ?_⟩⟩
      · rcases List.mem_append.mp hv with hin | hnext
        · exact hstart v hin
        · exact h.trans (h.run op.program w) (hlater v hnext)
      · rw [hpoints]
        exact .cons (List.forall_mem_map.mpr hafter)
          (List.pairwise_map.mpr hwithin)
      · exact h.trans (hend u hu) (hlater v hv)

/-- A context that is cancelled stays cancelled. -/
theorem persists_cancelled : Persists (Service.remote τ)
    fun u v : World τ (StorageCall τ) Json Service =>
      u.context.cancelled = true → v.context.cancelled = true where
  refl _ h := h
  trans huv hvw h := hvw (huv h)
  written _ _ h := h
  noted _ _ h := h
  served _ request h := cancelled_served _ request h

end World

/-! ## Operations one after the other -/

section

variable {τ : Type} [Seconds τ]

/-- A call that is due where the context of an operation is over is not made:
the operation ends with the stage of that call, and leaves the store as it
is. -/
theorem Operation.run_of_due {op : Operation τ}
    {w v : World τ (StorageCall τ) Json Service}
    {q : StorageProgram τ op.Result} {request : StorageCall τ}
    (hpoint : (q, v) ∈ w.points (Service.remote τ) op.program)
    (hover : v.moment.isOver = true) (hdue : v.due q = some request) :
    ∃ stage, op.stages[v.made - w.made]? = some stage ∧
      stage.isWrite = request.isSet ∧
      (op.run w).1 = .error (.cancelled stage.text) ∧
      (op.run w).2.made = v.made ∧
      (op.run w).2.server.store = v.server.store := by
  have hleft : Gated op.callTimeout none (op.stages.drop (v.made - w.made)) q ∧
      v.run (Service.remote τ) q = op.run w := by
    rcases List.mem_cons.mp hpoint with hstart | hlater
    · cases hstart
      rw [Nat.sub_self, List.drop_zero]
      exact ⟨op.gated_program, rfl⟩
    · obtain ⟨x, hx, heq⟩ := List.mem_map.mp hlater
      cases heq
      exact ⟨(op.gated_program.rest x hx).2, World.run_rest hx⟩
  obtain ⟨hgated, hrun⟩ := hleft
  obtain ⟨stage, rest, hstages, hkind, hends⟩ :=
    hgated.run_of_over (by simp) hover hdue
  rw [hrun] at hends
  refine ⟨stage, ?_, hkind, hends⟩
  have hhead := congrArg List.head? hstages
  rwa [List.head?_drop] at hhead

/-- **No call out of time.**  While operations run one after the other, whatever
happens at their calls: every get and set is made while the context is not over,
and may take as long as is left before its deadline, or as long as calls usually
may.  Where another get or set is due but the context is over, the operation
ends with the stage of exactly that call, and neither calls nor writes anything
more.  An operation that starts under a context that is over ends at its first
stage.  A context that was cancelled is over ever after. -/
theorem calls_in_time (ops : List (Operation τ))
    (w : World τ (StorageCall τ) Json Service) :
    (∀ op start, (op, start) ∈ w.turns ops →
      (∀ x ∈ start.exchanges (Service.remote τ) op.program,
        (Service.remote τ).eventful x.request = true →
        let now := x.before.clock.now
        x.before.context.isOver now = false ∧
          x.request.timeout? = some (.seconds
            ((x.before.context.remaining? now).getD op.callTimeout))) ∧
      (∀ q v request, (q, v) ∈ start.points (Service.remote τ) op.program →
        v.context.isOver v.clock.now = true → v.due q = some request →
        ∃ stage, op.stages[v.made - start.made]? = some stage ∧
          stage.isWrite = request.isSet ∧
          (op.run start).1 = .error (.cancelled stage.text) ∧
          (op.run start).2.made = v.made ∧
          (op.run start).2.server.store = v.server.store) ∧
      (∀ b, op.managed.binding = .ok b →
        (op.signsIn = true → start.server.refusal? = none) →
        start.context.isOver start.clock.now = true →
        ∃ stage, op.stages.head? = some stage ∧
          (op.run start).1 = .error (.cancelled stage.text) ∧
          (op.run start).2.made = start.made ∧
          (op.run start).2.server.store = start.server.store)) ∧
    (w.course ops).Pairwise fun u v =>
      u.context.cancelled = true → v.context.isOver v.clock.now = true := by
  refine ⟨fun op start _ =>
    ⟨?_, fun q v request hpoint hover hdue => ?_, fun b hb hclient hover => ?_⟩,
      ?_⟩
  · exact op.gated_program.timely (by simp)
  · exact Operation.run_of_due hpoint hover hdue
  · obtain ⟨stage, rest, hstages, hends⟩ := op.run_of_over hb hclient hover
    exact ⟨stage, by rw [hstages, List.head?_cons], hends⟩
  · refine (World.persists_cancelled.course ops w).2.imp
      fun hpersists hcancelled => ?_
    exact Context.isOver_iff.mpr (Or.inl (hpersists hcancelled))

end

/-- The context has a deadline; time passes at the first get, and at the second
the context is cancelled. -/
def curtailed : World Int (StorageCall Int) Json Service :=
  { World.around 0 [("b", .obj [("etag", .str "1")])] with
    contexts := [("c", .lasting 0 100)]
    current? := some "c"
    happenings := [⟨some 60, none, [], none⟩, ⟨none, some "c", [], none⟩] }

/-- The same context, but the first get takes longer than its deadline
allows. -/
def expiring : World Int (StorageCall Int) Json Service :=
  { curtailed with happenings := [⟨some 120, none, [], none⟩] }

/-- A cycle whose context ends while it runs. -/
def hurried : Operation Int :=
  .cycle ⟨⟨"p", .given .null, none⟩, 30, ""⟩
    (.member (.declaring "m" ⟨"b", "r", "u:a"⟩ false))

/-- A verb that comes after it. -/
def belated : Operation Int :=
  .verb ⟨30⟩ .delete (.member (.declaring "m" ⟨"b", "r", "u:a"⟩ false))

/-- A cancelled context stops a cycle before its set, and a deadline stops it
before its second get; the verb that comes after either makes no call. -/
theorem calls_in_time_curtailed :
    (∃ x ∈ curtailed.exchanges (Service.remote Int) hurried.program,
      x.request.timeout? = some (.seconds 40)) ∧
    (hurried.run curtailed).1 = .error (.cancelled "create-write") ∧
    (belated.run (hurried.run curtailed).2).1 =
      .error (.cancelled "delete-fetch") ∧
    (hurried.run expiring).1 = .error (.cancelled "create-fetch") ∧
    (belated.run (hurried.run expiring).2).1 =
      .error (.cancelled "delete-fetch") := by
  -- the place where a cycle is stopped is found by counting the calls before it
  have hstops (w : World Int (StorageCall Int) Json Service) (n made : Nat)
      (stage : Stage)
      (hpoint : ((w.points (Service.remote Int) hurried.program)[n]?.map
        fun pt =>
        (pt.2.context.isOver pt.2.clock.now, (pt.2.due pt.1).isSome,
          pt.2.made - w.made)) =
        some (true, true, made)) (hstage : hurried.stages[made]? = some stage) :
      (hurried.run w).1 = .error (.cancelled stage.text) := by
    obtain ⟨hops, -⟩ := calls_in_time [hurried] w
    obtain ⟨-, hdue, -⟩ := hops hurried w List.mem_cons_self
    obtain ⟨⟨q, v⟩, hin, hfacts⟩ := Option.map_eq_some_iff.mp hpoint
    simp only [Prod.mk.injEq, Option.isSome_iff_exists] at hfacts
    obtain ⟨hover, ⟨request, hrequest⟩, hmade⟩ := hfacts
    obtain ⟨stage', hstage', -, hfails, -⟩ :=
      hdue q v request (List.mem_of_getElem? hin) hover hrequest
    rw [hmade, hstage] at hstage'
    cases hstage'
    exact hfails
  have hlate (w : World Int (StorageCall Int) Json Service)
      (hover : (hurried.run w).2.context.isOver (hurried.run w).2.clock.now =
        true) :
      (belated.run (hurried.run w).2).1 =
        .error (.cancelled "delete-fetch") := by
    obtain ⟨hops, -⟩ := calls_in_time [hurried, belated] w
    obtain ⟨-, -, hlate⟩ :=
      hops belated _ (List.mem_cons_of_mem _ List.mem_cons_self)
    obtain ⟨stage, hstage, hfails, -⟩ := hlate ⟨"b", "r", "u:a"⟩ rfl nofun hover
    cases hstage
    exact hfails
  have hnow : (hurried.run expiring).2.clock.now = 120 := by
    cbv
  have hdeadline : (hurried.run expiring).2.context.deadline? = some 100 := by
    cbv
  have hexpired : (hurried.run expiring).2.context.isOver
      (hurried.run expiring).2.clock.now = true :=
    Context.isOver_iff_le.mpr (Or.inr ⟨100, hdeadline, by rw [hnow]; decide⟩)
  refine ⟨?_, hstops _ 3 2 .createWrite ?_ rfl, hlate _ ?_,
    hstops _ 2 1 .createFetch ?_ rfl, hlate _ hexpired⟩
  · have hsecond :
        ((curtailed.exchanges (Service.remote Int) hurried.program)[2]?.map
          fun x =>
        ((Service.remote Int).eventful x.request,
          x.before.context.remaining? x.before.clock.now)) =
        some (true, some 40) := by
      cbv
    obtain ⟨hops, -⟩ := calls_in_time [hurried, belated] curtailed
    obtain ⟨htimely, -, -⟩ := hops hurried curtailed List.mem_cons_self
    obtain ⟨x, hx, hfacts⟩ := Option.map_eq_some_iff.mp hsecond
    obtain ⟨heventful, hremaining⟩ := Prod.mk.inj hfacts
    have hin := List.mem_of_getElem? hx
    refine ⟨x, hin, ?_⟩
    rw [(htimely x hin heventful).2, hremaining]
    rfl
  all_goals cbv

end GrantKeeper
