import GrantKeeper.Proofs.Storage.Audited
import GrantKeeper.Proofs.Storage.Uncommitted

/-!
# The log as an audit trail

An audited program writes one entry of severity INFO for each of its sets that
succeeds.  A set succeeds if and only if the store accepts it, as long as only
the store accepts sets: the reply to an accepted set is the policy that was
sent, and what a document encodes to can be read again, so that nothing comes
between the set and its entry.  An entry becomes a line for every handler that
the logger reaches.  Of the seconds nothing is asked but that their conversion
to a calendar does not fail with a fault of the program's own.  The induction
over a program carries the entry that is owed to the log, which is there between
the reply to a set and the next action.

## Main results

* `Program.IsAudited.logged_run` — what an audited program adds to the log.
* `Operation.logged_run` — what one operation adds to it.
* `Session.logged`, `log_is_audit_trail` — what a session adds to it.
-/

namespace GrantKeeper

open Program

variable {τ α : Type} {b : Binding} {stage : Stage}

/-! ## Lines -/

/-- The record is of this severity. -/
def Log.Record.isOf (severity : Severity) (r : Log.Record) : Bool :=
  r.level.text? == some severity.name

theorem Log.Registry.canonical_canonical (name : String) :
    canonical (canonical name) = canonical name := by
  unfold canonical
  split <;> simp_all

namespace World

variable {ρ ι κ : Type}

/-- The lines that an entry makes if it is let through: one for every handler
that it reaches. -/
def lines (w : World τ ρ ι κ) (entry : Entry) : List Log.Record :=
  List.replicate (w.loggers.handlers w.logger)
    ⟨.str (Log.Registry.signature w.logger), .str entry.event.severity.name,
      entry.event.message,
      .ofBinding w.requestId entry.binding entry.stage.text, none⟩

/-- The log, as far as it is of this severity. -/
def logged (w : World τ ρ ι κ) (severity : Severity) : List Log.Record :=
  w.records.filter (Log.Record.isOf severity)

section

variable {w : World τ ρ ι κ} {entry : Entry}

/-- The lines of an entry are of its severity. -/
theorem filter_lines (w : World τ ρ ι κ) (severity : Severity) (entry : Entry) :
    (w.lines entry).filter (Log.Record.isOf severity) =
      if entry.event.severity = severity then w.lines entry else [] := by
  rw [lines, List.filter_replicate]
  cases entry.event.severity <;> cases severity <;> rfl

theorem logged_written (w : World τ ρ ι κ) (severity : Severity)
    (entry : Entry) :
    (w.written entry).logged severity = w.logged severity ++
      (if w.loggers.isEnabled w.logger entry.event.severity.level then
        w.lines entry
      else []).filter (Log.Record.isOf severity) :=
  List.filter_append _ _

/-- An entry is not logged as one of another severity. -/
theorem logged_written_of_ne (severity : Severity)
    (h : entry.event.severity ≠ severity) :
    (w.written entry).logged severity = w.logged severity := by
  rw [logged_written]
  split
  · rw [filter_lines, if_neg h, List.append_nil]
  · rw [List.filter_nil, List.append_nil]

/-- A logger that lets information through writes down all that is not for
debugging. -/
theorem logged_written_of_eq
    (hlevel : w.loggers.effectiveLevel w.logger ≤ Severity.info.level)
    (severity : Severity) (h : entry.event.severity = severity)
    (hseverity : severity ≠ .debug) :
    (w.written entry).logged severity = w.logged severity ++ w.lines entry := by
  have henabled : w.loggers.isEnabled w.logger entry.event.severity.level =
      true := by
    rw [h, Log.Registry.isEnabled, Bool.and_eq_true, decide_eq_true_eq,
      decide_eq_true_eq]
    cases severity with
    | debug => exact absurd rfl hseverity
    | info => exact ⟨by decide, hlevel⟩
    | warning => exact ⟨by decide, hlevel.trans (by decide)⟩
  rw [logged_written, if_pos henabled, filter_lines, if_pos h]

end

variable [Seconds τ]

theorem logged_served (remote : Remote ρ ι κ) (w : World τ ρ ι κ) (request : ρ)
    (severity : Severity) :
    (w.served remote request).2.logged severity = w.logged severity := by
  obtain ⟨clock, contexts, happenings, server, calls, heq⟩ :=
    w.exists_served remote request
  rw [heq]
  rfl

theorem lines_served (remote : Remote ρ ι κ) (w : World τ ρ ι κ) (request : ρ)
    (entry : Entry) :
    (w.served remote request).2.lines entry = w.lines entry := by
  obtain ⟨clock, contexts, happenings, server, calls, heq⟩ :=
    w.exists_served remote request
  rw [heq]
  rfl

/-! ## Worlds in which a trail is kept -/

/-- Only the store answers, what fails does not fail with a fault of the
program's own, and the logger lets information through and has a handler. -/
structure KeepsTrail (w : World τ (StorageCall τ) Json Service) : Prop where
  faithful : w.IsFaithful
  foreign : w.IsForeign
  informed : w.loggers.effectiveLevel w.logger ≤ Severity.info.level
  handled : (w.loggers.get? w.logger).any Log.Logger.handled = true

variable {w : World τ (StorageCall τ) Json Service}

theorem KeepsTrail.served (h : w.KeepsTrail) (request : StorageCall τ) :
    (w.served (Service.remote τ) request).2.KeepsTrail where
  faithful := h.faithful.served request
  foreign := (h.foreign.served request).2
  informed := by
    obtain ⟨clock, contexts, happenings, server, calls, heq⟩ :=
      w.exists_served (Service.remote τ) request
    rw [heq]
    exact h.informed
  handled := by
    obtain ⟨clock, contexts, happenings, server, calls, heq⟩ :=
      w.exists_served (Service.remote τ) request
    rw [heq]
    exact h.handled

omit [Seconds τ] in
theorem KeepsTrail.written (h : w.KeepsTrail) (entry : Entry) :
    (w.written entry).KeepsTrail :=
  ⟨h.faithful, ⟨h.foreign.reply, h.foreign.refusal⟩, h.informed, h.handled⟩

omit [Seconds τ] in
theorem KeepsTrail.noted (h : w.KeepsTrail) (condition : Condition) :
    (w.noted condition).KeepsTrail :=
  ⟨h.faithful, ⟨h.foreign.reply, h.foreign.refusal⟩, h.informed, h.handled⟩

/-- A run leaves such a world behind. -/
theorem KeepsTrail.run (h : w.KeepsTrail) (p : StorageProgram τ α) :
    (w.run (Service.remote τ) p).2.KeepsTrail := by
  induction p generalizing w with
  | done a => exact h
  | fail fault => exact h
  | look next ih => exact ih _ h
  | log entry next ih => exact ih (h.written entry)
  | note condition next ih => exact ih (h.noted condition)
  | call request next ih => exact ih _ (h.served request)

omit [Seconds τ] in
/-- A handler of its own is among those that a record of a logger reaches. -/
theorem KeepsTrail.lines_ne_nil (h : w.KeepsTrail) (entry : Entry) :
    w.lines entry ≠ [] := by
  have hown : (w.loggers.get? (Log.Registry.canonical w.logger)).any
      Log.Logger.handled = true := by
    rw [Log.Registry.get?, Log.Registry.canonical_canonical]
    exact h.handled
  rw [lines, ne_eq, List.replicate_eq_nil_iff, ← ne_eq, ← Nat.pos_iff_ne_zero]
  exact List.countP_pos_iff.mpr ⟨_, List.mem_cons_self, hown⟩

/-- The reply to a set that was accepted is the policy that was sent, which can
be read. -/
theorem IsFaithful.exists_policyOf (h : w.IsFaithful) {request : StorageCall τ}
    (hback : request.ReadsBack) (hset : request.isSet = true) {reply : Json}
    (hreply : (w.served (Service.remote τ) request).1 = .ok reply) :
    ∃ d, Client.policyOf reply = .ok d := by
  cases request with
  | connect account => cases hset
  | get bucket version options => cases hset
  | set bucket payload options =>
      rw [served_eventful rfl] at hreply
      cases hupcoming : w.upcoming.reply? with
      | some other =>
          obtain ⟨fault, hfault⟩ := h _ (upcoming_mem hupcoming) other hupcoming
            (.set bucket payload options)
          rw [hupcoming] at hreply
          cases hfault.symm.trans hreply
      | none =>
          rw [hupcoming] at hreply
          obtain ⟨fault, hrefused, -⟩ | ⟨stored, -, -, haccepted⟩ :=
            Store.set_cases
              (w.asked (Service.remote τ)
                (.set bucket payload options)).server.store bucket payload
          · simp only [Service.answer_set, hrefused] at hreply
            cases hreply
          · simp only [Service.answer_set, haccepted] at hreply
            cases hreply
            exact hback _

end World

/-- The bucket of a set that the store accepted, if the exchange is one. -/
def Exchange.accepted? (x : Exchange τ (StorageCall τ) Json Service α) :
    Option String :=
  match x.request with
  | .set bucket _ _ =>
      if x.before.server.store.writes < x.after.server.store.writes then
        some bucket
      else none
  | _ => none

/-- The outcome is a conflict with another writer. -/
def Outcome.isConflict : Outcome α → Bool
  | .ok _ => false
  | .error fault => fault.isConflict

namespace World

variable [Seconds τ]

/-- The buckets of the sets that the store accepted from a program, in order. -/
def acceptedSets (w : World τ (StorageCall τ) Json Service)
    (p : StorageProgram τ α) : List String :=
  (w.exchanges (Service.remote τ) p).filterMap Exchange.accepted?

variable {w : World τ (StorageCall τ) Json Service}

/-- In a faithful world a set is accepted if it succeeds. -/
theorem IsFaithful.accepted?_served (h : w.IsFaithful) (request : StorageCall τ)
    (rest : StorageProgram τ α) :
    Exchange.accepted? ⟨w, request, (w.served (Service.remote τ) request).1,
      (w.served (Service.remote τ) request).2, rest⟩ =
        match request with
        | .set bucket _ _ =>
            if (w.served (Service.remote τ) request).1.isOk then
              some bucket
            else none
        | _ => none := by
  cases request with
  | set bucket payload options =>
      have hwrites := h.writes_served (.set bucket payload options)
      rw [Exchange.accepted?]
      cases hreply : (w.served (Service.remote τ)
        (.set bucket payload options)).1 with
      | ok reply =>
          rw [hreply] at hwrites
          exact if_pos (hwrites ▸ Nat.lt_succ_self _)
      | error fault =>
          rw [hreply] at hwrites
          exact if_neg (hwrites ▸ Nat.lt_irrefl _)
  | _ => rfl

/-- What a call adds to the accepted sets. -/
theorem acceptedSets_call (w : World τ (StorageCall τ) Json Service)
    (request : StorageCall τ) (next : Outcome Json → StorageProgram τ α) :
    w.acceptedSets (.call request next) =
      (Exchange.accepted? ⟨w, request, (w.served (Service.remote τ) request).1,
        (w.served (Service.remote τ) request).2,
        next (w.served (Service.remote τ) request).1⟩).toList ++
      (w.served (Service.remote τ) request).2.acceptedSets
        (next (w.served (Service.remote τ) request).1) := by
  rw [acceptedSets, exchanges, List.filterMap_cons, ← acceptedSets]
  split
  · rename_i hnone
    rw [hnone]
    rfl
  · rename_i hsome
    rw [hsome]
    rfl

end World

/-- **What an audited program adds to the log.** -/
theorem Program.IsAudited.logged_run [Seconds τ]
    (hseconds : ∀ time : τ,
      ∀ fault, Seconds.micros time = .error fault → fault.isOwn = false)
    {owed : Bool} {p : StorageProgram τ α} (hp : IsAudited b stage owed p)
    {w : World τ (StorageCall τ) Json Service} (hw : w.KeepsTrail)
    (hback : ∀ x ∈ w.exchanges (Service.remote τ) p, x.request.ReadsBack) :
    (w.run (Service.remote τ) p).2.logged .info = w.logged .info ++
      ((if owed then w.lines ⟨.updated, b, stage⟩ else []) ++
        (w.acceptedSets p).flatMap fun bucket =>
          w.lines ⟨.updated, { b with resource := bucket }, stage⟩) ∧
    (w.run (Service.remote τ) p).2.logged .warning = w.logged .warning ++
      if (w.run (Service.remote τ) p).1.isConflict then
        w.lines ⟨.changedConcurrently, b, stage⟩
      else [] := by
  induction p generalizing w owed with
  | done a =>
      obtain rfl : owed = false := hp
      exact ⟨(List.append_nil _).symm, (List.append_nil _).symm⟩
  | fail fault =>
      obtain ⟨rfl, hfault⟩ := hp
      refine ⟨(List.append_nil _).symm, ?_⟩
      show w.logged .warning = _ ++ if fault.isConflict then _ else _
      rw [hfault]
      exact (List.append_nil _).symm
  | look next ih =>
      exact ih _ (hp w.moment (Clock.isOwn_of_wall hseconds w.clock)) hw hback
  | note condition next ih => exact ih hp (hw.noted condition) hback
  | log entry next ih =>
      have hw' := hw.written entry
      unfold IsAudited at hp
      split at hp
      · rename_i hdebug
        obtain ⟨hinfo, hwarning⟩ := ih hp hw' hback
        rw [World.logged_written_of_ne .info (by rw [hdebug]; decide)] at hinfo
        rw [World.logged_written_of_ne .warning (by rw [hdebug]; decide)]
          at hwarning
        exact ⟨hinfo, hwarning⟩
      · obtain ⟨rfl, rfl, hnext⟩ := hp
        obtain ⟨hinfo, hwarning⟩ := ih hnext hw' hback
        rw [World.logged_written_of_eq hw.informed .info rfl (by decide),
          List.append_assoc] at hinfo
        rw [World.logged_written_of_ne .warning (fun h => by cases h)]
          at hwarning
        exact ⟨hinfo, hwarning⟩
      · obtain ⟨rfl, rfl, cause, rfl⟩ := hp
        exact ⟨(World.logged_written_of_ne .info fun h => by cases h).trans
          (List.append_nil _).symm,
          World.logged_written_of_eq hw.informed .warning rfl (by decide)⟩
  | call request next ih =>
      obtain ⟨rfl, hbucket, hfault, hreply⟩ := hp
      have hforeign := (hw.foreign.served request).1
      have hreadable := hw.faithful.exists_policyOf
        (hback _ (World.mem_exchanges_call.mpr (Or.inl rfl)))
      have haccepted := hw.faithful.accepted?_served request
        (next (w.served (Service.remote τ) request).1)
      have hlines : (w.served (Service.remote τ) request).2.lines = w.lines :=
        funext (w.lines_served (Service.remote τ) request)
      have haudited : IsAudited b stage
          (request.isSet && (w.served (Service.remote τ) request).1.isOk)
          (next (w.served (Service.remote τ) request).1) := by
        cases ho : (w.served (Service.remote τ) request).1 with
        | error fault =>
            rw [Except.isOk, Except.toBool, Bool.and_false]
            exact hfault fault (hforeign fault ho)
        | ok reply =>
            rw [Except.isOk, Except.toBool, Bool.and_true]
            exact hreply reply fun hset => hreadable hset ho
      obtain ⟨hinfo, hwarning⟩ := ih _ haudited (hw.served request)
        fun x hx => hback x (World.mem_exchanges_call.mpr (Or.inr hx))
      rw [World.logged_served, hlines] at hinfo hwarning
      refine ⟨hinfo.trans ?_, hwarning⟩
      rw [World.acceptedSets_call, haccepted, List.flatMap_append,
        if_neg Bool.false_ne_true, List.nil_append]
      congr 2
      cases request with
      | set bucket payload options =>
          obtain rfl : bucket = b.resource := hbucket bucket payload options rfl
          show _ = (if _ then some b.resource else none).toList.flatMap _
          cases hok : (w.served (Service.remote τ)
            (.set b.resource payload options)).1.isOk with
          | true => exact (List.append_nil _).symm
          | false => rfl
      | _ => rfl

/-! ## Operations -/

/-- What refuses a resource is no conflict. -/
theorem Managed.isConflict_of_binding {managed : Managed} {fault : Fault}
    (h : managed.binding = .error fault) : fault.isConflict = false := by
  cases managed with
  | member resource => exact Outcome.isConflict_of_ofShape h
  | other value =>
      cases h
      rfl

namespace Operation

variable [Seconds τ]

/-- What an operation is about.  One whose resource is refused is about
nothing. -/
def about (op : Operation τ) : Binding :=
  op.managed.binding.toOption.getD ⟨"", "", ""⟩

/-- The lines for the sets of an operation that the store accepted: in order,
each with the bucket of the set, the role and the member of the resource, and
the stage at which the verb writes. -/
def updates (op : Operation τ) (w : World τ (StorageCall τ) Json Service) :
    List Log.Record :=
  (w.acceptedSets op.program).flatMap fun bucket =>
    w.lines ⟨.updated, { op.about with resource := bucket }, op.writeStage⟩

/-- The lines for the conflict that an operation ends with, if it does. -/
def conflicts (op : Operation τ) (w : World τ (StorageCall τ) Json Service) :
    List Log.Record :=
  if (op.run w).1.isConflict then
    w.lines ⟨.changedConcurrently, op.about, op.writeStage⟩
  else []

/-- **What an operation adds to the log.** -/
theorem logged_run
    (hseconds : ∀ time : τ,
      ∀ fault, Seconds.micros time = .error fault → fault.isOwn = false)
    (op : Operation τ) {w : World τ (StorageCall τ) Json Service}
    (hw : w.KeepsTrail) :
    (op.run w).2.logged .info = w.logged .info ++ op.updates w ∧
      (op.run w).2.logged .warning = w.logged .warning ++ op.conflicts w := by
  cases hb : op.managed.binding with
  | ok b =>
      have habout : op.about = b := by
        rw [about, hb]
        rfl
      have hback := Program.meets_exchanges (World.follows_reversible w)
        readsBack_of_call w.traces_self
        op.meets_program
      rw [updates, conflicts, habout]
      exact (op.isAudited_program hb).logged_run hseconds hw hback
  | error fault =>
      have hconflict : Outcome.isConflict (.error fault : Outcome op.Result) =
          false :=
        Managed.isConflict_of_binding hb
      rw [updates, conflicts, Operation.run, program_of_error hb]
      refine ⟨(List.append_nil _).symm, ?_⟩
      show w.logged .warning = _ ++
        if Outcome.isConflict (.error fault : Outcome op.Result) then _ else _
      rw [hconflict]
      exact (List.append_nil _).symm

end Operation

/-! ## Sessions -/

/-- Turns of operations that lead from one log to another.  Between two turns
anybody may do anything, but write to the log. -/
inductive Session [Seconds τ] : List Log.Record →
    List (Operation τ × World τ (StorageCall τ) Json Service) →
    List Log.Record → Prop
  | idle (log : List Log.Record) : Session log [] log
  | turn {op : Operation τ} {w : World τ (StorageCall τ) Json Service}
      {turns last}
      (h : Session (op.run w).2.records turns last) :
      Session w.records ((op, w) :: turns) last

/-- Operations that are run one after the other in one world are a session. -/
theorem session_turns [Seconds τ] (ops : List (Operation τ))
    (w : World τ (StorageCall τ) Json Service) :
    Session w.records (World.turns ops w)
      (ops.foldl (fun v op => (op.run v).2) w).records := by
  induction ops generalizing w with
  | nil => exact .idle _
  | cons op ops ih => exact .turn (ih (op.run w).2)

theorem World.KeepsTrail.turns [Seconds τ]
    {w : World τ (StorageCall τ) Json Service} (h : w.KeepsTrail)
    (ops : List (Operation τ)) : ∀ t ∈ World.turns ops w, t.2.KeepsTrail := by
  induction ops generalizing w with
  | nil => exact fun t ht => absurd ht List.not_mem_nil
  | cons op ops ih => exact List.forall_mem_cons.mpr ⟨h, ih (h.run op.program)⟩

/-- **What a session adds to the log**, turn by turn. -/
theorem Session.logged [Seconds τ]
    (hseconds : ∀ time : τ,
      ∀ fault, Seconds.micros time = .error fault → fault.isOwn = false)
    {first last : List Log.Record}
    {turns : List (Operation τ × World τ (StorageCall τ) Json Service)}
    (h : Session first turns last) (hworlds : ∀ t ∈ turns, t.2.KeepsTrail) :
    last.filter (Log.Record.isOf .info) =
      first.filter (Log.Record.isOf .info) ++
        turns.flatMap (fun t => t.1.updates t.2) ∧
    last.filter (Log.Record.isOf .warning) =
      first.filter (Log.Record.isOf .warning) ++
        turns.flatMap (fun t => t.1.conflicts t.2) := by
  induction h with
  | idle log => exact ⟨(List.append_nil _).symm, (List.append_nil _).symm⟩
  | turn h ih =>
      rename_i op w turns last
      obtain ⟨hinfo, hwarning⟩ :=
        op.logged_run hseconds (hworlds _ List.mem_cons_self)
      obtain ⟨hinfos, hwarnings⟩ :=
        ih fun t ht => hworlds t (List.mem_cons_of_mem _ ht)
      rw [hinfos, hwarnings, List.flatMap_cons, List.flatMap_cons,
        ← List.append_assoc, ← List.append_assoc]
      exact ⟨congrArg (· ++ _) hinfo, congrArg (· ++ _) hwarning⟩

/-- **The log is an audit trail.**  Whatever others do during the turns and
between them, a session of verbs, visits and cycles adds to the lines of
severity INFO those of the sets that the store accepted from the program, and to
the lines of severity WARNING those of the conflicts that it raised, each in
order and nothing else; and every one of these sets and conflicts makes a
line. -/
theorem log_is_audit_trail [Seconds τ]
    (hseconds : ∀ time : τ,
      ∀ fault, Seconds.micros time = .error fault → fault.isOwn = false)
    {first last : List Log.Record}
    {turns : List (Operation τ × World τ (StorageCall τ) Json Service)}
    (hsession : Session first turns last)
    (hworlds : ∀ t ∈ turns, t.2.KeepsTrail) :
    last.filter (Log.Record.isOf .info) =
      first.filter (Log.Record.isOf .info) ++
        turns.flatMap (fun t => t.1.updates t.2) ∧
    last.filter (Log.Record.isOf .warning) =
      first.filter (Log.Record.isOf .warning) ++
        turns.flatMap (fun t => t.1.conflicts t.2) ∧
    ∀ t ∈ turns, ∀ entry, t.2.lines entry ≠ [] := by
  obtain ⟨hinfo, hwarning⟩ := hsession.logged hseconds hworlds
  exact ⟨hinfo, hwarning, fun t ht => (hworlds t ht).lines_ne_nil⟩

/-- A binding that is made, and a removal that comes too late. -/
def contested {τ : Type} (now : τ) : World τ (StorageCall τ) Json Service :=
  { World.around now [("b", .obj [("etag", .str "1")])] with
    loggers := Log.Registry.initial.opened "policybind"
    logger := "policybind"
    requestId := "7"
    happenings := [.none, .none, .none,
      ⟨none, none, [("b", some (.obj [("etag", .str "2")]))], none⟩] }

theorem keepsTrail_contested {τ : Type} (now : τ) :
    (contested now).KeepsTrail := by
  have hcalm : ∀ h ∈ (contested now).happenings, h.reply? = none := by
    simp [contested, Happening.none]
  exact {
    faithful := by
      intro h hh reply hreply
      cases (hcalm h hh).symm.trans hreply
    foreign := {
      reply := by
        intro h hh reply hreply
        cases (hcalm h hh).symm.trans hreply
      refusal := by
        intro fault hfault
        cases hfault }
    informed := by
      show (Log.Registry.initial.opened "policybind").effectiveLevel
        "policybind" ≤ _
      decide
    handled := by
      show ((Log.Registry.initial.opened "policybind").get? "policybind").any
        Log.Logger.handled = _
      decide }

/-- The trail is the same in whole microseconds and in doubles. -/
theorem log_is_audit_trail_contested :
    let managed (removal : Bool) : Managed :=
      .member (.declaring "m" ⟨"b", "r", "u:a"⟩ removal)
    let ops (τ : Type) (time : τ) : List (Operation τ) :=
      [.verb ⟨time⟩ .create (managed false),
        .verb ⟨time⟩ .delete (managed true)]
    let tags (stage : String) : Log.Tags :=
      ⟨.str "7", .str "b", .str "r", .str "u:a", .str stage⟩
    let updated : List Log.Record :=
      [⟨.str "policybind", .str "INFO", "IAM policy updated",
        tags "create-write", none⟩]
    let conflicts : List Log.Record :=
      [⟨.str "policybind", .str "WARNING", "IAM policy changed concurrently",
        tags "delete-write", none⟩]
    (∃ last, Session [] (World.turns (ops Int 30) (contested 0)) last ∧
      last.filter (Log.Record.isOf .info) = updated ∧
      last.filter (Log.Record.isOf .warning) = conflicts) ∧
    ∃ last, Session [] (World.turns (ops Float 30.0) (contested 0.0)) last ∧
      last.filter (Log.Record.isOf .info) = updated ∧
      last.filter (Log.Record.isOf .warning) = conflicts := by
  intro managed ops tags updated conflicts
  have htrail {τ : Type} [Seconds τ]
      (hseconds : ∀ time : τ,
        ∀ fault, Seconds.micros time = .error fault → fault.isOwn = false)
      (now time : τ) :
      ∃ last, Session [] (World.turns (ops τ time) (contested now)) last ∧
        last.filter (Log.Record.isOf .info) = updated ∧
        last.filter (Log.Record.isOf .warning) = conflicts := by
    have hsession := session_turns (ops τ time) (contested now)
    obtain ⟨hinfo, hwarning, -⟩ :=
      log_is_audit_trail hseconds hsession ((keepsTrail_contested now).turns _)
    refine ⟨_, hsession, hinfo.trans ?_, hwarning.trans ?_⟩
    · cbv
    · cbv
  exact ⟨htrail (fun time fault h => by cases h) 0 30,
    htrail Seconds.isOwn_of_micros 0.0 30.0⟩

end GrantKeeper
