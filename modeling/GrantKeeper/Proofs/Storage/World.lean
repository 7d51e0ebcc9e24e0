import GrantKeeper.Proofs.Json.Fields
import GrantKeeper.Storage.World

/-!
# Calls in a world

At an eventful call the next happening comes first: time may pass, a context may
be cancelled, and policies may be edited.  Only then the call is answered, or
something else takes the place of the answer. `World.asked` is the world in
between.

## Main results

* `World.served_eventful`, `World.served_uneventful` — the two kinds of calls.
* `World.exists_served`, `World.context_served_cases` — what no call changes,
  and what it does to the context.
* `World.disturbed_eq`, `World.context_disturbed` — all that a happening does.
-/

namespace GrantKeeper

/-- A world in which nothing is going to happen, with these policies in the
store. -/
def World.around {τ : Type} (now : τ) (policies : Fields) :
    World τ (StorageCall τ) Json Service where
  clock := .starting now 0
  contexts := []
  current? := none
  resource? := none
  loggers := []
  logger := ""
  requestId := ""
  happenings := []
  server := ⟨.holding policies, none⟩
  calls := []
  records := []

/-- Whole microseconds, with which runs can be calculated. -/
instance : Seconds Int where
  add := (· + ·)
  sub := (· - ·)
  nothing := 0
  isNegative time := decide (time < 0)
  isNothing time := decide (time = 0)
  micros := .ok

/-- In whole microseconds, a context is over once it was cancelled or its
deadline has come. -/
theorem Context.isOver_iff_le {c : Context Int} {now : Int} :
    c.isOver now = true ↔
      c.cancelled = true ∨
        ∃ deadline, c.deadline? = some deadline ∧ deadline ≤ now := by
  have hnothing (deadline : Int) :
      Seconds.isNothing (timeUntil deadline now) = true ↔ deadline ≤ now := by
    show decide ((if decide (deadline - now < 0) then 0 else deadline - now) =
      0) = true ↔ _
    split <;> simp_all <;> omega
  simp only [isOver_iff, hnothing]

namespace World

variable {τ ρ ι κ : Type} {remote : Remote ρ ι κ} {w : World τ ρ ι κ}
  {request : ρ}

/-- The next happening. -/
def upcoming (w : World τ ρ ι κ) : Happening τ ρ ι := w.happenings.headD .none

/-- Either nothing happens next, or it is among what is going to happen. -/
theorem upcoming_cases (w : World τ ρ ι κ) :
    w.upcoming = .none ∨ w.upcoming ∈ w.happenings := by
  unfold upcoming
  cases w.happenings with
  | nil => exact Or.inl rfl
  | cons first rest => exact Or.inr List.mem_cons_self

/-- What replaces an answer is among what is going to happen. -/
theorem upcoming_mem {w : World τ ρ ι κ} {reply : ρ → Outcome ι}
    (h : w.upcoming.reply? = some reply) : w.upcoming ∈ w.happenings := by
  refine w.upcoming_cases.resolve_left fun hnone => ?_
  rw [hnone] at h
  cases h

/-- The world with its remote party in another state. -/
def withServer (w : World τ ρ ι κ) (server : κ) : World τ ρ ι κ :=
  { w with server }

@[simp] theorem server_withServer (w : World τ ρ ι κ) (server : κ) :
    (w.withServer server).server = server := rfl

theorem nextHappening_eq (w : World τ ρ ι κ) :
    w.nextHappening =
      (w.upcoming, { w with happenings := w.happenings.tail }) := by
  obtain ⟨clock, contexts, current?, resource?, loggers, logger, requestId,
      happenings, server,
    calls, records⟩ := w
  cases happenings <;> rfl

variable [Seconds τ]

/-- The world in which an eventful call is answered: it is recorded, and what
was to happen has happened. -/
def asked (remote : Remote ρ ι κ) (w : World τ ρ ι κ) (request : ρ) :
    World τ ρ ι κ :=
  disturbed remote { w with
    calls := w.calls ++ [request], happenings := w.happenings.tail } w.upcoming

/-- **All that a happening does**: time passes, contexts change, and the remote
party sees the edits. -/
theorem disturbed_eq (remote : Remote ρ ι κ) (w : World τ ρ ι κ)
    (h : Happening τ ρ ι) : w.disturbed remote h =
      { w with
        clock := h.advance?.elim w.clock w.clock.advance
        contexts := (w.disturbed remote h).contexts
        server := h.edits.foldl (fun s e => remote.edit e.1 e.2 s)
          w.server } := by
  unfold disturbed
  cases h.advance? <;> cases h.cancel? with
  | none => rfl
  | some name =>
      simp only [cancelled]
      split <;> rfl

omit [Seconds τ] in
theorem context_cancelled {name : String} (h : w.current? ≠ some name) :
    (w.cancelled name).context = w.context := by
  unfold cancelled
  split
  · rename_i c _
    cases hcurrent : w.current? with
    | none =>
        simp only [context, putContext, hcurrent]
        rfl
    | some current =>
        have hne : current ≠ name :=
          fun heq => h (hcurrent.trans (congrArg some heq))
        have hother : (w.putContext name c.cancel).contexts.lookup current =
            w.contexts.lookup current := by
          rw [putContext, List.lookup_cons, beq_eq_false_iff_ne.mpr hne]
          exact Fields.lookup_filter_of_ne hne w.contexts
        show ((w.putContext name c.cancel).current?.bind _).getD _ =
          (w.current?.bind _).getD _
        rw [show (w.putContext name c.cancel).current? =
          some current from hcurrent, hcurrent]
        exact congrArg (·.getD Context.background) hother
  · rfl

omit [Seconds τ] in
/-- To cancel a context leaves the current one as it is, or cancels that one. -/
theorem context_cancelled_cases (w : World τ ρ ι κ) (name : String) :
    (w.cancelled name).context = w.context ∨ (w.cancelled name).context =
      w.context.cancel := by
  by_cases hname : w.current? = some name
  · unfold cancelled
    split
    · rename_i c hlookup
      have hcontext : w.context = c := by
        rw [context, hname, Option.bind_some, hlookup, Option.getD_some]
      have hput : (w.putContext name c.cancel).contexts.lookup name =
          some c.cancel :=
        List.lookup_cons_self
      refine Or.inr ?_
      rw [hcontext, context, show (w.putContext name c.cancel).current? =
        some name from hname, Option.bind_some, hput, Option.getD_some]
    · exact Or.inl rfl
  · exact Or.inl (context_cancelled hname)

theorem context_disturbed_cases (remote : Remote ρ ι κ) (w : World τ ρ ι κ)
    (happening : Happening τ ρ ι) :
    (w.disturbed remote happening).context = w.context ∨
      (w.disturbed remote happening).context = w.context.cancel := by
  unfold disturbed
  cases happening.advance? <;> cases happening.cancel? with
  | none => exact Or.inl rfl
  | some name => exact context_cancelled_cases _ name

/-- A context stays as it is as long as only others are cancelled. -/
theorem context_disturbed (remote : Remote ρ ι κ) {h : Happening τ ρ ι}
    (hcancel : ∀ name, h.cancel? = some name → w.current? ≠ some name) :
    (w.disturbed remote h).context = w.context := by
  unfold disturbed
  cases hname : h.cancel? with
  | none => cases h.advance? <;> rfl
  | some name =>
      cases h.advance? <;> exact context_cancelled (hcancel name hname)

theorem asked_server (remote : Remote ρ ι κ) (w : World τ ρ ι κ) (request : ρ) :
    (w.asked remote request).server =
      w.upcoming.edits.foldl (fun s e => remote.edit e.1 e.2 s) w.server :=
  congrArg World.server (disturbed_eq _ _ _)

theorem asked_happenings (remote : Remote ρ ι κ) (w : World τ ρ ι κ)
    (request : ρ) : (w.asked remote request).happenings = w.happenings.tail :=
  congrArg World.happenings (disturbed_eq _ _ _)

theorem asked_calls (remote : Remote ρ ι κ) (w : World τ ρ ι κ) (request : ρ) :
    (w.asked remote request).calls = w.calls ++ [request] :=
  congrArg World.calls (disturbed_eq _ _ _)

theorem asked_clock (remote : Remote ρ ι κ) (w : World τ ρ ι κ) (request : ρ) :
    (w.asked remote request).clock =
      w.upcoming.advance?.elim w.clock w.clock.advance :=
  congrArg World.clock (disturbed_eq _ _ _)

theorem asked_current? (remote : Remote ρ ι κ) (w : World τ ρ ι κ)
    (request : ρ) : (w.asked remote request).current? = w.current? := by
  rw [asked, disturbed_eq]

theorem context_asked (remote : Remote ρ ι κ)
    (hcancel : ∀ name, w.upcoming.cancel? = some name → w.current? ≠ some name)
    (request : ρ) : (w.asked remote request).context = w.context := by
  let w' : World τ ρ ι κ :=
    { w with calls := w.calls ++ [request], happenings := w.happenings.tail }
  have hcancel' : ∀ name,
      w.upcoming.cancel? = some name → w'.current? ≠ some name := hcancel
  exact context_disturbed remote hcancel'

/-- An eventful call is answered after what was to happen has happened. -/
theorem served_eventful (h : remote.eventful request = true) :
    w.served remote request = match w.upcoming.reply? with
      | some reply => (reply request, w.asked remote request)
      | none =>
          ((remote.answer request (w.asked remote request).server).1,
            (w.asked remote request).withServer
              (remote.answer request (w.asked remote request).server).2) := by
  unfold served
  simp only [h, if_true, nextHappening_eq]
  rfl

/-- At any other call nothing happens. -/
theorem served_uneventful (h : remote.eventful request = false) :
    w.served remote request =
      ((remote.answer request w.server).1,
        World.withServer { w with calls := w.calls ++ [request] }
          (remote.answer request w.server).2) := by
  unfold served
  simp only [h, Bool.false_eq_true, if_false]
  rfl

/-- A call leaves the world in which it is answered, or, if nothing can happen
at it, the one in which it is only recorded; but for the server. -/
theorem world_served_cases (remote : Remote ρ ι κ) (w : World τ ρ ι κ)
    (request : ρ) :
    ∃ server,
      (w.served remote request).2 =
          (w.asked remote request).withServer server ∨
        (w.served remote request).2 =
          World.withServer { w with calls := w.calls ++ [request] } server := by
  cases hr : remote.eventful request with
  | true =>
      rw [served_eventful hr]
      cases w.upcoming.reply? with
      | some reply => exact ⟨(w.asked remote request).server, Or.inl rfl⟩
      | none => exact ⟨_, Or.inl rfl⟩
  | false =>
      rw [served_uneventful hr]
      exact ⟨_, Or.inr rfl⟩

/-- A call leaves a world as it is, but for the clock, the contexts, what is
going to happen, the server and the calls. -/
theorem exists_served (remote : Remote ρ ι κ) (w : World τ ρ ι κ)
    (request : ρ) :
    ∃ clock contexts happenings server calls, (w.served remote request).2 =
      { w with clock, contexts, happenings, server, calls } := by
  obtain ⟨server, h | h⟩ := world_served_cases remote w request
  · rw [h, asked, disturbed_eq]
    exact ⟨_, _, _, _, _, rfl⟩
  · rw [h]
    exact ⟨_, _, _, _, _, rfl⟩

theorem calls_served (remote : Remote ρ ι κ) (w : World τ ρ ι κ) (request : ρ) :
    (w.served remote request).2.calls = w.calls ++ [request] := by
  obtain ⟨server, h | h⟩ := world_served_cases remote w request
  · rw [h]
    exact asked_calls remote w request
  · rw [h]
    rfl

/-- Nothing new is going to happen after a call. -/
theorem happenings_served_subset (remote : Remote ρ ι κ) (w : World τ ρ ι κ)
    (request : ρ) : (w.served remote request).2.happenings ⊆ w.happenings := by
  obtain ⟨server, h | h⟩ := world_served_cases remote w request
  · rw [h]
    show (w.asked remote request).happenings ⊆ w.happenings
    rw [asked_happenings]
    exact fun _ => List.mem_of_mem_tail
  · rw [h]
    exact fun _ hmem => hmem

/-- **All that a call does to the context**: it leaves it as it is, or cancels
it. -/
theorem context_served_cases (remote : Remote ρ ι κ) (w : World τ ρ ι κ)
    (request : ρ) : (w.served remote request).2.context = w.context ∨
      (w.served remote request).2.context = w.context.cancel := by
  obtain ⟨server, h | h⟩ := world_served_cases remote w request
  · rw [h]
    exact context_disturbed_cases remote _ w.upcoming
  · rw [h]
    exact Or.inl rfl

theorem cancelled_served (remote : Remote ρ ι κ) (request : ρ)
    (h : w.context.cancelled = true) :
    (w.served remote request).2.context.cancelled = true := by
  obtain hcontext | hcontext := context_served_cases remote w request
  · rw [hcontext, h]
  · rw [hcontext]
    rfl

theorem deadline?_served (remote : Remote ρ ι κ) (w : World τ ρ ι κ)
    (request : ρ) :
    (w.served remote request).2.context.deadline? = w.context.deadline? := by
  obtain hcontext | hcontext :=
    context_served_cases remote w request <;> rw [hcontext]
  rfl

end World

/-! ## The storage service -/

namespace Service

variable {τ : Type}

theorem answer_get (service : Service) (bucket : String) (version : Nat)
    (options : CallOptions τ) :
    (Service.remote τ).answer (.get bucket version options) service =
      (service.store.get bucket, service) := rfl

theorem answer_set (service : Service) (bucket : String) (payload : Json)
    (options : CallOptions τ) :
    (Service.remote τ).answer (.set bucket payload options) service =
      ((service.store.set bucket payload).1,
        { service with store := (service.store.set bucket payload).2 }) := rfl

theorem answer_connect {service : Service} (h : service.refusal? = none)
    (account : Account) :
    (Service.remote τ).answer (.connect account) service =
      (.ok .null, service) := by
  obtain ⟨store, refusal?⟩ := service
  cases h
  rfl

/-- Who can sign in does not depend on what is stored. -/
theorem refusal?_edited (edits : List (String × Option Json))
    (service : Service) :
    (edits.foldl (fun s e => (Service.remote τ).edit e.1 e.2 s)
      service).refusal? = service.refusal? := by
  induction edits generalizing service with
  | nil => rfl
  | cons e edits ih => exact ih _

/-- To sign in asks nothing of the store. -/
theorem store_answer_connect (service : Service) (account : Account) :
    ((Service.remote τ).answer (.connect account) service).2.store =
      service.store := by
  cases hrefusal : service.refusal? <;> simp [Service.remote, hrefusal,
    Store.answer]

end Service

/-! ## Counting calls -/

section

variable {τ : Type}

/-- The call is a get. -/
def StorageCall.isGet : StorageCall τ → Bool
  | .get .. => true
  | _ => false

/-- The call is a set. -/
def StorageCall.isSet : StorageCall τ → Bool
  | .set .. => true
  | _ => false

namespace World

/-- How many policies were asked for. -/
def gets (w : World τ (StorageCall τ) Json Service) : Nat :=
  w.calls.countP StorageCall.isGet

/-- How many policies were sent. -/
def sets (w : World τ (StorageCall τ) Json Service) : Nat :=
  w.calls.countP StorageCall.isSet

/-- How many gets and sets were made. -/
def made (w : World τ (StorageCall τ) Json Service) : Nat :=
  w.calls.countP (Service.remote τ).eventful

variable [Seconds τ]

theorem gets_asked (w : World τ (StorageCall τ) Json Service)
    (request : StorageCall τ) :
    (w.asked (Service.remote τ) request).gets =
      w.gets + if request.isGet then 1 else 0 := by
  rw [gets, asked_calls, List.countP_append, List.countP_singleton]
  rfl

theorem sets_asked (w : World τ (StorageCall τ) Json Service)
    (request : StorageCall τ) :
    (w.asked (Service.remote τ) request).sets =
      w.sets + if request.isSet then 1 else 0 := by
  rw [sets, asked_calls, List.countP_append, List.countP_singleton]
  rfl

theorem made_asked (w : World τ (StorageCall τ) Json Service)
    (request : StorageCall τ) : (w.asked (Service.remote τ) request).made =
      w.made + if (Service.remote τ).eventful request then 1 else 0 := by
  rw [made, asked_calls, List.countP_append, List.countP_singleton]
  rfl

theorem made_served (w : World τ (StorageCall τ) Json Service)
    (request : StorageCall τ) : (w.served (Service.remote τ) request).2.made =
      w.made + if (Service.remote τ).eventful request then 1 else 0 := by
  rw [made, calls_served, List.countP_append, List.countP_singleton]
  rfl

end World

end

end GrantKeeper
