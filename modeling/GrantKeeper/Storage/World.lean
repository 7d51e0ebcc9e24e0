import GrantKeeper.Log.Registry
import GrantKeeper.Storage.Store

/-!
# Worlds that programs run in

A world has a clock, contexts, loggers and a remote party, and keeps a record of
calls and log lines.  While a program runs, things can happen at each of its
calls: time passes, a context is cancelled, another writer edits a policy, the
call fails, or a reply is put in place of the true one.

Main definitions:

* `Happening`: what happens at one call;
* `Remote`: how a remote party answers;
* `World`, `World.run`: the world, and the run of a program in it.
-/

namespace GrantKeeper

/-- What happens at one call, in this order. -/
structure Happening (τ ρ ι : Type) where
  advance? : Option τ
  cancel? : Option String
  edits : List (String × Option Json)
  /-- What is put in place of the reply to a call. -/
  reply? : Option (ρ → Outcome ι)

/-- Nothing happens. -/
def Happening.none {τ ρ ι : Type} : Happening τ ρ ι := ⟨.none, .none, [], .none⟩

/-- A remote party with a state `σ`. -/
structure Remote (ρ ι σ : Type) where
  /-- The calls at which something can happen. -/
  eventful : ρ → Bool
  /-- Answers a call. -/
  answer : ρ → σ → Outcome ι × σ
  /-- Another writer edits a policy. -/
  edit : String → Option Json → σ → σ

/-- The state of a world. -/
structure World (τ ρ ι σ : Type) where
  clock : Clock τ
  contexts : List (String × Context τ)
  /-- The context that programs run under, if it is not the background. -/
  current? : Option String
  /-- The resource at hand. -/
  resource? : Option Resource
  loggers : Log.Registry
  logger : String
  /-- The identifier that log records get. -/
  requestId : String
  happenings : List (Happening τ ρ ι)
  server : σ
  calls : List ρ
  records : List Log.Record

namespace World

variable {τ ρ ι σ α : Type} [Seconds τ]

/-- A context by its name; without one it is the background. -/
def context (w : World τ ρ ι σ) : Context τ :=
  (w.current?.bind fun name => w.contexts.lookup name).getD .background

/-- Gives a name to a context, instead of the one that had the name. -/
def putContext (w : World τ ρ ι σ) (name : String) (c : Context τ) :
    World τ ρ ι σ :=
  { w with contexts := (name, c) :: w.contexts.filter fun (n, _) => n != name }

/-- What a program sees when it looks up. -/
def moment (w : World τ ρ ι σ) : Moment τ :=
  ⟨w.context.isOver w.clock.now, w.context.remaining? w.clock.now, w.clock.wall⟩

/-- Writes a log entry. -/
def written (w : World τ ρ ι σ) (entry : Entry) : World τ ρ ι σ :=
  let records := Log.onBinding w.loggers w.logger w.requestId
    entry.event.severity entry.event.message
    entry.binding entry.stage
  { w with records := w.records ++ records }

/-- Notes a condition on the resource at hand. -/
def noted (w : World τ ρ ι σ) (condition : Condition) : World τ ρ ι σ :=
  { w with resource? := w.resource?.map (·.setConditions [condition]) }

/-- Time passes. -/
def advanced (w : World τ ρ ι σ) (time : τ) : World τ ρ ι σ :=
  { w with clock := w.clock.advance time }

/-- A context is cancelled. -/
def cancelled (w : World τ ρ ι σ) (name : String) : World τ ρ ι σ :=
  match w.contexts.lookup name with
  | some c => w.putContext name c.cancel
  | none => w

/-- Everything in a happening but the reply. -/
def disturbed (remote : Remote ρ ι σ) (w : World τ ρ ι σ)
    (h : Happening τ ρ ι) : World τ ρ ι σ :=
  let w := match h.advance? with
    | some time => w.advanced time
    | none => w
  let w := match h.cancel? with
    | some name => w.cancelled name
    | none => w
  let edit (server : σ) (e : String × Option Json) := remote.edit e.1 e.2 server
  { w with server := h.edits.foldl edit w.server }

/-- The next happening, and the world that still expects the others. -/
def nextHappening (w : World τ ρ ι σ) : Happening τ ρ ι × World τ ρ ι σ :=
  match w.happenings with
  | [] => (.none, w)
  | h :: rest => (h, { w with happenings := rest })

/-- Answers a call: it is recorded, what happens happens, and then the call
fails, gets the reply put in place, or reaches the remote party. -/
def served (remote : Remote ρ ι σ) (w : World τ ρ ι σ) (request : ρ) :
    Outcome ι × World τ ρ ι σ :=
  let w := { w with calls := w.calls ++ [request] }
  let (h, w) := if remote.eventful request then w.nextHappening else (.none, w)
  let w := w.disturbed remote h
  match h.reply? with
  | some reply => (reply request, w)
  | none =>
      let (reply, server) := remote.answer request w.server
      (reply, { w with server })

/-- Runs a program to its end. -/
def run (remote : Remote ρ ι σ) :
    Program τ ρ ι α → World τ ρ ι σ → Outcome α × World τ ρ ι σ
  | .done a, w => (.ok a, w)
  | .fail fault, w => (.error fault, w)
  | .look next, w => run remote (next w.moment) w
  | .log entry next, w => run remote next (w.written entry)
  | .note condition next, w => run remote next (w.noted condition)
  | .call request next, w =>
      run remote (next (w.served remote request).1) (w.served remote request).2

theorem run_attempt {β : Type} (remote : Remote ρ ι σ) (p : Program τ ρ ι α)
    (f : Outcome α → Program τ ρ ι β) (w : World τ ρ ι σ) :
    run remote (p.attempt f) w =
      run remote (f (run remote p w).1) (run remote p w).2 := by
  induction p generalizing w with
  | done a => rfl
  | fail fault => rfl
  | look next ih => exact ih _ w
  | log entry next ih => exact ih (w.written entry)
  | note condition next ih => exact ih (w.noted condition)
  | call request next ih => exact ih _ _

end World

/-- The storage service: a store, and a fault if nobody can sign in. -/
structure Service where
  store : Store
  refusal? : Option Fault

namespace Service

/-- The storage service as a remote party.  Making a client is not eventful. -/
def remote (τ : Type) : Remote (StorageCall τ) Json Service where
  eventful
    | .connect _ => false
    | _ => true
  answer request s :=
    match request, s.refusal? with
    | .connect _, some fault => (.error fault, s)
    | request, _ =>
        let (reply, store) := s.store.answer request
        (reply, { s with store })
  edit bucket policy? s := { s with store := s.store.edited bucket policy? }

end Service

/-- A party that has no policies: it accepts what is written, but keeps none of
it and can reply to no fetch. -/
def Remote.forgetful (τ : Type) : Remote (PolicyCall τ) Policy Unit where
  eventful _ := true
  answer request s :=
    match request with
    | .fetch .. => (.error (.malformed (.missingField "doc")), s)
    | .replace _ policy _ => (.ok policy, s)
  edit _ _ s := s

end GrantKeeper
