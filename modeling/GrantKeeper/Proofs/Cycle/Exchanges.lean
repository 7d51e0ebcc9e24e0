import GrantKeeper.Proofs.Cycle.Logic
import GrantKeeper.Proofs.Storage.World

/-!
# The exchanges of a run

A run is known by its calls: `World.exchanges` lists them in order, each with
the world in which it was made, the reply that came, and what was left to run in
which world after it.  Between two exchanges only the log and the resource at
hand change.

## Main results

* `World.calls_run` — a run records its exchanges and nothing else.
* `World.run_rest` — to run what is left after an exchange is to run the whole.
* `World.Persists.run`, `World.Persists.chain` — what every step keeps is kept
  by a run, and from call to call.
* `Program.meets_exchanges` — what a protocol allows is what is asked.
-/

namespace GrantKeeper

/-- One call of a run. -/
structure Exchange (τ ρ ι σ α : Type) where
  /-- The world in which the call is made. -/
  before : World τ ρ ι σ
  request : ρ
  reply : Outcome ι
  /-- The world in which the reply came. -/
  after : World τ ρ ι σ
  /-- What is left to run. -/
  rest : Program τ ρ ι α

namespace World

variable {τ ρ ι κ α : Type} [Seconds τ]

/-- The calls of a run, in order. -/
def exchanges (remote : Remote ρ ι κ) :
    Program τ ρ ι α → World τ ρ ι κ → List (Exchange τ ρ ι κ α)
  | .done _, _ => []
  | .fail _, _ => []
  | .look next, w => exchanges remote (next w.moment) w
  | .log entry next, w => exchanges remote next (w.written entry)
  | .note condition next, w => exchanges remote next (w.noted condition)
  | .call request next, w =>
      let (reply, after) := w.served remote request
      ⟨w, request, reply, after, next reply⟩ ::
        exchanges remote (next reply) after

/-- What is left to run, and in which world: at the start, and after every
exchange. -/
def points (remote : Remote ρ ι κ) (p : Program τ ρ ι α) (w : World τ ρ ι κ) :
    List (Program τ ρ ι α × World τ ρ ι κ) :=
  (p, w) :: (w.exchanges remote p).map fun x => (x.rest, x.after)

variable {remote : Remote ρ ι κ} {p : Program τ ρ ι α} {w : World τ ρ ι κ}

/-- A call is the first of the exchanges, and the others are those of what
follows it. -/
theorem exchanges_call (remote : Remote ρ ι κ) (request : ρ)
    (next : Outcome ι → Program τ ρ ι α)
    (w : World τ ρ ι κ) : w.exchanges remote (.call request next) =
      ⟨w, request, (w.served remote request).1, (w.served remote request).2,
        next (w.served remote request).1⟩ ::
      (w.served remote request).2.exchanges remote
        (next (w.served remote request).1) := rfl

theorem mem_exchanges_call {request : ρ} {next : Outcome ι → Program τ ρ ι α}
    {x : Exchange τ ρ ι κ α} : x ∈ w.exchanges remote (.call request next) ↔
      x = ⟨w, request, (w.served remote request).1, (w.served remote request).2,
        next (w.served remote request).1⟩ ∨
      x ∈ (w.served remote request).2.exchanges remote
        (next (w.served remote request).1) :=
  List.mem_cons

/-- **A run records its exchanges and nothing else.** -/
theorem calls_run (remote : Remote ρ ι κ) (p : Program τ ρ ι α)
    (w : World τ ρ ι κ) :
    (w.run remote p).2.calls = w.calls ++
    (w.exchanges remote p).map (·.request) := by
  induction p generalizing w with
  | done a => exact (List.append_nil _).symm
  | fail fault => exact (List.append_nil _).symm
  | look next ih => exact ih _ w
  | log entry next ih => exact ih (w.written entry)
  | note condition next ih => exact ih (w.noted condition)
  | call request next ih =>
      show (run remote (next _) _).2.calls = _
      rw [ih, calls_served, List.append_assoc]
      rfl

/-- **To run what is left after an exchange is to run the whole.** -/
theorem run_rest {x : Exchange τ ρ ι κ α} (hx : x ∈ w.exchanges remote p) :
    x.after.run remote x.rest = w.run remote p := by
  induction p generalizing w with
  | done a => exact absurd hx List.not_mem_nil
  | fail fault => exact absurd hx List.not_mem_nil
  | look next ih => exact ih _ hx
  | log entry next ih => exact ih hx
  | note condition next ih => exact ih hx
  | call request next ih =>
      rcases mem_exchanges_call.mp hx with rfl | hrest
      · rfl
      · exact ih _ hrest

/-- A program that goes on with its value is run on in the world that it
leaves. -/
theorem run_bind {β : Type} (remote : Remote ρ ι κ) (p : Program τ ρ ι α)
    (f : α → Program τ ρ ι β) (w : World τ ρ ι κ) :
    w.run remote (p.bind f) = match (w.run remote p).1 with
      | .ok a => (w.run remote p).2.run remote (f a)
      | .error fault => (.error fault, (w.run remote p).2) := by
  rw [Program.bind_eq_attempt, run_attempt]
  cases (w.run remote p).1 <;> rfl

/-- To make something of the value is to make it of the outcome. -/
theorem run_bind_done {β : Type} (remote : Remote ρ ι κ) (p : Program τ ρ ι α)
    (f : α → β) (w : World τ ρ ι κ) :
    w.run remote (p.bind fun a => .done (f a)) =
      ((w.run remote p).1.map f, (w.run remote p).2) := by
  rw [run_bind]
  cases h : (w.run remote p).1 <;> rfl

/-! ## What every step keeps -/

/-- What every step of a run keeps. -/
structure Persists (remote : Remote ρ ι κ)
    (R : World τ ρ ι κ → World τ ρ ι κ → Prop) : Prop where
  refl : ∀ w, R w w
  trans : ∀ {u v w}, R u v → R v w → R u w
  written : ∀ w entry, R w (w.written entry)
  noted : ∀ w condition, R w (w.noted condition)
  served : ∀ w request, R w (w.served remote request).2

variable {R : World τ ρ ι κ → World τ ρ ι κ → Prop}

theorem Persists.run (h : Persists remote R) (p : Program τ ρ ι α)
    (w : World τ ρ ι κ) : R w (w.run remote p).2 := by
  induction p generalizing w with
  | done a => exact h.refl w
  | fail fault => exact h.refl w
  | look next ih => exact ih _ w
  | log entry next ih => exact h.trans (h.written w entry) (ih _)
  | note condition next ih => exact h.trans (h.noted w condition) (ih _)
  | call request next ih => exact h.trans (h.served w request) (ih _ _)

/-- What every step keeps is kept up to every call, at it, and between any
two. -/
theorem Persists.chain (h : Persists remote R) (p : Program τ ρ ι α)
    (w : World τ ρ ι κ) :
    (∀ x ∈ w.exchanges remote p, R w x.before ∧ R x.before x.after) ∧
      (w.exchanges remote p).Pairwise fun x y => R x.after y.before := by
  induction p generalizing w with
  | done a => exact ⟨fun x hx => absurd hx List.not_mem_nil, .nil⟩
  | fail fault => exact ⟨fun x hx => absurd hx List.not_mem_nil, .nil⟩
  | look next ih => exact ih _ w
  | log entry next ih =>
      obtain ⟨hsteps, hpairs⟩ := ih (w.written entry)
      exact ⟨fun x hx => (hsteps x hx).imp_left (h.trans (h.written w entry)),
        hpairs⟩
  | note condition next ih =>
      obtain ⟨hsteps, hpairs⟩ := ih (w.noted condition)
      exact ⟨fun x hx => (hsteps x hx).imp_left (h.trans (h.noted w condition)),
        hpairs⟩
  | call request next ih =>
      obtain ⟨hsteps, hpairs⟩ :=
        ih (w.served remote request).1 (w.served remote request).2
      refine ⟨fun x hx => ?_, .cons (fun y hy => (hsteps y hy).1) hpairs⟩
      rcases mem_exchanges_call.mp hx with rfl | hrest
      · exact ⟨h.refl w, h.served w request⟩
      · exact (hsteps x hrest).imp_left (h.trans (h.served w request))

/-- What every step keeps is kept from the start, and from every call, until
after every later one. -/
theorem Persists.exchanges (h : Persists remote R) (p : Program τ ρ ι α)
    (w : World τ ρ ι κ) : (∀ x ∈ w.exchanges remote p, R w x.after) ∧
      (w.exchanges remote p).Pairwise fun x y => R x.after y.after := by
  obtain ⟨hsteps, hpairs⟩ := h.chain p w
  refine ⟨fun x hx => h.trans (hsteps x hx).1 (hsteps x hx).2, ?_⟩
  exact hpairs.imp_of_mem fun _ hy hlater => h.trans hlater (hsteps _ hy).2

/-- The same for the worlds in which the calls are made. -/
theorem Persists.before (h : Persists remote R) (p : Program τ ρ ι α)
    (w : World τ ρ ι κ) : (∀ x ∈ w.exchanges remote p, R w x.before) ∧
      (w.exchanges remote p).Pairwise fun x y => R x.before y.before := by
  obtain ⟨hsteps, hpairs⟩ := h.chain p w
  refine ⟨fun x hx => (hsteps x hx).1, ?_⟩
  exact hpairs.imp_of_mem fun hx _ hlater => h.trans (hsteps _ hx).2 hlater

end World

/-- **What a protocol allows is what is asked**: in a world that follows it,
every call of a program that meets it is one of those that it allows. -/
theorem Program.meets_exchanges {τ ρ ι σ κ α : Type} [Seconds τ]
    {remote : Remote ρ ι κ}
    {P : Protocol τ ρ ι σ} {R : World τ ρ ι κ → σ → Prop}
    (hfollows : World.Follows remote P R)
    {allowed : ρ → Prop}
    (hallowed : ∀ {s request post}, P.call s request post → allowed request)
    {p : Program τ ρ ι α} {w : World τ ρ ι κ} {s : σ}
    {post : Outcome α → σ → Prop}
    (hw : R w s) (hp : Meets P p s post) :
    ∀ x ∈ w.exchanges remote p, allowed x.request := by
  induction p generalizing w s with
  | done a => exact fun x hx => absurd hx List.not_mem_nil
  | fail fault => exact fun x hx => absurd hx List.not_mem_nil
  | look next ih => exact ih _ hw (hp _ (hfollows.sees hw))
  | log entry next ih => exact ih (hfollows.written entry hw) hp
  | note condition next ih => exact ih (hfollows.noted condition hw) hp
  | call request next ih =>
      obtain ⟨s', hnext, hw'⟩ := hfollows.served hw hp
      intro x hx
      rcases World.mem_exchanges_call.mp hx with rfl | hrest
      · exact hallowed hp
      · exact ih _ hw' hnext x hrest

end GrantKeeper
