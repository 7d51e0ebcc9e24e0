import GrantKeeper.Cycle.Clock
import GrantKeeper.Log.Record
import GrantKeeper.Resource.Basic

/-!
# Programs that talk to the outside

A `Program` is a tree of actions: it looks at the clock and the context it runs
under, writes log entries, notes conditions on the resource at hand, and calls a
remote party, whose reply may be a fault.  It ends with a value or with a fault.
What the actions do is up to whoever runs the program.

Main definitions:

* `Moment`: what a program sees when it looks up;
* `Event`, `Entry`: what it writes to the log;
* `Program`, a monad with faults;
* `Program.lower`: serves the calls of a program by programs over other calls.
-/

namespace GrantKeeper

/-- What a program sees of its context and of the clocks. -/
structure Moment (τ : Type) where
  isOver : Bool
  remaining? : Option τ
  wall : Outcome Time.Timestamp

/-- What a log entry reports. -/
inductive Event where
  | fetching
  | notFound
  | alreadyBound
  | alreadyUnbound
  | updated
  | changedConcurrently
deriving DecidableEq, Repr

namespace Event

/-- How severe an event is. -/
def severity : Event → Severity
  | .fetching => .debug
  | .notFound => .debug
  | .alreadyBound => .debug
  | .alreadyUnbound => .debug
  | .updated => .info
  | .changedConcurrently => .warning

/-- The wording of an event. -/
def message : Event → String
  | .fetching => "Fetching IAM policy"
  | .notFound => "IAM policy not found"
  | .alreadyBound => "Member already bound"
  | .alreadyUnbound => "Member already unbound"
  | .updated => "IAM policy updated"
  | .changedConcurrently => "IAM policy changed concurrently"

end Event

/-- A log entry on a binding at a stage. -/
structure Entry where
  event : Event
  binding : Binding
  stage : Stage
deriving DecidableEq, Repr

/-- A program over calls `ρ` with replies `ι`. -/
inductive Program (τ ρ ι : Type) (α : Type) where
  /-- Ends with a value. -/
  | done (a : α)
  /-- Ends with a fault. -/
  | fail (fault : Fault)
  /-- Looks at the clock and the context. -/
  | look (next : Moment τ → Program τ ρ ι α)
  /-- Writes a log entry. -/
  | log (entry : Entry) (next : Program τ ρ ι α)
  /-- Notes a condition on the resource at hand. -/
  | note (condition : Condition) (next : Program τ ρ ι α)
  /-- Calls the remote party. -/
  | call (request : ρ) (next : Outcome ι → Program τ ρ ι α)

namespace Program

variable {τ ρ ι ρ' ι' α β γ : Type}

/-- Goes on with the value that a program ends with. -/
def bind (p : Program τ ρ ι α) (f : α → Program τ ρ ι β) : Program τ ρ ι β :=
  match p with
  | .done a => f a
  | .fail fault => .fail fault
  | .look next => .look fun m => (next m).bind f
  | .log entry next => .log entry (next.bind f)
  | .note condition next => .note condition (next.bind f)
  | .call request next => .call request fun reply => (next reply).bind f

/-- Goes on with the outcome of a program, be it a value or a fault. -/
def attempt (p : Program τ ρ ι α) (f : Outcome α → Program τ ρ ι β) :
    Program τ ρ ι β :=
  match p with
  | .done a => f (.ok a)
  | .fail fault => f (.error fault)
  | .look next => .look fun m => (next m).attempt f
  | .log entry next => .log entry (next.attempt f)
  | .note condition next => .note condition (next.attempt f)
  | .call request next => .call request fun reply => (next reply).attempt f

instance : Monad (Program τ ρ ι) where
  pure := .done
  bind := bind

instance : MonadExceptOf Fault (Program τ ρ ι) where
  throw := .fail
  tryCatch p handle := p.attempt fun
    | .ok a => .done a
    | .error fault => handle fault

/-- Ends with the outcome of a step that needs nothing from outside. -/
def ofOutcome : Outcome α → Program τ ρ ι α
  | .ok a => .done a
  | .error fault => .fail fault

/-- What the clock and the context show. -/
def moment : Program τ ρ ι (Moment τ) := .look .done

/-- Writes a log entry. -/
def write (entry : Entry) : Program τ ρ ι Unit := .log entry (.done ())

/-- Notes a condition. -/
def noting (condition : Condition) : Program τ ρ ι Unit :=
  .note condition (.done ())

/-- Calls the remote party and takes its reply as it is. -/
def ask (request : ρ) : Program τ ρ ι (Outcome ι) := .call request .done

/-- Serves every call of a program by a program over other calls. -/
def lower (serve : ρ → Program τ ρ' ι' ι) : Program τ ρ ι α → Program τ ρ' ι' α
  | .done a => .done a
  | .fail fault => .fail fault
  | .look next => .look fun m => (next m).lower serve
  | .log entry next => .log entry (next.lower serve)
  | .note condition next => .note condition (next.lower serve)
  | .call request next =>
      (serve request).attempt fun reply => (next reply).lower serve

@[simp] theorem pure_eq (a : α) : (pure a : Program τ ρ ι α) = .done a := rfl

@[simp] theorem bind_eq (p : Program τ ρ ι α) (f : α → Program τ ρ ι β) :
    (p >>= f) = p.bind f := rfl

@[simp] theorem throw_eq (fault : Fault) :
    (throw fault : Program τ ρ ι α) = .fail fault := rfl

@[simp] theorem bind_done (p : Program τ ρ ι α) : p.bind .done = p := by
  induction p with
  | done a => rfl
  | fail fault => rfl
  | look next ih => exact congrArg look (funext ih)
  | log entry next ih => exact congrArg (log entry) ih
  | note condition next ih => exact congrArg (note condition) ih
  | call request next ih => exact congrArg (call request) (funext ih)

theorem bind_bind (p : Program τ ρ ι α) (f : α → Program τ ρ ι β)
    (g : β → Program τ ρ ι γ) :
    (p.bind f).bind g = p.bind fun a => (f a).bind g := by
  induction p with
  | done a => rfl
  | fail fault => rfl
  | look next ih => exact congrArg look (funext ih)
  | log entry next ih => exact congrArg (log entry) ih
  | note condition next ih => exact congrArg (note condition) ih
  | call request next ih => exact congrArg (call request) (funext ih)

theorem bind_eq_attempt (p : Program τ ρ ι α) (f : α → Program τ ρ ι β) :
    p.bind f = p.attempt fun
      | .ok a => f a
      | .error fault => .fail fault := by
  induction p with
  | done a => rfl
  | fail fault => rfl
  | look next ih => exact congrArg look (funext ih)
  | log entry next ih => exact congrArg (log entry) ih
  | note condition next ih => exact congrArg (note condition) ih
  | call request next ih => exact congrArg (call request) (funext ih)

instance : LawfulMonad (Program τ ρ ι) :=
  LawfulMonad.mk' (Program τ ρ ι) bind_done (fun _ _ => rfl) bind_bind

theorem attempt_bind (p : Program τ ρ ι α) (f : Outcome α → Program τ ρ ι β)
    (g : β → Program τ ρ ι γ) :
    (p.attempt f).bind g = p.attempt fun r => (f r).bind g := by
  induction p with
  | done a => rfl
  | fail fault => rfl
  | look next ih => exact congrArg look (funext ih)
  | log entry next ih => exact congrArg (log entry) ih
  | note condition next ih => exact congrArg (note condition) ih
  | call request next ih => exact congrArg (call request) (funext ih)

end Program

end GrantKeeper
