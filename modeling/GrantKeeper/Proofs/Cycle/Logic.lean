import GrantKeeper.Storage.World

/-!
# Reasoning about programs

A `Protocol` says what the outside may do to a program: which moments it may
see, and for every call what has to hold so that all that may follow is as
wanted.  `Program.Meets` folds it over a program.  The rules for the parts of a
program do not depend on the protocol, so one proof about a verb serves every
setting in which its protocol can be met: alone, or next to other writers.

## Main results

* `Program.meets_attempt`, `Program.meets_bind` — programs put together.
* `Program.meets_run` — a world that follows a protocol brings about what a
  program meets.
-/

namespace GrantKeeper

/-- What the outside, in a state `σ`, may do to a program. -/
structure Protocol (τ ρ ι σ : Type) where
  /-- The moments that may be seen. -/
  sees : σ → Moment τ → Prop
  /-- The call is allowed, and every reply and state that may follow is as
  wanted. -/
  call : σ → ρ → (Outcome ι → σ → Prop) → Prop
  /-- Who wants less gets it. -/
  mono : ∀ {s r post post'},
    (∀ o s', post o s' → post' o s') → call s r post → call s r post'

namespace Program

variable {τ ρ ι ρ' ι' σ α β : Type}

/-- However the outside behaves within the protocol, all calls are allowed, and
outcome and state at the end are as wanted. -/
def Meets (P : Protocol τ ρ ι σ) :
    Program τ ρ ι α → σ → (Outcome α → σ → Prop) → Prop
  | .done a, s, post => post (.ok a) s
  | .fail fault, s, post => post (.error fault) s
  | .look next, s, post => ∀ m, P.sees s m → Meets P (next m) s post
  | .log _ next, s, post => Meets P next s post
  | .note _ next, s, post => Meets P next s post
  | .call request next, s, post =>
      P.call s request fun reply s' => Meets P (next reply) s' post

variable {P : Protocol τ ρ ι σ} {s : σ}

theorem meets_mono {p : Program τ ρ ι α} {post post' : Outcome α → σ → Prop}
    (h : ∀ o s', post o s' → post' o s') (hp : Meets P p s post) :
    Meets P p s post' := by
  induction p generalizing s with
  | done a => exact h _ _ hp
  | fail fault => exact h _ _ hp
  | look next ih => exact fun m hm => ih m (hp m hm)
  | log entry next ih => exact ih hp
  | note condition next ih => exact ih hp
  | call request next ih =>
      exact P.mono (fun reply s' hnext => ih reply hnext) hp

theorem meets_attempt {p : Program τ ρ ι α} {f : Outcome α → Program τ ρ ι β}
    {post : Outcome β → σ → Prop} :
    Meets P (p.attempt f) s post ↔
      Meets P p s fun o s' => Meets P (f o) s' post := by
  induction p generalizing s with
  | done a => exact Iff.rfl
  | fail fault => exact Iff.rfl
  | look next ih => exact forall_congr' fun m => imp_congr_right fun _ => ih m
  | log entry next ih => exact ih
  | note condition next ih => exact ih
  | call request next ih =>
      constructor
      · exact P.mono fun reply s' hnext => (ih reply).mp hnext
      · exact P.mono fun reply s' hnext => (ih reply).mpr hnext

/-- What is wanted of a program that goes on with its value: a fault ends the
whole. -/
def andThen (P : Protocol τ ρ ι σ) (f : α → Program τ ρ ι β)
    (post : Outcome β → σ → Prop) : Outcome α → σ → Prop
  | .ok a, s => Meets P (f a) s post
  | .error fault, s => post (.error fault) s

theorem meets_bind {p : Program τ ρ ι α} {f : α → Program τ ρ ι β}
    {post : Outcome β → σ → Prop} :
    Meets P (p.bind f) s post ↔ Meets P p s (andThen P f post) := by
  rw [bind_eq_attempt, meets_attempt]
  constructor
  · apply meets_mono
    intro o s' h
    cases o <;> exact h
  · apply meets_mono
    intro o s' h
    cases o <;> exact h

theorem meets_ofOutcome {o : Outcome α} {post : Outcome α → σ → Prop} :
    Meets P (ofOutcome o) s post ↔ post o s := by
  cases o <;> exact Iff.rfl

end Program

/-! ## Worlds -/

/-- Worlds that stand for states follow a protocol: a program sees in them what
it may see, and each call leads to a reply and a state that may follow. -/
structure World.Follows {τ ρ ι σ κ : Type} [Seconds τ] (remote : Remote ρ ι κ)
    (P : Protocol τ ρ ι σ) (R : World τ ρ ι κ → σ → Prop) : Prop where
  sees : ∀ {w s}, R w s → P.sees s w.moment
  written : ∀ {w s} (entry : Entry), R w s → R (w.written entry) s
  noted : ∀ {w s} (condition : Condition), R w s → R (w.noted condition) s
  served : ∀ {w s request post}, R w s → P.call s request post →
    ∃ s', post (w.served remote request).1 s' ∧ R (w.served remote request).2 s'

/-- **A world that follows a protocol brings about what a program meets.** -/
theorem Program.meets_run {τ ρ ι σ κ α : Type} [Seconds τ]
    {remote : Remote ρ ι κ}
    {P : Protocol τ ρ ι σ} {R : World τ ρ ι κ → σ → Prop}
    (hfollows : World.Follows remote P R)
    {p : Program τ ρ ι α} {w : World τ ρ ι κ} {s : σ}
    {post : Outcome α → σ → Prop} (hw : R w s) (hp : Meets P p s post) :
    ∃ s', post (w.run remote p).1 s' ∧ R (w.run remote p).2 s' := by
  induction p generalizing w s with
  | done a => exact ⟨s, hp, hw⟩
  | fail fault => exact ⟨s, hp, hw⟩
  | look next ih => exact ih _ hw (hp _ (hfollows.sees hw))
  | log entry next ih => exact ih (hfollows.written entry hw) hp
  | note condition next ih => exact ih (hfollows.noted condition hw) hp
  | call request next ih =>
      obtain ⟨s', hnext, hw'⟩ := hfollows.served hw hp
      exact ih _ hw' hnext

end GrantKeeper
