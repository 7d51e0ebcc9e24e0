import GrantKeeper.Proofs.Cycle.Exchanges

/-!
# Transcripts

The transcript of a run is the list of its calls, each with the reply that came.
It is all that a program learns from the remote party.  The protocol
`unrestricted` allows every call and lets every reply come, and keeps the
transcript as its state; so what the rules for the verbs say under it holds of
the outcome and the transcript of every run, in every world.  Only of the
moments that a program sees something may be known.

## Main results

* `Program.meets_transcript` — what is met without restrictions holds of outcome
  and transcript.
* `World.calls_transcript` — a run records the calls of its transcript.
* `World.forall_transcript` — what is so of every reply in such a world is so of
  the whole transcript.
-/

namespace GrantKeeper

/-- Calls with their replies, in order. -/
abbrev Transcript (ρ ι : Type) := List (ρ × Outcome ι)

/-- The calls of a run with their replies. -/
def World.transcript {τ ρ ι κ α : Type} [Seconds τ] (remote : Remote ρ ι κ)
    (p : Program τ ρ ι α) (w : World τ ρ ι κ) : Transcript ρ ι :=
  (w.exchanges remote p).map fun x => (x.request, x.reply)

/-- Every call is allowed, and every reply may come.  The state is the
transcript. -/
def unrestricted {τ ρ ι : Type} (seen : Moment τ → Prop) :
    Protocol τ ρ ι (Transcript ρ ι) where
  sees _ m := seen m
  call said request post := ∀ o, post o (said ++ [(request, o)])
  mono h hcall := fun o => h _ _ (hcall o)

variable {τ ρ ι κ α : Type} [Seconds τ] {remote : Remote ρ ι κ}

namespace World

/-- A call stands first in the transcript, with its reply. -/
theorem transcript_call (w : World τ ρ ι κ) (request : ρ)
    (next : Outcome ι → Program τ ρ ι α) :
    w.transcript remote (.call request next) =
      (request, (w.served remote request).1) ::
        (w.served remote request).2.transcript remote
          (next (w.served remote request).1) := rfl

/-- **A run records the calls of its transcript** and nothing else. -/
theorem calls_transcript (remote : Remote ρ ι κ) (p : Program τ ρ ι α)
    (w : World τ ρ ι κ) :
    (w.run remote p).2.calls = w.calls ++
    (w.transcript remote p).map Prod.fst := by
  rw [calls_run, transcript, List.map_map]
  rfl

/-- What is so of every call and reply in a world of some kind is so of the
whole transcript, if the world stays of that kind. -/
theorem forall_transcript {R : World τ ρ ι κ → Prop}
    {said : ρ × Outcome ι → Prop}
    (hwritten : ∀ {w} entry, R w → R (w.written entry))
    (hnoted : ∀ {w} condition, R w → R (w.noted condition))
    (hserved : ∀ {w} request, R w →
      said (request, (w.served remote request).1) ∧
      R (w.served remote request).2)
    {w : World τ ρ ι κ} (hw : R w) (p : Program τ ρ ι α) :
    ∀ e ∈ w.transcript remote p, said e := by
  induction p generalizing w with
  | done a => exact fun e he => absurd he List.not_mem_nil
  | fail fault => exact fun e he => absurd he List.not_mem_nil
  | look next ih => exact ih _ hw
  | log entry next ih => exact ih (hwritten entry hw)
  | note condition next ih => exact ih (hnoted condition hw)
  | call request next ih =>
      rw [transcript_call]
      exact List.forall_mem_cons.mpr ⟨(hserved request hw).1,
        ih _ (hserved request hw).2⟩

end World

namespace Program

variable {seen : Moment τ → Prop} {p : Program τ ρ ι α} {said : Transcript ρ ι}

omit [Seconds τ] in
/-- What is met without restrictions can be put together. -/
theorem meets_and {post post' : Outcome α → Transcript ρ ι → Prop}
    (h : Meets (unrestricted seen) p said post)
    (h' : Meets (unrestricted seen) p said post') :
    Meets (unrestricted seen) p said fun o t => post o t ∧ post' o t := by
  induction p generalizing said with
  | done a => exact ⟨h, h'⟩
  | fail fault => exact ⟨h, h'⟩
  | look next ih => exact fun m hm => ih m (h m hm) (h' m hm)
  | log entry next ih => exact ih h h'
  | note condition next ih => exact ih h h'
  | call request next ih => exact fun o => ih o (h o) (h' o)

/-- **What is met without restrictions holds of outcome and transcript** of
every run. -/
theorem meets_transcript (remote : Remote ρ ι κ) (seen : Moment τ → Prop)
    (hseen : ∀ w : World τ ρ ι κ, seen w.moment)
    {post : Outcome α → Transcript ρ ι → Prop}
    (h : Meets (unrestricted seen) p said post) (w : World τ ρ ι κ) :
    post (w.run remote p).1 (said ++ w.transcript remote p) := by
  induction p generalizing w said with
  | done a =>
      rw [show w.transcript remote (.done a : Program τ ρ ι α) = [] from rfl,
        List.append_nil]
      exact h
  | fail fault =>
      rw [show w.transcript remote (.fail fault : Program τ ρ ι α) =
        [] from rfl, List.append_nil]
      exact h
  | look next ih => exact ih _ (h _ (hseen w)) w
  | log entry next ih => exact ih h (w.written entry)
  | note condition next ih => exact ih h (w.noted condition)
  | call request next ih =>
      rw [World.transcript_call, List.append_cons]
      exact ih _ (h _) _

end Program

end GrantKeeper
