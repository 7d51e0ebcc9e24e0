import GrantKeeper.Proofs.Cycle.Transcript

/-!
# Worlds that look alike

A program sees the clock, its context, and what the remote party replies.  So
two worlds in which these are the same, and in which the same is going to
happen, look alike to it: it ends in both with the same outcome and after the
same calls.  They may differ in their logs, in the resource at hand, in other
contexts, and in the names of the contexts under which the program runs.

## Main results

* `World.running?_disturbed` — what a happening does to the context of a
  program.
* `World.Alike.served` — worlds that look alike answer alike, and still do
  afterwards.
* `World.Alike.run` — a program does the same in worlds that look alike.
-/

namespace GrantKeeper.World

variable {τ ρ ι κ α : Type}

/-- The context that programs run under, unless it is the background. -/
def running? (w : World τ ρ ι κ) : Option (Context τ) :=
  w.current?.bind fun name => w.contexts.lookup name

/-- A happening cancels the context that programs run under. -/
def hits (w : World τ ρ ι κ) (h : Happening τ ρ ι) : Bool :=
  h.cancel?.any fun name => w.current? == some name

/-- A program can see no difference between the two worlds, and the same is
going to happen in both. -/
structure Alike (u w : World τ ρ ι κ) : Prop where
  clock : u.clock = w.clock
  server : u.server = w.server
  running : u.running? = w.running?
  happenings : u.happenings = w.happenings
  hits : ∀ h ∈ w.happenings, u.hits h = w.hits h

theorem running?_cancelled (w : World τ ρ ι κ) (name : String) :
    (w.cancelled name).running? =
      if w.current? = some name then w.running?.map Context.cancel
        else w.running? := by
  unfold cancelled
  cases hcurrent : w.current? with
  | none =>
      rw [if_neg nofun]
      cases w.contexts.lookup name <;> simp [running?, putContext, hcurrent]
  | some current =>
      by_cases hname : current = name
      · subst hname
        rw [if_pos rfl]
        cases hlookup : w.contexts.lookup current <;>
          simp [running?, putContext, hcurrent, hlookup]
      · rw [if_neg fun h => hname (Option.some.inj h)]
        cases hlookup : w.contexts.lookup name with
        | none => rfl
        | some c =>
            have hother : (w.putContext name c.cancel).contexts.lookup current =
                w.contexts.lookup current := by
              rw [putContext, List.lookup_cons, beq_eq_false_iff_ne.mpr hname]
              exact Fields.lookup_filter_of_ne hname w.contexts
            simpa [running?, putContext, hcurrent] using hother

variable [Seconds τ] {u w : World τ ρ ι κ}

/-- **What a happening does to the context of a program.** -/
theorem running?_disturbed (remote : Remote ρ ι κ) (w : World τ ρ ι κ)
    (h : Happening τ ρ ι) : (w.disturbed remote h).running? =
      if w.hits h then w.running?.map Context.cancel else w.running? := by
  have hadvanced (time : τ) (name : String) :
      ((w.advanced time).cancelled name).running? =
        (w.cancelled name).running? := by
    rw [running?_cancelled, running?_cancelled]
    rfl
  unfold disturbed hits
  cases hname : h.cancel? with
  | none => cases h.advance? <;> rfl
  | some name =>
      have hcancelled : (w.cancelled name).running? =
          if (some name).any fun name => w.current? == some name then
            w.running?.map Context.cancel
          else w.running? := by
        rw [running?_cancelled]
        simp only [Option.any_some, beq_iff_eq]
      cases h.advance? with
      | none => exact hcancelled
      | some time => exact (hadvanced time name).trans hcancelled

namespace Alike

theorem moment (h : u.Alike w) : u.moment = w.moment := by
  have hcontext : u.context = w.context :=
    congrArg (·.getD Context.background) h.running
  rw [World.moment, World.moment, hcontext, h.clock]

omit [Seconds τ] in
theorem upcoming (h : u.Alike w) : u.upcoming = w.upcoming := by
  rw [World.upcoming, World.upcoming, h.happenings]

omit [Seconds τ] in
theorem hits_upcoming (h : u.Alike w) :
    u.hits w.upcoming = w.hits w.upcoming := by
  unfold World.upcoming
  cases hlist : w.happenings with
  | nil => rfl
  | cons first rest => exact h.hits first (hlist ▸ List.mem_cons_self)

theorem asked (h : u.Alike w) (remote : Remote ρ ι κ) (request : ρ) :
    (u.asked remote request).Alike (w.asked remote request) where
  clock := by rw [asked_clock, asked_clock, h.upcoming, h.clock]
  server := by rw [asked_server, asked_server, h.upcoming, h.server]
  running := by
    have hrunning (v : World τ ρ ι κ) : (v.asked remote request).running? =
        if v.hits v.upcoming then v.running?.map Context.cancel
          else v.running? :=
      running?_disturbed remote { v with calls := _, happenings := _ }
        v.upcoming
    rw [hrunning u, hrunning w, h.upcoming, h.hits_upcoming, h.running]
  happenings := by rw [asked_happenings, asked_happenings, h.happenings]
  hits := by
    intro happening hin
    rw [asked_happenings] at hin
    have hsame := h.hits happening (List.mem_of_mem_tail hin)
    rwa [World.hits, World.hits, asked_current?, asked_current?]

/-- **Worlds that look alike answer alike**, and look alike afterwards. -/
theorem served (h : u.Alike w) (remote : Remote ρ ι κ) (request : ρ) :
    (u.served remote request).1 = (w.served remote request).1 ∧
      (u.served remote request).2.Alike (w.served remote request).2 := by
  cases hr : remote.eventful request with
  | true =>
      have hasked := h.asked remote request
      rw [served_eventful hr, served_eventful hr, h.upcoming, hasked.server]
      cases w.upcoming.reply? with
      | some reply => exact ⟨rfl, hasked⟩
      | none =>
          exact ⟨rfl, hasked.clock, rfl, hasked.running, hasked.happenings,
            hasked.hits⟩
  | false =>
      rw [served_uneventful hr, served_uneventful hr, h.server]
      exact ⟨rfl, h.clock, rfl, h.running, h.happenings, h.hits⟩

/-- **A program does the same in worlds that look alike.** -/
theorem run (h : u.Alike w) (remote : Remote ρ ι κ) (p : Program τ ρ ι α) :
    (u.run remote p).1 = (w.run remote p).1 ∧
    u.transcript remote p = w.transcript remote p ∧
      (u.run remote p).2.Alike (w.run remote p).2 := by
  induction p generalizing u w with
  | done a => exact ⟨rfl, rfl, h⟩
  | fail fault => exact ⟨rfl, rfl, h⟩
  | look next ih =>
      have hnext := ih w.moment h
      rw [World.run, World.run, h.moment]
      refine ⟨hnext.1, ?_, hnext.2.2⟩
      show u.transcript remote (next u.moment) =
        w.transcript remote (next w.moment)
      rw [h.moment]
      exact hnext.2.1
  | log entry next ih =>
      exact ih (u := u.written entry) (w := w.written entry)
        ⟨h.clock, h.server, h.running, h.happenings, h.hits⟩
  | note condition next ih =>
      exact ih (u := u.noted condition) (w := w.noted condition)
        ⟨h.clock, h.server, h.running, h.happenings, h.hits⟩
  | call request next ih =>
      obtain ⟨hreply, hafter⟩ := h.served remote request
      obtain ⟨houtcome, hsaid, hend⟩ := ih (w.served remote request).1 hafter
      rw [World.run, World.run, transcript_call, transcript_call, hreply, hsaid]
      exact ⟨houtcome, rfl, hend⟩

end Alike

end GrantKeeper.World
