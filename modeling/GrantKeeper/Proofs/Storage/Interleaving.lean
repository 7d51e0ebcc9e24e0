import Mathlib
import GrantKeeper.Proofs.Storage.Contended

/-!
# No update is lost

Any number of executions share buckets with each other and with other writers,
and take their steps in any order.  All that is known of the store is that it
keeps well-formed policies, that it never uses an etag twice for a bucket, and
that it accepts a policy only under the etag of the stored one.

What ties an execution to the store is the etag of the policy that it read last:
as long as the stored policy has that etag, it is that policy.  Every step of
everybody keeps this, and so what a write changes is changed in the policy that
it replaces.

## Main results

* `Job.meets_program` — every execution follows the protocol `contended`.
* `Scene.Consistent.step` — one step keeps the invariant, and loses nothing.
* `no_update_lost` — a run loses nothing.
-/

namespace GrantKeeper

open Program GrantKeeper.Membership

/-! ## Executions -/

/-- What is to be done for a resource. -/
inductive Task where
  | create
  | update
  | delete
  | reconcile

/-- An execution on behalf of a resource, with a client of its own. -/
structure Job (τ : Type) where
  connector : Connector τ
  task : Task
  resource : Declared

namespace Job

variable {τ : Type}

/-- The pair is to be taken out. -/
def removal (j : Job τ) : Bool :=
  match j.task with
  | .create => false
  | .update => false
  | .delete => true
  | .reconcile => j.resource.removal

/-- What is executed. -/
def program (j : Job τ) : StorageProgram τ Unit :=
  let managed := Managed.member j.resource.resource
  match j.task with
  | .create =>
      (j.connector.connect managed).bind fun c =>
        (Connector.external c managed).create
  | .update =>
      (j.connector.connect managed).bind fun c =>
        (Connector.external c managed).update
  | .delete =>
      (j.connector.connect managed).bind fun c =>
        (Connector.external c managed).delete
  | .reconcile => (j.connector.reconcile managed).bind fun _ => .done ()

theorem meets_connected {j : Job τ} {removal : Bool} {s : Option Json}
    {verb : Client τ → StorageProgram τ Unit}
    (h : ∀ client,
      Meets (contended j.resource.binding removal)
      (verb client) s fun _ _ => True) :
    Meets (contended j.resource.binding removal)
      ((j.connector.connect (.member j.resource.resource)).bind verb) s
        fun _ _ => True := by
  refine meets_bind.mpr
    (Connector.meets_connect j.resource.declares.binding fun o => ?_)
  cases o with
  | error fault => trivial
  | ok reply => exact h _

/-- **Every execution follows the protocol.** -/
theorem meets_program (j : Job τ) (s : Option Json) :
    Meets (contended j.resource.binding j.removal) j.program s fun _ _ =>
      True := by
  have hdeclares := j.resource.declares
  unfold program removal
  cases j.task with
  | create =>
      exact meets_connected fun client =>
        meets_mono (fun _ _ _ => trivial) (meets_create_contended hdeclares)
  | update =>
      exact meets_connected fun client =>
        meets_mono (fun _ _ _ => trivial) (meets_create_contended hdeclares)
  | delete =>
      exact meets_connected fun client =>
        meets_mono (fun _ _ _ => trivial) (meets_delete_contended hdeclares)
  | reconcile =>
      refine meets_bind.mpr
        (meets_mono ?_ (meets_reconcile_contended hdeclares j.connector))
      intro o s' _
      cases o <;> trivial

end Job

/-! ## Buckets -/

/-- What the buckets hold, and which etags their policies ever had. -/
structure Buckets where
  stored : String → Option Json
  used : String → List Json

namespace Buckets

variable {s : Buckets} {bucket other : String} {policy new old : Json}

/-- A bucket gets a policy. -/
def puts (s : Buckets) (bucket : String) (policy : Json) : Buckets where
  stored := Function.update s.stored bucket (some policy)
  used := Function.update s.used bucket (policy.get "etag" :: s.used bucket)

/-- A bucket is removed. -/
def removes (s : Buckets) (bucket : String) : Buckets :=
  { s with stored := Function.update s.stored bucket none }

/-- No policy of the bucket ever had the etag. -/
def Fresh (s : Buckets) (bucket : String) (etag : Json) : Prop :=
  ∀ old ∈ s.used bucket, etag.equals old = false

/-- All stored policies are well formed, and their etags are known. -/
structure Orderly (s : Buckets) : Prop where
  sound : ∀ bucket, Sound (s.stored bucket)
  used : ∀ bucket policy,
    s.stored bucket = some policy → policy.get "etag" ∈ s.used bucket

/-- As long as the stored policy has the etag of this one, it is this one. -/
structure Recalls (s : Buckets) (bucket : String) (policy : Json) : Prop where
  used : policy.get "etag" ∈ s.used bucket
  same : ∀ now, s.stored bucket = some now →
    (now.get "etag").equals (policy.get "etag") = true → now = policy

theorem stored_puts (s : Buckets) (bucket other : String) (policy : Json) :
    (s.puts bucket policy).stored other =
      if other = bucket then some policy else s.stored other :=
  Function.update_apply _ _ _ _

theorem stored_removes (s : Buckets) (bucket other : String) :
    (s.removes bucket).stored other =
      if other = bucket then none else s.stored other :=
  Function.update_apply _ _ _ _

theorem used_puts (h : old ∈ s.used other) :
    old ∈ (s.puts bucket policy).used other := by
  show old ∈ Function.update s.used bucket _ other
  rw [Function.update_apply]
  split
  · rename_i hbucket
    exact List.mem_cons_of_mem _ (hbucket ▸ h)
  · exact h

theorem used_puts_self :
    policy.get "etag" ∈ (s.puts bucket policy).used bucket := by
  show _ ∈ Function.update s.used bucket _ bucket
  rw [Function.update_self]
  exact List.mem_cons_self

theorem Orderly.recalls (h : s.Orderly)
    (hstored : s.stored bucket = some policy) : s.Recalls bucket policy := by
  refine ⟨h.used bucket policy hstored, ?_⟩
  intro now hnow _
  exact Option.some.inj (hnow.symm.trans hstored)

theorem Orderly.puts (h : s.Orderly) (hwell : policy.isWellFormed = true) :
    (s.puts bucket policy).Orderly := by
  constructor
  · intro other now hnow
    rw [stored_puts] at hnow
    split at hnow
    · rw [← Option.some.inj hnow]
      exact hwell
    · exact h.sound other now hnow
  · intro other now hnow
    rw [stored_puts] at hnow
    split at hnow
    · rename_i hbucket
      rw [← Option.some.inj hnow, hbucket]
      exact used_puts_self
    · exact used_puts (h.used other now hnow)

theorem Orderly.removes (h : s.Orderly) (bucket : String) :
    (s.removes bucket).Orderly := by
  constructor
  · intro other now hnow
    rw [stored_removes] at hnow
    split at hnow
    · cases hnow
    · exact h.sound other now hnow
  · intro other now hnow
    rw [stored_removes] at hnow
    split at hnow
    · cases hnow
    · exact h.used other now hnow

/-- A policy under a fresh etag is taken for no other. -/
theorem Recalls.puts (h : s.Recalls other policy)
    (hfresh : s.Fresh bucket (new.get "etag")) :
    (s.puts bucket new).Recalls other policy := by
  refine ⟨used_puts h.used, ?_⟩
  intro now hnow hetag
  rw [stored_puts] at hnow
  split at hnow
  · rename_i hbucket
    have hdiffers := hfresh _ (hbucket ▸ h.used)
    rw [Option.some.inj hnow, hetag] at hdiffers
    cases hdiffers
  · exact h.same now hnow hetag

theorem Recalls.removes (h : s.Recalls other policy) (bucket : String) :
    (s.removes bucket).Recalls other policy := by
  refine ⟨h.used, ?_⟩
  intro now hnow hetag
  rw [stored_removes] at hnow
  split at hnow
  · cases hnow
  · exact h.same now hnow hetag

end Buckets

/-! ## Scenes -/

/-- The buckets, and what is left to do of each execution. -/
structure Scene (ι τ : Type) where
  buckets : Buckets
  rest : ι → StorageProgram τ Unit

namespace Scene

variable {ι τ : Type}

/-- An execution goes on. -/
def goesOn [DecidableEq ι] (s : Scene ι τ) (i : ι) (p : StorageProgram τ Unit) :
    Scene ι τ :=
  { s with rest := Function.update s.rest i p }

/-- What a step is about. -/
inductive Event (ι : Type) where
  /-- A set of an execution was accepted, and one policy took the place of
  another. -/
  | accepted (party : ι) (bucket : String) (before after : Json)
  | other

/-- One step: of an execution, in a context that may be over or not; of the
store, which answers a call; or of another writer.  A set that is accepted may
still be reported to have failed. -/
inductive Step [DecidableEq ι] : Scene ι τ → Event ι → Scene ι τ → Prop
  | looks {s i next} (m : Moment τ) (h : s.rest i = .look next) :
      Step s .other (s.goesOn i (next m))
  | logs {s i entry next} (h : s.rest i = .log entry next) :
      Step s .other (s.goesOn i next)
  | notes {s i condition next} (h : s.rest i = .note condition next) :
      Step s .other (s.goesOn i next)
  | connects {s i account next} (o : Outcome Json)
      (h : s.rest i = .call (.connect account) next) :
      Step s .other (s.goesOn i (next o))
  | gets {s i bucket version options next policy}
      (h : s.rest i = .call (.get bucket version options) next)
      (hstored : s.buckets.stored bucket = some policy) :
      Step s .other (s.goesOn i (next (.ok policy)))
  | fails {s i request next} (fault : Fault)
      (h : s.rest i = .call request next) :
      Step s .other (s.goesOn i (next (.error fault)))
  | sets {s i bucket payload options next before etag} (o : Outcome Json)
      (h : s.rest i = .call (.set bucket payload options) next)
      (hstored : s.buckets.stored bucket = some before)
      (hetag : (before.get "etag").equals (payload.get "etag") = true)
      (hfresh : s.buckets.Fresh bucket etag)
      (ho : ∀ reply, o = .ok reply → reply = payload.stamped etag) :
      Step s (.accepted i bucket before (payload.stamped etag))
        (Scene.goesOn ⟨s.buckets.puts bucket (payload.stamped etag), s.rest⟩
          i (next o))
  | edits {s bucket policy} (hwell : policy.isWellFormed = true)
      (hfresh : s.buckets.Fresh bucket (policy.get "etag")) :
      Step s .other ⟨s.buckets.puts bucket policy, s.rest⟩
  | removes {s} (bucket : String) :
      Step s .other ⟨s.buckets.removes bucket, s.rest⟩

/-- A run of any length, and what its steps were about. -/
inductive Run [DecidableEq ι] : Scene ι τ → List (Event ι) → Scene ι τ → Prop
  | nil (s : Scene ι τ) : Run s [] s
  | cons {s s' s'' e es} (h : Step s e s') (hrun : Run s' es s'') :
      Run s (e :: es) s''

/-- No execution has begun yet. -/
structure Starts (jobs : ι → Job τ) (s : Scene ι τ) : Prop where
  orderly : s.buckets.Orderly
  rest : ∀ i, s.rest i = (jobs i).program

/-! ## The invariant -/

variable {s s' : Scene ι τ} {jobs : ι → Job τ}

/-- The execution follows the protocol from a policy on that can be recalled, if
from any. -/
def Follows (buckets : Buckets) (j : Job τ) (p : StorageProgram τ Unit) :
    Prop :=
  ∃ seen : Option Json,
    (∀ policy ∈ seen, buckets.Recalls j.resource.binding.resource policy) ∧
    Meets (contended j.resource.binding j.removal) p seen fun _ _ => True

/-- The invariant: the buckets are in order, and every execution follows the
protocol. -/
structure Consistent (jobs : ι → Job τ) (s : Scene ι τ) : Prop where
  orderly : s.buckets.Orderly
  follows : ∀ i, Follows s.buckets (jobs i) (s.rest i)

theorem Starts.consistent (h : Starts jobs s) : s.Consistent jobs := by
  refine ⟨h.orderly, fun i => ⟨none, ?_, ?_⟩⟩
  · intro policy hpolicy
    cases hpolicy
  · rw [h.rest i]
    exact (jobs i).meets_program none

theorem Consistent.followed (h : s.Consistent jobs) {i : ι}
    {p : StorageProgram τ Unit}
    (hrest : s.rest i = p) : Follows s.buckets (jobs i) p := by
  rw [← hrest]
  exact h.follows i

theorem Consistent.puts (h : s.Consistent jobs) {bucket : String}
    {policy : Json}
    (hwell : policy.isWellFormed = true)
    (hfresh : s.buckets.Fresh bucket (policy.get "etag")) :
    Consistent jobs ⟨s.buckets.puts bucket policy, s.rest⟩ := by
  refine ⟨h.orderly.puts hwell, ?_⟩
  intro k
  obtain ⟨seen, hseen, hmeets⟩ := h.follows k
  exact ⟨seen, fun old hold => (hseen old hold).puts hfresh, hmeets⟩

theorem Consistent.removes (h : s.Consistent jobs) (bucket : String) :
    Consistent jobs ⟨s.buckets.removes bucket, s.rest⟩ := by
  refine ⟨h.orderly.removes bucket, ?_⟩
  intro k
  obtain ⟨seen, hseen, hmeets⟩ := h.follows k
  exact ⟨seen, fun old hold => (hseen old hold).removes bucket, hmeets⟩

/-- What a step is about is well: a set of an execution was made in its own
bucket, for a pair that had to be changed, and it amends the policy that it
replaces. -/
def Event.IsWell (jobs : ι → Job τ) : Event ι → Prop
  | .other => True
  | .accepted i bucket before after =>
      let b := (jobs i).resource.binding
      bucket = b.resource ∧
        ((b.role, b.member) ∈ (Content.of before).granted ↔
          (jobs i).removal = true) ∧
        Content.of after = (Content.of before).settled.amended b
          (jobs i).removal

variable [DecidableEq ι]

theorem Consistent.goesOn (h : s.Consistent jobs) {i : ι}
    {p : StorageProgram τ Unit}
    (hp : Follows s.buckets (jobs i) p) : (s.goesOn i p).Consistent jobs := by
  refine ⟨h.orderly, ?_⟩
  intro k
  show Follows s.buckets (jobs k) (Function.update s.rest i p k)
  by_cases hk : k = i
  · subst hk
    rw [Function.update_self]
    exact hp
  · rw [Function.update_of_ne hk]
    exact h.follows k

/-- An execution that has just seen a fault recalls nothing. -/
theorem Follows.of_none {buckets : Buckets} {j : Job τ}
    {p : StorageProgram τ Unit}
    (h : Meets (contended j.resource.binding j.removal) p none
      fun _ _ => True) :
    Follows buckets j p := by
  refine ⟨none, fun policy hpolicy => ?_, h⟩
  cases hpolicy

/-- **One step keeps the invariant**, and whatever it is about is well. -/
theorem Consistent.step {e : Event ι} (h : s.Consistent jobs)
    (hstep : Step s e s') : s'.Consistent jobs ∧ e.IsWell jobs := by
  cases hstep with
  | @looks i next m hrest =>
      obtain ⟨seen, hseen, hmeets⟩ := h.followed hrest
      exact ⟨h.goesOn ⟨seen, hseen, hmeets m trivial⟩, trivial⟩
  | @logs i entry next hrest =>
      obtain ⟨seen, hseen, hmeets⟩ := h.followed hrest
      exact ⟨h.goesOn ⟨seen, hseen, hmeets⟩, trivial⟩
  | @notes i condition next hrest =>
      obtain ⟨seen, hseen, hmeets⟩ := h.followed hrest
      exact ⟨h.goesOn ⟨seen, hseen, hmeets⟩, trivial⟩
  | @connects i account next o hrest =>
      obtain ⟨seen, hseen, hmeets⟩ := h.followed hrest
      exact ⟨h.goesOn ⟨seen, hseen, hmeets o⟩, trivial⟩
  | @gets i bucket version options next policy hrest hstored =>
      obtain ⟨seen, hseen, hmeets⟩ := h.followed hrest
      obtain ⟨hbucket, hreplies⟩ := hmeets
      have hnext := hreplies (some policy) (.ok policy)
        (hstored ▸ h.orderly.sound bucket) rfl
      refine ⟨h.goesOn ⟨some policy, ?_, hnext⟩, trivial⟩
      rintro now ⟨⟩
      rw [← hbucket]
      exact h.orderly.recalls hstored
  | @fails i request next fault hrest =>
      obtain ⟨seen, hseen, hmeets⟩ := h.followed hrest
      refine ⟨h.goesOn ?_, trivial⟩
      cases request with
      | connect account => exact ⟨seen, hseen, hmeets _⟩
      | get bucket version options =>
          exact .of_none (hmeets.2 none _ sound_none fun _ => rfl)
      | set bucket payload options =>
          exact .of_none (hmeets.2.2.2 none _ sound_none fun _ => rfl)
  | @sets i bucket payload options next before etag o hrest hstored hetag
      hfresh ho =>
      obtain ⟨seen, hseen, hmeets⟩ := h.followed hrest
      obtain ⟨hbucket, ⟨policy, hpolicy, hamends⟩, haccepted, hrefused⟩ :=
        hmeets
      -- the execution recalls the policy that it replaces
      have hbefore : before = policy := by
        rw [hamends.get_etag] at hetag
        exact (hseen policy hpolicy).same before (hbucket ▸ hstored) hetag
      rw [← hbefore] at hamends
      have hwell : (payload.stamped etag).isWellFormed = true :=
        Json.isWellFormed_stamped hamends.isWellFormed etag
      have hputs := h.puts hwell (by rw [Json.get_etag_stamped]; exact hfresh)
      refine ⟨hputs.goesOn ?_, hbucket, hamends.changes, ?_⟩
      · cases o with
        | error fault =>
            exact .of_none (hrefused none fault sound_none fun _ => rfl)
        | ok reply =>
            rw [ho reply rfl]
            refine ⟨some (payload.stamped etag), ?_, haccepted etag⟩
            rintro now ⟨⟩
            apply hputs.orderly.recalls
            rw [← hbucket]
            exact (Buckets.stored_puts _ _ _ _).trans (if_pos rfl)
      · rw [Content.of_stamped, hamends.of_payload]
  | @edits bucket policy hwell hfresh => exact ⟨h.puts hwell hfresh, trivial⟩
  | @removes bucket => exact ⟨h.removes bucket, trivial⟩

/-- Whatever the steps of a run are about is well. -/
theorem Consistent.run {es : List (Event ι)} (h : s.Consistent jobs)
    (hrun : Run s es s') : ∀ e ∈ es, e.IsWell jobs := by
  induction hrun with
  | nil s =>
      intro e he
      cases he
  | cons hstep hrun ih =>
      obtain ⟨hnext, hwell⟩ := h.step hstep
      intro e he
      rcases List.mem_cons.mp he with rfl | hrest
      · exact hwell
      · exact ih hnext e hrest

end Scene

/-! ## Undisturbed executions -/

/-- What an execution sends first, if nobody else takes a step. -/
def Program.sent? {τ α : Type} (m : Moment τ) (buckets : Buckets) :
    StorageProgram τ α → Option (String × Json)
  | .done _ => none
  | .fail _ => none
  | .look next => sent? m buckets (next m)
  | .log _ next => sent? m buckets next
  | .note _ next => sent? m buckets next
  | .call (.connect _) next => sent? m buckets (next (.ok .null))
  | .call (.get bucket _ _) next =>
      match buckets.stored bucket with
      | some policy => sent? m buckets (next (.ok policy))
      | none => none
  | .call (.set bucket payload _) _ => some (bucket, payload)

namespace Scene

variable {ι τ : Type} [DecidableEq ι] {s s' : Scene ι τ} {e e' : Event ι}

/-- Some run has a step that is about this. -/
def MayHappen (s : Scene ι τ) (e : Event ι) : Prop :=
  ∃ es s', Run s es s' ∧ e ∈ es

theorem MayHappen.of_step (hstep : Step s e' s') (h : s'.MayHappen e) :
    s.MayHappen e := by
  obtain ⟨es, last, hrun, hmem⟩ := h
  exact ⟨e' :: es, last, .cons hstep hrun, List.mem_cons_of_mem e' hmem⟩

/-- What is sent under the etag of the stored policy may be accepted. -/
theorem mayHappen_accepted (m : Moment τ) {i : ι} {p : StorageProgram τ Unit}
    {bucket : String} {payload before etag : Json} (hrest : s.rest i = p)
    (hsent : p.sent? m s.buckets = some (bucket, payload))
    (hstored : s.buckets.stored bucket = some before)
    (hetag : (before.get "etag").equals (payload.get "etag") = true)
    (hfresh : s.buckets.Fresh bucket etag) :
    s.MayHappen (.accepted i bucket before (payload.stamped etag)) := by
  have hself (s : Scene ι τ) (p' : StorageProgram τ Unit) :
      (s.goesOn i p').rest i = p' :=
    Function.update_self _ _ _
  induction p generalizing s with
  | done a => cases hsent
  | fail fault => cases hsent
  | look next ih =>
      exact (ih m (hself s _) hsent hstored hfresh).of_step (.looks m hrest)
  | log entry next ih =>
      exact (ih (hself s _) hsent hstored hfresh).of_step (.logs hrest)
  | note condition next ih =>
      exact (ih (hself s _) hsent hstored hfresh).of_step (.notes hrest)
  | call request next ih =>
      cases request with
      | connect account =>
          exact (ih (.ok .null) (hself s _) hsent hstored hfresh).of_step
            (.connects _ hrest)
      | get bucket' version options =>
          cases hread : s.buckets.stored bucket' with
          | none =>
              rw [Program.sent?, hread] at hsent
              cases hsent
          | some policy =>
              rw [Program.sent?, hread] at hsent
              exact (ih (.ok policy) (hself s _) hsent hstored hfresh).of_step
                (.gets hrest hread)
      | set bucket' payload' options =>
          cases hsent
          have hreply : ∀ reply,
              Except.ok (payload.stamped etag) = (.ok reply : Outcome Json) →
              reply = payload.stamped etag := by
            intro reply h
            exact (Except.ok.inj h).symm
          have hsets := Step.sets (.ok (payload.stamped etag)) hrest hstored
            hetag hfresh hreply
          exact ⟨_, _, .cons hsets (.nil _), List.mem_cons_self⟩

end Scene

/-! ## No update is lost -/

/-- A policy with two conditional entries, which are not in the order of their
roles. -/
def shuffled : Json := .obj [("etag", .str "1"), ("bindings", .arr [
  .obj [("role", .str "s"), ("members", .arr [.str "u:x"]),
    ("condition", .obj [("title", .str "1")])],
  .obj [("role", .str "q"), ("members", .arr [.str "u:y"]),
    ("condition", .obj [("title", .str "2")])]])]

/-- The same policy with one more pair, as it is sent. -/
def unshuffled : Json := .obj [("etag", .str "1"), ("bindings", .arr [
  .obj [("role", .str "q"), ("members", .arr [.str "u:y"]),
    ("condition", .obj [("title", .str "2")])],
  .obj [("role", .str "r"), ("members", .arr [.str "u:a"])],
  .obj [("role", .str "s"), ("members", .arr [.str "u:x"]),
    ("condition", .obj [("title", .str "1")])]])]

/-- One member is to be bound. -/
def binder : Job Int where
  connector := ⟨⟨"p", .given .null, none⟩, 30, ""⟩
  task := .create
  resource := ⟨.declaring "m" ⟨"b", "r", "u:a"⟩ false, ⟨"b", "r", "u:a"⟩, rfl,
    by decide⟩

/-- Nothing has happened yet. -/
def outset : Scene Unit Int where
  buckets := ⟨fun bucket => if bucket = "b" then some shuffled else none,
    fun _ => [.str "1"]⟩
  rest _ := binder.program

theorem eq_of_stored_outset {bucket : String} {policy : Json}
    (h : outset.buckets.stored bucket = some policy) : policy = shuffled := by
  have hstored : (if bucket = "b" then some shuffled else none) =
      some policy := h
  split at hstored
  · exact (Option.some.inj hstored).symm
  · cases hstored

theorem starts_outset : Scene.Starts (fun _ => binder) outset := by
  have horderly : outset.buckets.Orderly := by
    constructor
    · intro bucket policy hpolicy
      rw [eq_of_stored_outset hpolicy]
      decide
    · intro bucket policy hpolicy
      rw [eq_of_stored_outset hpolicy]
      exact List.mem_singleton.mpr rfl
  exact ⟨horderly, fun _ => rfl⟩

theorem mayHappen_outset :
    outset.MayHappen
    (.accepted () "b" shuffled (unshuffled.stamped (.str "2"))) := by
  have hsent : binder.program.sent? ⟨false, none, .ok (.utc 0)⟩ outset.buckets =
      some ("b", unshuffled) := by
    cbv
  refine Scene.mayHappen_accepted ⟨false, none, .ok (.utc 0)⟩ rfl hsent rfl
    (by decide) ?_
  intro old hold
  rw [List.mem_singleton.mp hold]
  decide

/-- **No update is lost.**  A set that is accepted from an execution in any run
changes its own pair, which had to be changed, in the policy that is stored at
that moment: the version stays, the other pairs stay, and the conditional
entries that have members stay, in the order of their roles and for one role in
the order in which they were. -/
theorem no_update_lost {ι τ : Type} [DecidableEq ι] {jobs : ι → Job τ}
    {s s' : Scene ι τ}
    {es : List (Scene.Event ι)} (hstart : Scene.Starts jobs s)
    (hrun : Scene.Run s es s') {i : ι}
    {bucket : String} {before after : Json}
    (hevent : .accepted i bucket before after ∈ es) :
    let b := (jobs i).resource.binding
    bucket = b.resource ∧
      (Content.of after).version = (Content.of before).version ∧
      (Content.of after).conditional =
        inOrder Clause.role (Content.of before).conditional ∧
      ((jobs i).removal = false →
        (b.role, b.member) ∉ (Content.of before).granted ∧
        (Content.of after).granted =
          insert (b.role, b.member) (Content.of before).granted) ∧
      ((jobs i).removal = true →
        (b.role, b.member) ∈ (Content.of before).granted ∧
        (Content.of after).granted =
          (Content.of before).granted.erase (b.role, b.member)) := by
  intro b
  obtain ⟨hbucket, hchanges, hcontent⟩ := hstart.consistent.run hrun _ hevent
  cases hremoval : (jobs i).removal with
  | false =>
      rw [hremoval] at hchanges hcontent
      rw [hcontent]
      have hmissing : (b.role, b.member) ∉ (Content.of before).granted := by
        intro hmem
        cases hchanges.mp hmem
      refine ⟨hbucket, rfl, rfl, fun _ => ⟨hmissing, rfl⟩, ?_⟩
      intro h
      cases h
  | true =>
      rw [hremoval] at hchanges hcontent
      rw [hcontent]
      have hthere : (b.role, b.member) ∈ (Content.of before).granted :=
        hchanges.mpr rfl
      refine ⟨hbucket, rfl, rfl, fun h => ?_, fun _ => ⟨hthere, rfl⟩⟩
      cases h

theorem no_update_lost_outset :
    outset.MayHappen
      (.accepted () "b" shuffled (unshuffled.stamped (.str "2"))) ∧
      (Content.of (unshuffled.stamped (.str "2"))).conditional =
        inOrder Clause.role (Content.of shuffled).conditional ∧
      (Content.of (unshuffled.stamped (.str "2"))).granted =
        insert ("r", "u:a") (Content.of shuffled).granted := by
  obtain ⟨es, s', hrun, hmem⟩ := mayHappen_outset
  obtain ⟨-, -, hconditional, hgranted, -⟩ :=
    no_update_lost starts_outset hrun hmem
  exact ⟨mayHappen_outset, hconditional, (hgranted rfl).2⟩

/-- Conditional entries do not keep their order: they are sorted by their
roles. -/
theorem conditional_reordered :
    ∃ es s', Scene.Run outset es s' ∧ Scene.Starts (fun _ => binder) outset ∧
      .accepted () "b" shuffled (unshuffled.stamped (.str "2")) ∈ es ∧
      (Content.of (unshuffled.stamped (.str "2"))).conditional ≠
      (Content.of shuffled).conditional := by
  obtain ⟨es, s', hrun, hmem⟩ := mayHappen_outset
  refine ⟨es, s', hrun, starts_outset, hmem, ?_⟩
  intro h
  have hroles := congrArg (List.map Clause.role) h
  revert hroles
  decide +kernel

end GrantKeeper
