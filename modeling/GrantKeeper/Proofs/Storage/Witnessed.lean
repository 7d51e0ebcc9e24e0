import Mathlib
import GrantKeeper.Proofs.Storage.Contended
import GrantKeeper.Proofs.Storage.World

/-!
# A cycle that returns is witnessed

A cycle makes up to three calls, and other writers may act before each of them.
What it observed first may be long out of date when it returns.  Nevertheless a
cycle that returns tells the truth about the moment of its last call: that call
either read a policy in which the goal holds, or wrote one.

Edits happen at calls only, so what the store holds after a run is what it held
when the last call took effect.

## Main results

* `World.follows_contended` — a world whose other writers and service are honest
  follows the protocol.
* `reconcile_witnessed` — the goal holds in the store when a cycle returns.
-/

namespace GrantKeeper

variable {τ : Type} {bucket : String}

/-! ## Honest surroundings -/

/-- There is a bucket after edits. -/
def presentAfter (bucket : String) (present : Bool)
    (edits : List (String × Option Json)) : Bool :=
  edits.foldl (fun there e => if e.1 = bucket then e.2.isSome else there)
    present

namespace Happening

/-- Edits leave well-formed policies behind, and where the service does not
answer, it raises; it reports a missing bucket only if there is none. -/
structure IsHonest (bucket : String) (present : Bool)
    (h : Happening τ (StorageCall τ) Json) : Prop where
  edits : ∀ e ∈ h.edits, e.1 = bucket → Sound e.2
  reply : ∀ reply,
    h.reply? = some reply → ∀ request, ∃ fault, reply request = .error fault ∧
    (fault.reportsMissing = true → presentAfter bucket present h.edits = false)

theorem isHonest_none (present : Bool) :
    (Happening.none : Happening τ (StorageCall τ) Json).IsHonest bucket
      present :=
  ⟨fun e he => absurd he List.not_mem_nil, fun reply hreply => by cases hreply⟩

end Happening

/-- All that is still to happen is honest. -/
def Honest (bucket : String) :
    Bool → List (Happening τ (StorageCall τ) Json) → Prop
  | _, [] => True
  | present, h :: rest =>
      h.IsHonest bucket present ∧
        Honest bucket (presentAfter bucket present h.edits) rest

/-! ## What happens at a call -/

/-- Edits decide whether there is a bucket, and keep what is stored well
formed. -/
theorem stored_edited {edits : List (String × Option Json)} {service : Service}
    (hsound : Sound (service.store.policy? bucket))
    (hedits : ∀ e ∈ edits, e.1 = bucket → Sound e.2) :
    let service' :=
      edits.foldl (fun s e => (Service.remote τ).edit e.1 e.2 s) service
    Sound (service'.store.policy? bucket) ∧
      (service'.store.policy? bucket).isSome =
        presentAfter bucket (service.store.policy? bucket).isSome edits := by
  induction edits generalizing service with
  | nil => exact ⟨hsound, rfl⟩
  | cons e rest ih =>
      have hstored :
          ((Service.remote τ).edit e.1 e.2 service).store.policy? bucket =
            if bucket = e.1 then e.2 else service.store.policy? bucket :=
        Store.policy?_edited service.store e.1 bucket e.2
      have hsound' : Sound
          (((Service.remote τ).edit e.1 e.2 service).store.policy? bucket) := by
        rw [hstored]
        split
        · rename_i heq
          exact hedits e List.mem_cons_self heq.symm
        · exact hsound
      have hrest := ih hsound' fun d hd => hedits d (List.mem_cons_of_mem e hd)
      refine ⟨hrest.1, hrest.2.trans ?_⟩
      show presentAfter _ _ rest =
        presentAfter _ (if e.1 = bucket then _ else _) rest
      rw [hstored]
      by_cases heq : bucket = e.1
      · rw [if_pos heq, if_pos heq.symm]
      · rw [if_neg heq, if_neg (Ne.symm heq)]

namespace World

variable {w : World τ (StorageCall τ) Json Service}

/-- The world stands for what its store holds, and its surroundings are
honest. -/
structure StandsFor (bucket : String) (w : World τ (StorageCall τ) Json Service)
    (stored : Option Json) : Prop where
  holds : w.server.store.policy? bucket = stored
  sound : Sound stored
  honest : Honest bucket stored.isSome w.happenings

theorem isHonest_upcoming {present : Bool}
    (h : Honest bucket present w.happenings) :
    w.upcoming.IsHonest bucket present ∧
      Honest bucket (presentAfter bucket present w.upcoming.edits)
        w.happenings.tail := by
  unfold upcoming
  cases hlist : w.happenings with
  | nil => exact ⟨Happening.isHonest_none present, trivial⟩
  | cons first rest =>
      rw [hlist] at h
      exact h

variable [Seconds τ]

/-- What happens at a call leaves a world that stands for what it holds, and a
fault raised in place of the answer is honest about that. -/
theorem StandsFor.asked {stored : Option Json} (h : StandsFor bucket w stored)
    (request : StorageCall τ) :
    ∃ stored', StandsFor bucket (w.asked (Service.remote τ) request) stored' ∧
      ∀ reply, w.upcoming.reply? = some reply →
        ∃ fault, reply request = .error fault ∧
          Answers stored' (.error fault) := by
  have hsound := h.sound
  have hhonest := h.honest
  rw [← h.holds] at hsound hhonest
  obtain ⟨hfirst, hrest⟩ := isHonest_upcoming hhonest
  obtain ⟨hsound', hpresent⟩ := stored_edited hsound hfirst.edits
  rw [← asked_server (Service.remote τ) w request] at hsound' hpresent
  rw [← hpresent, ← asked_happenings (Service.remote τ) w request] at hrest
  refine ⟨_, ⟨rfl, hsound', hrest⟩, ?_⟩
  intro reply hreply
  obtain ⟨fault, hfault, hmissing⟩ := hfirst.reply reply hreply request
  refine ⟨fault, hfault, ?_⟩
  intro hreports
  have hgone :=
    Option.isSome_eq_false_iff.mp (hpresent.trans (hmissing hreports))
  exact Option.isNone_iff_eq_none.mp hgone

/-- **A world with honest surroundings follows the protocol.** -/
theorem follows_contended (b : Binding) (removal : Bool) :
    Follows (Service.remote τ) (contended b removal)
      (StandsFor b.resource) where
  sees _ := trivial
  written _ h := ⟨h.holds, h.sound, h.honest⟩
  noted _ h := ⟨h.holds, h.sound, h.honest⟩
  served {w s request post} h hcall := by
    cases request with
    | connect account =>
        rw [served_uneventful rfl]
        refine ⟨s, hcall _, ?_, h.sound, h.honest⟩
        rw [server_withServer, Service.store_answer_connect]
        exact h.holds
    | get bucket version options =>
        obtain ⟨rfl, hcall⟩ := hcall
        obtain ⟨stored, hstands, hraised⟩ :=
          h.asked (.get b.resource version options)
        rw [served_eventful rfl]
        cases hreply : w.upcoming.reply? with
        | some reply =>
            obtain ⟨fault, hfault, hanswers⟩ := hraised reply hreply
            refine ⟨stored, ?_, hstands⟩
            simp only [hfault]
            exact hcall stored _ hstands.sound hanswers
        | none =>
            rw [Service.answer_get, Store.get_eq, hstands.holds]
            refine ⟨stored, hcall stored _ hstands.sound ?_, hstands.holds,
              hstands.sound, hstands.honest⟩
            cases stored with
            | none =>
                intro _
                rfl
            | some policy => rfl
    | set bucket payload options =>
        obtain ⟨rfl, ⟨seen, -, hamends⟩, haccepted, hrefused⟩ := hcall
        obtain ⟨stored, hstands, hraised⟩ :=
          h.asked (.set b.resource payload options)
        rw [served_eventful rfl]
        cases hreply : w.upcoming.reply? with
        | some reply =>
            obtain ⟨fault, hfault, hanswers⟩ := hraised reply hreply
            refine ⟨stored, ?_, hstands⟩
            simp only [hfault]
            exact hrefused stored fault hstands.sound hanswers
        | none =>
            simp only [Service.answer_set]
            obtain ⟨fault, hset, hmissing⟩ | ⟨before, hbefore, -, hset⟩ :=
              Store.set_cases (w.asked (Service.remote τ)
                (.set b.resource payload options)).server.store
                b.resource payload
            · rw [hset]
              have hanswers : Answers stored (.error fault) := by
                intro hreports
                rw [← hstands.holds]
                exact hmissing hreports
              exact ⟨stored, hrefused stored fault hstands.sound hanswers,
                hstands.holds, hstands.sound, hstands.honest⟩
            · rw [hset]
              refine ⟨_, haccepted _, ?_, ?_, ?_⟩
              · rw [server_withServer, Store.policy?_accepted, if_pos rfl]
              · rintro policy ⟨⟩
                exact Json.isWellFormed_stamped hamends.isWellFormed _
              · have hhonest := hstands.honest
                rw [← hstands.holds, hbefore] at hhonest
                exact hhonest

end World

/-! ## The cycle -/

/-- **A cycle that returns tells the truth about its last call.**  Whatever
action it reports, and whatever other writers did in between: unless the
resource was to be removed, the stored policy has an entry without condition
that lists the member under the role; and if it was, the bucket is gone or no
such entry lists the member. -/
theorem reconcile_witnessed [Seconds τ] {r : Resource} {b : Binding}
    (hb : r.Declares b)
    (c : Connector τ) (w : World τ (StorageCall τ) Json Service)
    (result : CycleResult Bool)
    (hsound : Sound (w.server.store.policy? b.resource))
    (hhonest : Honest b.resource (w.server.store.policy? b.resource).isSome
      w.happenings)
    (hreturns : (w.run (Service.remote τ) (c.reconcile (.member r))).1 =
      .ok result) :
    let stored :=
      (w.run (Service.remote τ)
        (c.reconcile (.member r))).2.server.store.policy? b.resource
    (r.wantsRemoval = false → ∃ policy, stored = some policy ∧
      ∃ entry ∈ (policy.get "bindings").listed, entry.Lists b.role b.member) ∧
    (r.wantsRemoval = true → ∀ policy, stored = some policy →
      ∀ entry ∈ (policy.get "bindings").listed,
        ¬ entry.Lists b.role b.member) := by
  obtain ⟨s, hgoal, hstands⟩ :=
    Program.meets_run (World.follows_contended b r.wantsRemoval)
      ⟨rfl, hsound, hhonest⟩ (meets_reconcile_contended hb c)
  rw [hreturns] at hgoal
  have hbound : Bound b _ ↔ r.wantsRemoval = false := hgoal
  rw [← hstands.holds] at hbound
  constructor
  · intro hstays
    obtain ⟨policy, hpolicy, hgranted⟩ := hbound.mpr hstays
    exact ⟨policy, hpolicy, (Content.mem_granted.mp hgranted).2⟩
  · intro hgoes policy hpolicy entry hentry hlists
    have hgranted := Content.mem_granted.mpr ⟨hb.role, entry, hentry, hlists⟩
    rw [hbound.mp ⟨policy, hpolicy, hgranted⟩] at hgoes
    cases hgoes

/-- Between the two fetches of a cycle another writer puts a policy in place. -/
def overtaken : World Int (StorageCall Int) Json Service where
  clock := .starting 0 0
  contexts := []
  current? := none
  resource? := none
  loggers := []
  logger := ""
  requestId := ""
  happenings := [.none, ⟨none, none, [("b", some (.obj [("etag", .str "2"),
    ("bindings",
      .arr [.obj [("role", .str "r"), ("members", .arr [.str "u:b"])]])]))],
      none⟩]
  server := ⟨.holding [("b", .obj [("etag", .str "1")])], none⟩
  calls := []
  records := []

theorem reconcile_witnessed_overtaken :
    let r := Resource.declaring "m" ⟨"b", "r", "u:a"⟩ false
    let run := overtaken.run (Service.remote Int)
      (Connector.reconcile ⟨⟨"p", .given .null, none⟩, 30, ""⟩ (.member r))
    run.1 = .ok ⟨.created, .absent⟩ ∧
      ∃ policy, run.2.server.store.policy? "b" = some policy ∧
        ∃ entry ∈ (policy.get "bindings").listed, entry.Lists "r" "u:a" := by
  have hb : (Resource.declaring "m" ⟨"b", "r", "u:a"⟩ false).Declares
      ⟨"b", "r", "u:a"⟩ :=
    ⟨rfl, by decide⟩
  have hsound : Sound (overtaken.server.store.policy? "b") := by
    rintro policy ⟨⟩
    rfl
  have hhonest : Honest "b" (overtaken.server.store.policy? "b").isSome
      overtaken.happenings := by
    refine ⟨Happening.isHonest_none _,
      ⟨?_, fun reply hreply => by cases hreply⟩, trivial⟩
    intro e he _
    rw [List.mem_singleton.mp he]
    rintro policy ⟨⟩
    rfl
  have hreturns : (overtaken.run (Service.remote Int) (Connector.reconcile
      ⟨⟨"p", .given .null, none⟩, 30, ""⟩
      (.member (Resource.declaring "m" ⟨"b", "r", "u:a"⟩ false)))).1 =
        .ok ⟨.created, .absent⟩ := by
    cbv
  exact ⟨hreturns,
    (reconcile_witnessed hb _ overtaken _ hsound hhonest hreturns).1 rfl⟩

end GrantKeeper
