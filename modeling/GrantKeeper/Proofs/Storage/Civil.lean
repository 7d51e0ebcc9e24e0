import GrantKeeper.Proofs.Storage.Alone
import GrantKeeper.Proofs.Storage.Reported
import GrantKeeper.Proofs.Storage.Witnessed

/-!
# Civil surroundings

In a civil world all policies are well formed, whoever wrote them, a call fails
only in the ways that a call of the service can, and a sign-in only for want of
authority.  An operation then has an answer to everything: it returns, or it
ends with a fault of the program's own.  The protocol `civil` asks one thing in
turn, that what is sent is well formed too.

## Main results

* `Membership.fetched_civil` — whatever a get brings is a policy or a fault of
  the program's own.
* `meets_create_civil`, `meets_delete_civil`, `meets_observe_civil` — the verbs.
* `World.follows_civil` — a civil world follows the protocol, and stays civil.
* `Connector.handled_of_civil` — no fault but the program's own comes out of a
  cycle, or of a look.
-/

namespace GrantKeeper

open Program GrantKeeper.Membership

/-- The failure is one of those that keep a client from being made. -/
def Fault.isSignInFailure : Fault → Bool
  | .foreign failure => failure.traits.auth
  | _ => false

/-- A reply is a well-formed policy or a failure of the service. -/
def IsCivil : Outcome Json → Prop
  | .ok reply => reply.isWellFormed = true
  | .error fault => fault.isOfService = true

/-- If there is a fault, it is one of the program's own. -/
def Handled {α : Type} (o : Outcome α) : Prop :=
  ∀ fault, o = .error fault → fault.isOwn = true

theorem handled_ok {α : Type} (a : α) : Handled (.ok a) := fun _ h => by cases h

theorem handled_error {α : Type} {fault : Fault} (h : fault.isOwn = true) :
    Handled (.error fault : Outcome α) := fun _ heq => Except.error.inj heq ▸ h

theorem Handled.map {α β : Type} {o : Outcome α} (h : Handled o) (f : α → β) :
    Handled (o.map f) := by
  cases o with
  | ok a => exact handled_ok (f a)
  | error fault => exact handled_error (h fault rfl)

section

variable {τ α : Type} {b : Binding} {managed : Managed} {client : Client τ}
  {stage : Stage} {d : Policy} {o : Outcome Json}

/-- Any civil reply may come to a request that is well formed. -/
def civil : Protocol τ (StorageCall τ) Json Unit where
  sees _ m := ∃ time, m.wall = .ok time
  call _ request post :=
    match request with
    | .connect _ => ∀ o : Outcome Json,
        (∀ fault, o = .error fault → fault.isSignInFailure = true) → post o ()
    | .get .. => ∀ o, IsCivil o → post o ()
    | .set _ payload _ =>
        payload.isWellFormed = true ∧ ∀ o, IsCivil o → post o ()
  mono {s request post post'} h hcall := by
    cases request with
    | connect account => exact fun o ho => h _ _ (hcall o ho)
    | get bucket version options => exact fun o ho => h _ _ (hcall o ho)
    | set bucket payload options =>
        exact ⟨hcall.1, fun o ho => h _ _ (hcall.2 o ho)⟩

/-! ## Replies -/

/-- The policy stands for a content that can be written. -/
def Policy.IsSendable (d : Policy) : Prop :=
  ∃ etag c, d.Represents etag c ∧ c.IsProper

theorem Policy.IsSendable.amended (h : d.IsSendable) (hrole : b.role ≠ "")
    (removal : Bool) : (d.amended b removal).IsSendable := by
  obtain ⟨etag, c, hd, hproper⟩ := h
  exact ⟨etag, _, hd.amended hrole removal, hproper.amended hrole removal⟩

/-- What can be written is well formed on its way. -/
theorem Policy.IsSendable.exists_payloadOf (h : d.IsSendable) :
    ∃ payload, Client.payloadOf d = .ok payload ∧
      payload.isWellFormed = true := by
  obtain ⟨etag, c, hd, hproper⟩ := h
  exact ⟨_, Client.payloadOf_represents hd hproper,
    Content.isWellFormed_written hproper etag⟩

namespace Membership

/-- **Whatever a get brings is a policy or a fault of the program's own.** -/
theorem fetched_civil (b : Binding) (stage : Stage) (ho : IsCivil o) :
    (∃ d, fetched b stage o = .ok d ∧ d.IsSendable) ∨
      ∃ fault, fetched b stage o = .error fault ∧ fault.isOwn = true := by
  cases o with
  | ok reply =>
      have hwell : reply.isWellFormed = true := ho
      obtain ⟨d, hd, hrep⟩ := Client.exists_policyOf hwell
      refine Or.inl ⟨d, ?_, _, _, hrep, (Content.isProper_of hwell).settled⟩
      rw [fetched, hd]
      rfl
  | error fault =>
      refine Or.inr ⟨_, rfl, ?_⟩
      rw [Client.reported_of_isOfService ho]
      rfl

/-- What a set brings is no surprise. -/
theorem handled_replaced (stage : Stage) (ho : IsCivil o) :
    Handled (replaced b stage o) := by
  cases o with
  | ok reply =>
      obtain ⟨d, hd, -⟩ :=
        Client.exists_policyOf (show reply.isWellFormed = true from ho)
      rw [replaced, hd]
      exact handled_ok ()
  | error fault =>
      refine handled_error ?_
      rw [Client.reported_of_isOfService ho, atWrite_client]
      split <;> rfl

end Membership

/-! ## Verbs -/

theorem meets_replace_civil (hd : d.IsSendable) :
    Meets civil ((replace b d stage).lower client.serve) () fun o _ =>
      Handled o := by
  obtain ⟨payload, hpayload, hwell⟩ := hd.exists_payloadOf
  refine meets_replace (fun _ _ _ => handled_error rfl)
    (fun _ => handled_error rfl)
    (fun cause _ hcause => ?_) fun options payload' _ hpayload' => ?_
  · cases hpayload.symm.trans hcause
  · cases hpayload.symm.trans hpayload'
    exact ⟨hwell, fun o ho => handled_replaced stage ho⟩

/-- What a look comes to: everything in place, nothing, or a fault of the
program's own. -/
def IsFinding : Outcome (Observation Bool) → Prop
  | .ok found => found = .absent ∨ found = .inPlace
  | .error fault => fault.isOwn = true

theorem meets_observe_civil (hb : managed.binding = .ok b) (client : Client τ) :
    Meets civil ((observe managed).lower client.serve) () fun o _ =>
      IsFinding o := by
  refine meets_observe hb (fun _ _ _ => rfl) fun options o ho => ?_
  show whenSeen _ b _ (fetched b .observeFetch o) ()
  obtain ⟨d, hfetched, -⟩ | ⟨fault, hfetched, hown⟩ :=
    fetched_civil b .observeFetch ho
  · rw [hfetched, whenSeen]
    split
    · rintro m ⟨time, htime⟩
      rw [htime]
      exact Or.inr rfl
    · exact Or.inl rfl
  · rw [hfetched, whenSeen]
    split
    · exact Or.inl rfl
    · exact hown

theorem meets_create_civil (hb : managed.binding = .ok b)
    (hrole : b.role ≠ "") :
    Meets civil ((create managed).lower client.serve) () fun o _ =>
      Handled o := by
  refine meets_create hb (fun _ _ _ => handled_error rfl) fun options o ho => ?_
  show whenToCreate _ _ b _ (fetched b .createFetch o) ()
  obtain ⟨d, hfetched, hd⟩ | ⟨fault, hfetched, hown⟩ :=
    fetched_civil b .createFetch ho
  · rw [hfetched, whenToCreate]
    split
    · exact handled_ok ()
    · exact meets_replace_civil (hd.amended hrole false)
  · rw [hfetched]
    exact handled_error hown

theorem meets_delete_civil (hb : managed.binding = .ok b)
    (hrole : b.role ≠ "") :
    Meets civil ((delete managed).lower client.serve) () fun o _ =>
      Handled o := by
  refine meets_delete hb (fun _ _ _ => handled_error rfl) fun options o ho => ?_
  show whenToDelete _ _ b _ (fetched b .deleteFetch o) ()
  obtain ⟨d, hfetched, hd⟩ | ⟨fault, hfetched, hown⟩ :=
    fetched_civil b .deleteFetch ho
  · rw [hfetched, whenToDelete]
    split
    · exact meets_replace_civil (hd.amended hrole true)
    · exact handled_ok ()
  · rw [hfetched, whenToDelete]
    split
    · exact handled_ok ()
    · exact handled_error hown

/-! ## Connectors -/

namespace Connector

variable {c : Connector τ}

theorem isOwn_atConnect {fault : Fault} (h : fault.isSignInFailure = true) :
    (atConnect fault).isOwn = true := by
  cases fault with
  | foreign failure =>
      have hconnect : atConnect (.foreign failure) = _ := if_pos h
      rw [hconnect]
      rfl
  | _ => cases h

theorem meets_observe_civil (hb : managed.binding = .ok b) :
    Meets civil (c.observe managed) () fun o _ => Handled o := by
  refine meets_bind.mpr (meets_connect hb fun o ho => ?_)
  cases o with
  | error fault => exact handled_error (isOwn_atConnect (ho fault rfl))
  | ok reply =>
      refine meets_mono (fun o _ h => ?_) (GrantKeeper.meets_observe_civil hb _)
      cases o with
      | error fault => exact handled_error h
      | ok found => exact handled_ok found

theorem meets_reconcile_civil (hb : managed.binding = .ok b)
    (hrole : b.role ≠ "") :
    Meets civil (c.reconcile managed) () fun o _ => Handled o := by
  have hgoesOn (result : CycleResult Bool) (p : StorageProgram τ Unit)
      (hp : Meets civil p () fun o _ => Handled o) :
      Meets civil (p.bind fun _ => .done result) () fun o _ => Handled o := by
    refine meets_bind.mpr (meets_mono (fun o _ h => ?_) hp)
    cases o with
    | error fault => exact handled_error (h fault rfl)
    | ok u => exact handled_ok result
  refine meets_reconcile hb fun o ho => ?_
  cases o with
  | error fault => exact handled_error (isOwn_atConnect (ho fault rfl))
  | ok reply =>
      refine meets_mono (fun o _ h => ?_) (GrantKeeper.meets_observe_civil hb _)
      cases o with
      | error fault => exact handled_error h
      | ok found =>
          show Meets _ (act _ managed found) () _
          obtain rfl | rfl := h
          · rw [act_absent]
            split
            · exact handled_ok _
            · exact hgoesOn _ _ (meets_create_civil hb hrole)
          · rw [act_inPlace]
            split
            · exact hgoesOn _ _ (meets_delete_civil hb hrole)
            · exact handled_ok _

end Connector

/-! ## Worlds -/

namespace World

/-- All policies are well formed, calls fail only in the ways that calls can,
and the calendar has a date whenever it is asked. -/
structure Civil [Seconds τ] (w : World τ (StorageCall τ) Json Service) :
    Prop where
  stored : ∀ bucket, Sound (w.server.store.policy? bucket)
  edits : ∀ h ∈ w.happenings, ∀ e ∈ h.edits, Sound e.2
  reply : ∀ h ∈ w.happenings,
    ∀ reply, h.reply? = some reply → ∀ request, IsCivil (reply request)
  refusal : ∀ fault,
    w.server.refusal? = some fault → fault.isSignInFailure = true
  calendar : w.clock.IsReadable w.happenings

variable [Seconds τ] {w : World τ (StorageCall τ) Json Service}

theorem Civil.asked (h : w.Civil) (request : StorageCall τ) :
    (w.asked (Service.remote τ) request).Civil where
  stored bucket := by
    rw [asked_server]
    refine (stored_edited (h.stored bucket) fun e he _ => ?_).1
    unfold upcoming at he
    cases hlist : w.happenings with
    | nil =>
        rw [hlist] at he
        cases he
    | cons first rest =>
        rw [hlist] at he
        exact h.edits first (hlist ▸ List.mem_cons_self) e he
  edits := by
    rw [asked_happenings]
    exact fun g hg => h.edits g (List.mem_of_mem_tail hg)
  reply := by
    rw [asked_happenings]
    exact fun g hg => h.reply g (List.mem_of_mem_tail hg)
  refusal := by
    rw [asked_server, Service.refusal?_edited]
    exact h.refusal
  calendar := isReadable_asked h.calendar request

/-- The store replies in a civil way, and what it accepts keeps it well
formed. -/
theorem Civil.answer_set (h : w.Civil) (bucket : String) {payload : Json}
    (hwell : payload.isWellFormed = true) :
    IsCivil (w.server.store.set bucket payload).1 ∧
      ∀ other, Sound ((w.server.store.set bucket payload).2.policy? other) := by
  rw [Store.set_eq]
  cases hstored : w.server.store.policy? bucket with
  | none => exact ⟨rfl, h.stored⟩
  | some stored =>
      obtain ⟨fields, -, rfl, -⟩ :=
        Json.exists_of_isWellFormed (h.stored bucket stored hstored)
      dsimp only
      split
      · refine ⟨Json.isWellFormed_stamped hwell _, fun other => ?_⟩
        rw [Store.policy?_accepted]
        split
        · rintro policy ⟨⟩
          exact Json.isWellFormed_stamped hwell _
        · exact h.stored other
      · exact ⟨rfl, h.stored⟩

/-- **A civil world follows the protocol**, and stays civil. -/
theorem follows_civil :
    Follows (Service.remote τ) civil fun w _ => w.Civil where
  sees h := h.calendar.exists_wall
  written _ h := ⟨h.stored, h.edits, h.reply, h.refusal, h.calendar⟩
  noted _ h := ⟨h.stored, h.edits, h.reply, h.refusal, h.calendar⟩
  served {w s request post} h hcall := by
    have hasked := h.asked request
    cases request with
    | connect account =>
        rw [served_uneventful rfl]
        refine ⟨(), ?_, ?_, h.edits, h.reply, ?_, h.calendar⟩
        · refine hcall _ fun fault hfault => h.refusal fault ?_
          cases hrefusal : w.server.refusal? with
          | none =>
              rw [Service.answer_connect hrefusal] at hfault
              cases hfault
          | some refusal =>
              simp only [Service.remote, hrefusal] at hfault
              exact congrArg some (Except.error.inj hfault)
        · rw [server_withServer, Service.store_answer_connect]
          exact h.stored
        · rw [server_withServer]
          cases hrefusal : w.server.refusal? with
          | none =>
              rw [Service.answer_connect hrefusal]
              exact h.refusal
          | some refusal =>
              simp only [Service.remote, hrefusal]
              exact hrefusal ▸ h.refusal
    | get bucket version options =>
        rw [served_eventful rfl]
        cases hreply : w.upcoming.reply? with
        | some reply =>
            exact ⟨(), hcall _ (h.reply _ (upcoming_mem hreply) reply hreply _),
              hasked⟩
        | none =>
            refine ⟨(), hcall _ ?_, hasked⟩
            rw [Service.answer_get, Store.get_eq]
            cases hstored : (w.asked (Service.remote τ)
                (.get bucket version options)).server.store.policy? bucket with
            | none => rfl
            | some policy => exact hasked.stored bucket policy hstored
    | set bucket payload options =>
        obtain ⟨hwell, hcall⟩ := hcall
        rw [served_eventful rfl]
        cases hreply : w.upcoming.reply? with
        | some reply =>
            exact ⟨(), hcall _ (h.reply _ (upcoming_mem hreply) reply hreply _),
              hasked⟩
        | none =>
            obtain ⟨hcivil, hsound⟩ := hasked.answer_set bucket hwell
            exact ⟨(), hcall _ hcivil, hsound, hasked.edits, hasked.reply,
              hasked.refusal, hasked.calendar⟩

end World

/-- **No fault but the program's own comes out of a look, or of a cycle**, in a
civil world. -/
theorem Connector.handled_of_civil [Seconds τ] {r : Resource}
    (hb : r.Declares b) (c : Connector τ)
    {w : World τ (StorageCall τ) Json Service} (hw : w.Civil) :
    Handled (w.run (Service.remote τ) (c.observe (.member r))).1 ∧
      Handled (w.run (Service.remote τ) (c.reconcile (.member r))).1 := by
  obtain ⟨-, hobserve, -⟩ :=
    Program.meets_run World.follows_civil hw (c.meets_observe_civil hb.binding)
  obtain ⟨-, hreconcile, -⟩ :=
    Program.meets_run World.follows_civil hw
      (c.meets_reconcile_civil hb.binding hb.role)
  exact ⟨hobserve, hreconcile⟩

end

end GrantKeeper
