import Mathlib
import GrantKeeper.CommandLine.Run
import GrantKeeper.Proofs.Cycle.Exchanges
import GrantKeeper.Proofs.Cycle.Operations
import GrantKeeper.Proofs.Cycle.Verbs
import GrantKeeper.Proofs.Policy.Rereading

/-!
# What fails was not written

An operation makes one set at most, and nothing can go wrong once the store
accepted it: what is left is to read the reply, which is the policy that was
sent under another etag, and that can be read.  So where an operation fails, the
store holds what the other writers made of it.  Nothing is assumed of the
policies that are stored, nor of replies that are put in place of those of the
service.

## Main results

* `Client.readsBack_of_payloadOf` — what an amendment is written as can be read.
* `Operation.meets_program` — no operation fails after a set was accepted.
* `store_untouched_of_failure` — what fails, be it an operation or a command,
  changed nothing.
-/

namespace GrantKeeper

open Program GrantKeeper.Membership

/-! ## Reading back -/

/-- The policy can be read, under whatever etag it is stored. -/
def Json.ReadsBack (payload : Json) : Prop :=
  ∀ etag, ∃ d, Client.policyOf (payload.stamped etag) = .ok d

/-- If the call is a set, what it sends can be read. -/
def StorageCall.ReadsBack {τ : Type} : StorageCall τ → Prop
  | .set _ payload _ => payload.ReadsBack
  | _ => True

/-- What an amendment is written as can be read. -/
theorem Client.readsBack_of_payloadOf {reply payload : Json} {d : Policy}
    {b : Binding} {removal : Bool}
    (hd : policyOf reply = .ok d) (hchanges : d.holds b.role b.member = removal)
    (hpayload : payloadOf (d.amended b removal) = .ok payload) :
    payload.ReadsBack := by
  have hsettled := (isSettled_policyOf hd).amended b removal
  have htexts := texts_of_amended hd hchanges hpayload
  exact fun etag => ⟨_, policyOf_stamped hsettled htexts hpayload etag⟩

/-! ## The protocol -/

/-- Any reply may come, and a set may be accepted.  The state tells whether one
was; then no other is made. -/
def reversible {τ : Type} : Protocol τ (StorageCall τ) Json Bool where
  sees _ _ := True
  call accepted request post :=
    match request with
    | .set _ payload _ =>
        accepted = false ∧ payload.ReadsBack ∧ (∀ o, post o false) ∧
        ∀ etag, post (.ok (payload.stamped etag)) true
    | _ => ∀ o, post o accepted
  mono {accepted request post post'} h := by
    cases request with
    | connect account => exact fun hcall o => h _ _ (hcall o)
    | get bucket version options => exact fun hcall o => h _ _ (hcall o)
    | set bucket payload options =>
        rintro ⟨hnone, hback, hany, haccepted⟩
        exact ⟨hnone, hback, fun o => h _ _ (hany o),
          fun etag => h _ _ (haccepted etag)⟩

theorem readsBack_of_call {τ : Type} {accepted : Bool} {request : StorageCall τ}
    {post : Outcome Json → Bool → Prop}
    (h : reversible.call accepted request post) : request.ReadsBack := by
  cases request with
  | connect account => trivial
  | get bucket version options => trivial
  | set bucket payload options => exact h.2.1

/-- If a set was accepted, the program succeeded. -/
def Kept {α : Type} (o : Outcome α) (accepted : Bool) : Prop :=
  accepted = true → ∃ a, o = .ok a

theorem kept_false {α : Type} (o : Outcome α) : Kept o false := by
  intro h
  cases h

theorem kept_ok {α : Type} (a : α) (accepted : Bool) :
    Kept (.ok a) accepted := fun _ => ⟨a, rfl⟩

variable {τ : Type} {b : Binding} {removal : Bool} {managed : Managed}

/-! ## Verbs and cycles -/

/-- A replacement by an amendment fails only if it was not accepted. -/
theorem meets_replace_reversible (client : Client τ) {stage : Stage}
    {reply : Json} {d : Policy}
    (hd : Client.policyOf reply = .ok d)
    (hchanges : d.holds b.role b.member = removal) :
    Meets reversible ((replace b (d.amended b removal) stage).lower
      client.serve) false Kept := by
  refine meets_replace (fun _ _ _ => kept_false _) (fun _ => kept_false _)
    (fun _ _ _ => kept_false _) fun options payload _ hpayload => ?_
  have hback := Client.readsBack_of_payloadOf hd hchanges hpayload
  refine ⟨rfl, hback, fun o => kept_false _, fun etag => ?_⟩
  obtain ⟨d', hd'⟩ := hback etag
  rw [replaced, hd']
  exact kept_ok () true

/-- To observe sends nothing. -/
theorem meets_observe_reversible (client : Client τ)
    (hb : managed.binding = .ok b) :
    Meets reversible ((observe managed).lower client.serve) false
      fun _ accepted =>
      accepted = false := by
  refine meets_observe hb (fun _ _ _ => rfl) fun options o => ?_
  show whenSeen _ b _ (fetched b .observeFetch o) false
  cases fetched b .observeFetch o with
  | error fault =>
      show if isNotFound fault then _ else _
      split <;> rfl
  | ok d =>
      show if d.holds b.role b.member then _ else _
      split
      · exact fun m hm => rfl
      · rfl

theorem meets_create_reversible (client : Client τ)
    (hb : managed.binding = .ok b) :
    Meets reversible ((create managed).lower client.serve) false Kept := by
  refine meets_create hb (fun _ _ _ => kept_false _) fun options o => ?_
  show whenToCreate _ _ b _ (fetched b .createFetch o) false
  cases hfetched : fetched b .createFetch o with
  | error fault => exact kept_false _
  | ok d =>
      obtain ⟨reply, -, hd⟩ := exists_reply_of_fetched hfetched
      show if d.holds b.role b.member then _ else _
      split
      · exact kept_false _
      · rename_i hholds
        exact meets_replace_reversible client hd (Bool.eq_false_iff.mpr hholds)

theorem meets_delete_reversible (client : Client τ)
    (hb : managed.binding = .ok b) :
    Meets reversible ((delete managed).lower client.serve) false Kept := by
  refine meets_delete hb (fun _ _ _ => kept_false _) fun options o => ?_
  show whenToDelete _ _ b _ (fetched b .deleteFetch o) false
  cases hfetched : fetched b .deleteFetch o with
  | error fault =>
      show if isNotFound fault then _ else _
      split <;> exact kept_false _
  | ok d =>
      obtain ⟨reply, -, hd⟩ := exists_reply_of_fetched hfetched
      show if d.holds b.role b.member then _ else _
      split
      · rename_i hholds
        exact meets_replace_reversible client hd hholds
      · exact kept_false _

theorem Deed.meets_program (client : Client τ) (hb : managed.binding = .ok b)
    (deed : Deed) :
    Meets reversible (deed.program client managed) false Kept := by
  cases deed with
  | observe =>
      refine meets_mono (fun o accepted h => ?_)
        (meets_observe_reversible client hb)
      rw [h]
      exact kept_false o
  | create => exact meets_create_reversible client hb
  | update => exact meets_create_reversible client hb
  | delete => exact meets_delete_reversible client hb

/-- What follows a success adds no failure. -/
private theorem kept_andThen_done {α β : Type} {o : Outcome α} {accepted : Bool}
    (f : α → β) (h : Kept o accepted) :
    andThen (reversible (τ := τ)) (fun a => .done (f a)) Kept o accepted := by
  cases o with
  | error fault =>
      intro haccepted
      obtain ⟨a, ha⟩ := h haccepted
      cases ha
  | ok a => exact kept_ok (f a) accepted

theorem meets_act_reversible (client : Client τ) (hb : managed.binding = .ok b)
    (found : Observation Bool) :
    Meets reversible (Connector.act client managed found) false Kept := by
  have hdeed (deed : Deed) (result : deed.Result → CycleResult Bool) :
      Meets reversible ((deed.program client managed).bind fun a =>
        .done (result a)) false Kept :=
    meets_bind.mpr (meets_mono (fun _ _ => kept_andThen_done result)
      (deed.meets_program client hb))
  unfold Connector.act
  split
  · split
    · exact hdeed .delete fun _ => ⟨.deleted, found⟩
    · exact kept_ok _ _
  · split
    · exact hdeed .create fun _ => ⟨.created, found⟩
    · split
      · exact hdeed .update fun _ => ⟨.updated, found⟩
      · exact kept_ok _ _

/-- **No operation fails after a set was accepted.** -/
theorem Operation.meets_program (op : Operation τ) :
    Meets reversible op.program false Kept := by
  cases hbinding : op.managed.binding with
  | error fault =>
      rw [program_of_error hbinding]
      exact kept_false _
  | ok b =>
      cases op with
      | verb client deed managed => exact deed.meets_program client hbinding
      | visit c deed managed =>
          refine meets_bind.mpr (Connector.meets_connect hbinding fun o => ?_)
          cases o with
          | error fault => exact kept_false _
          | ok reply => exact deed.meets_program _ hbinding
      | cycle c managed =>
          refine Connector.meets_reconcile hbinding fun o => ?_
          cases o with
          | error fault => exact kept_false _
          | ok reply =>
              refine meets_mono (fun o accepted h => ?_)
                (meets_observe_reversible _ hbinding)
              obtain rfl : accepted = false := h
              cases o with
              | error fault => exact kept_false _
              | ok found => exact meets_act_reversible _ hbinding found

/-! ## Worlds -/

/-- The store after all edits that happen, and nothing else. -/
def Store.editedBy (s : Store)
    (happenings : List (Happening τ (StorageCall τ) Json)) : Store :=
  (happenings.flatMap Happening.edits).foldl (fun s e => s.edited e.1 e.2) s

/-- One more happening edits what those before it left. -/
theorem Store.editedBy_take_succ (s : Store)
    (happenings : List (Happening τ (StorageCall τ) Json))
    (n : Nat) : s.editedBy (happenings.take (n + 1)) =
      ((happenings.drop n).headD .none).edits.foldl
      (fun s e => s.edited e.1 e.2) (s.editedBy (happenings.take n)) := by
  rw [editedBy, editedBy, List.take_add_one, List.flatMap_append,
    List.foldl_append]
  have hhead : (happenings.drop n).headD .none = happenings[n]?.getD .none := by
    rw [List.headD_eq_head?_getD, List.head?_drop]
  rw [hhead]
  cases happenings[n]? with
  | none => rfl
  | some h => simp

theorem Service.store_foldl_edit (edits : List (String × Option Json))
    (service : Service) :
    (edits.foldl (fun s e => (Service.remote τ).edit e.1 e.2 s) service).store =
      edits.foldl (fun s e => s.edited e.1 e.2) service.store := by
  induction edits generalizing service with
  | nil => rfl
  | cons e edits ih => exact ih _

namespace World

variable {w v : World τ (StorageCall τ) Json Service} {accepted : Bool}

/-- The second world comes from the first by calls.  As long as no set was
accepted, its store is what the happenings at these calls made of it. -/
structure Traces (w v : World τ (StorageCall τ) Json Service)
    (accepted : Bool) : Prop where
  made : w.made ≤ v.made
  happenings : v.happenings = w.happenings.drop (v.made - w.made)
  store : accepted = false →
    v.server.store =
      w.server.store.editedBy (w.happenings.take (v.made - w.made))

theorem traces_self (w : World τ (StorageCall τ) Json Service) :
    w.Traces w false := by
  refine ⟨le_refl _, ?_, fun _ => ?_⟩
  · rw [Nat.sub_self, List.drop_zero]
  · rw [Nat.sub_self, List.take_zero]
    rfl

variable [Seconds τ] {request : StorageCall τ}

theorem Traces.asked (h : w.Traces v accepted)
    (hr : (Service.remote τ).eventful request = true) :
    w.Traces (v.asked (Service.remote τ) request) accepted := by
  have hmade : (v.asked (Service.remote τ) request).made - w.made = v.made -
      w.made + 1 := by
    rw [made_asked, hr, if_pos rfl]
    have hle := h.made
    omega
  have hle : w.made ≤ (v.asked (Service.remote τ) request).made := by
    rw [made_asked]
    exact Nat.le_add_right_of_le h.made
  refine ⟨hle, ?_, fun hnone => ?_⟩
  · rw [asked_happenings, h.happenings, hmade, List.tail_drop]
  · rw [asked_server, Service.store_foldl_edit, hmade, Store.editedBy_take_succ,
      ← h.store hnone, upcoming, h.happenings]

omit [Seconds τ] in
/-- The state of the service matters for its store only. -/
theorem Traces.withServer {accepted' : Bool} (h : w.Traces v accepted)
    {server : Service}
    (hstore : accepted' = false → accepted = false ∧
      server.store = v.server.store) :
    w.Traces (v.withServer server) accepted' :=
  ⟨h.made, h.happenings,
    fun hnone => (hstore hnone).2.trans (h.store (hstore hnone).1)⟩

/-- To sign in changes nothing. -/
theorem Traces.connected (h : w.Traces v accepted) (account : Account) :
    w.Traces (v.served (Service.remote τ) (.connect account)).2 accepted := by
  have hmade : (v.served (Service.remote τ) (.connect account)).2.made =
      v.made :=
    made_served v (.connect account)
  refine ⟨?_, ?_, fun hnone => ?_⟩
  · rw [hmade]
    exact h.made
  · rw [hmade, served_uneventful rfl]
    exact h.happenings
  · rw [hmade, served_uneventful rfl]
    exact (Service.store_answer_connect v.server account).trans (h.store hnone)

/-- **A world goes along with every operation**, whatever happens in it. -/
theorem follows_reversible (w : World τ (StorageCall τ) Json Service) :
    Follows (Service.remote τ) reversible w.Traces where
  sees _ := trivial
  written _ h := ⟨h.made, h.happenings, h.store⟩
  noted _ h := ⟨h.made, h.happenings, h.store⟩
  served {v accepted request post} h hcall := by
    cases request with
    | connect account => exact ⟨accepted, hcall _, h.connected account⟩
    | get bucket version options =>
        have hasked : w.Traces (v.asked _ (.get bucket version options))
            accepted := h.asked rfl
        rw [served_eventful rfl]
        cases v.upcoming.reply? with
        | some reply => exact ⟨accepted, hcall _, hasked⟩
        | none => exact ⟨accepted, hcall _, hasked⟩
    | set bucket payload options =>
        obtain ⟨rfl, hback, hany, haccepted⟩ := hcall
        have hasked : w.Traces (v.asked _ (.set bucket payload options))
            false := h.asked rfl
        rw [served_eventful rfl]
        cases v.upcoming.reply? with
        | some reply => exact ⟨false, hany _, hasked⟩
        | none =>
            simp only [Service.answer_set]
            obtain ⟨fault, hset, -⟩ | ⟨stored, -, -, hset⟩ := Store.set_cases
              (v.asked (Service.remote τ)
                (.set bucket payload options)).server.store bucket payload
            · rw [hset]
              exact ⟨false, hany _, hasked⟩
            · rw [hset]
              exact ⟨true, haccepted _, hasked.withServer fun h => by cases h⟩

end World

/-! ## Commands -/

/-- What a command runs does not fail after a set was accepted either. -/
theorem CommandLine.Task.meets_program (t : Task) :
    Meets reversible t.program false Kept := by
  rw [CommandLine.Task.program]
  cases t.operation with
  | observe =>
      refine meets_bind.mpr (meets_mono (fun _ _ => kept_andThen_done _) ?_)
      exact (Operation.visit t.connector .observe
        (.member t.resource)).meets_program
  | ensure =>
      exact (Operation.cycle t.connector (.member t.resource)).meets_program
  | remove =>
      exact (Operation.cycle t.connector (.member t.resource)).meets_program

/-- A task begins without a call. -/
theorem CommandLine.Task.traces_begun
    {w v : World Float (StorageCall Float) Json Service}
    {accepted : Bool} {t : Task} (h : World.Traces (t.begun w) v accepted) :
    w.Traces v accepted :=
  ⟨h.made, h.happenings, h.store⟩

/-! ## Failures -/

/-- **What fails changed nothing.**  If an operation ends with a fault, then the
store is what the edits of other writers during its calls made of it, and no
write was accepted; the same goes for a command that ends with anything but
success.  Every policy that an operation sends can be read, under whatever etag
the store keeps it. -/
theorem store_untouched_of_failure [Seconds τ] (op : Operation τ)
    (w : World τ (StorageCall τ) Json Service) (env : Environment)
    (line : List String) (v : World Float (StorageCall Float) Json Service) :
    (∀ fault, (op.run w).1 = .error fault → (op.run w).2.server.store =
      w.server.store.editedBy
        (w.happenings.take ((op.run w).2.made - w.made))) ∧
    (∀ x ∈ w.exchanges (Service.remote τ) op.program, x.request.ReadsBack) ∧
    let ended := CommandLine.run (Service.remote Float) env line v
    (∀ output errors, ended.1 ≠ .exited 0 output errors) →
      ended.2.server.store =
        v.server.store.editedBy
          (v.happenings.take (ended.2.made - v.made)) := by
  refine ⟨fun fault hfails => ?_, ?_, fun hfails => ?_⟩
  · obtain ⟨accepted, hkept, htraces⟩ :=
      Program.meets_run (World.follows_reversible w) w.traces_self
        op.meets_program
    refine htraces.store (Bool.eq_false_iff.mpr fun haccepted => ?_)
    obtain ⟨a, ha⟩ := hkept haccepted
    rw [Operation.run, ha] at hfails
    cases hfails
  · exact Program.meets_exchanges (World.follows_reversible w) readsBack_of_call
      w.traces_self
      op.meets_program
  · unfold CommandLine.run at hfails ⊢
    cases hline : CommandLine.Task.ofLine env v.clock.wall line with
    | error ending => exact v.traces_self.store rfl
    | ok task =>
        rw [hline] at hfails
        obtain ⟨accepted, hkept, htraces⟩ := Program.meets_run
          (World.follows_reversible (task.begun v)) (task.begun v).traces_self
          task.meets_program
        refine (CommandLine.Task.traces_begun htraces).store
          (Bool.eq_false_iff.mpr fun haccepted => ?_)
        obtain ⟨result, hresult⟩ := hkept haccepted
        refine hfails (CommandLine.Ending.report result) "" ?_
        show CommandLine.Ending.ofOutcome
          (World.run _ task.program (task.begun v)).1 = _
        rw [hresult]
        rfl

/-- Right before the set of a cycle another writer replaces the policy, and then
that bucket's neighbour. -/
def forestalled : World Int (StorageCall Int) Json Service :=
  { World.around 0 [("b", .obj [("etag", .str "1")]), ("n", .obj [])] with
    happenings := [.none, .none,
      ⟨none, none,
        [("b", some (.obj [("etag", .str "2")])), ("n", none)], none⟩] }

theorem store_untouched_of_failure_forestalled :
    let op : Operation Int := .cycle ⟨⟨"p", .given .null, none⟩, 30, ""⟩
      (.member (.declaring "m" ⟨"b", "r", "u:a"⟩ false))
    (∃ cause, (op.run forestalled).1 =
      .error (.writeConflict "create-write" cause)) ∧
      (op.run forestalled).2.server.store =
        ⟨[("b", .obj [("etag", .str "2")])], 0⟩ := by
  intro op
  have hfails : (op.run forestalled).1 = .error (.writeConflict "create-write"
      (.client .versionConflict
        "Failed to set IAM policy of bucket 'b'.")) := by
    cbv
  have hstore :=
    (store_untouched_of_failure op forestalled {} [] (.around 0 [])).1 _ hfails
  refine ⟨⟨_, hfails⟩, hstore.trans ?_⟩
  cbv

end GrantKeeper
