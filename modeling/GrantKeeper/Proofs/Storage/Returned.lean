import Mathlib
import GrantKeeper.Proofs.Cycle.Served
import GrantKeeper.Proofs.Policy.Rereading
import GrantKeeper.Proofs.Storage.World

/-!
# What was written comes back

A policy that was fetched and amended, and whose roles and members are texts,
can be written.  What is sent are the entries of its written form, sorted by
their roles: the conditional ones, which stand last in the written form, move to
the entries of their role.  If the store accepts it, the reply and every later
fetch say the same as the policy, under the etag that the store gave it; only a
grant of the empty role is lost, since entries without a role are skipped when
they are read.

## Main results

* `Policy.IsTextual.exists_encode` — with texts, a policy has a written form.
* `Policy.IsTextual.same_settledGrants` — settling the grants loses those of the
  empty role, and no others.
* `read_your_writes` — what is sent, what is returned, and what is fetched after
  it.
-/

namespace GrantKeeper

open Policy

/-! ## Texts -/

/-- Texts can be sorted. -/
theorem Json.exists_sort_of_isStr {xs : List Json}
    (h : ∀ x ∈ xs, x.isStr = true) : ∃ sorted, Json.sort xs = .ok sorted := by
  have hall : (xs.map id).all isStr = true := by
    rw [List.map_id]
    exact List.all_eq_true.mpr h
  exact ⟨_, by rw [Json.sort, sorted?, sortedBy?_of_strings hall]⟩

theorem Json.isKey_of_isStr {x : Json} (h : x.isStr = true) :
    x.isKey = true := by
  cases x with
  | str s => rfl
  | _ => cases h

namespace Policy

variable {d : Policy}

/-- All roles, and all members of the grants, are texts. -/
structure IsTextual (d : Policy) : Prop where
  roles : ∀ r ∈ d.roles, r.isStr = true
  members : ∀ e ∈ d.grants, ∀ m ∈ e.2, m.isStr = true

instance : Decidable d.IsTextual :=
  decidable_of_iff ((∀ r ∈ d.roles, r.isStr = true) ∧ ∀ e ∈ d.grants,
    ∀ m ∈ e.2, m.isStr = true)
    ⟨fun h => ⟨h.1, h.2⟩, fun h => ⟨h.1, h.2⟩⟩

private theorem exists_encodeEntries {g : Grants}
    (h : ∀ e ∈ g, ∀ m ∈ e.2, m.isStr = true) :
    ∃ entries, encodeEntries g = .ok entries := by
  induction g with
  | nil => exact ⟨[], rfl⟩
  | cons e rest ih =>
      obtain ⟨entries, hentries⟩ :=
        ih fun e he => h e (List.mem_cons_of_mem _ he)
      obtain ⟨sorted, hsorted⟩ :=
        Json.exists_sort_of_isStr (h e List.mem_cons_self)
      unfold encodeEntries
      split
      · exact ⟨entries, hentries⟩
      · simp only [encodeEntry, hsorted, hentries, bind, Except.bind, pure,
          Except.pure]
        exact ⟨_, rfl⟩

/-- **With texts, a policy has a written form.** -/
theorem IsTextual.exists_encode (h : d.IsTextual) :
    ∃ value, d.encode = .ok value := by
  have hall : (d.grants.map Prod.fst).all Json.isStr = true :=
    List.all_eq_true.mpr fun r hr => h.roles r (List.mem_append_left _ hr)
  have hordered := Json.sortedBy?_of_strings hall
  obtain ⟨entries, hentries⟩ := exists_encodeEntries fun e he =>
    h.members e ((Json.sortedBy?_perm hordered).mem_iff.mp he)
  rw [encode_eq, hordered]
  simp only [hentries, Except.map]
  exact ⟨_, rfl⟩

/-- **Settling the grants loses those of the empty role, and no others.** -/
theorem IsTextual.same_settledGrants (h : d.IsTextual) :
    (d.grants.remove (.str "")).same d.settledGrants = true := by
  have hrole : ∀ e ∈ d.grants, e.1.isStr = true :=
    fun e he => h.roles e.1 (List.mem_append_left _ (List.mem_map_of_mem he))
  have hremove : d.grants.remove (.str "") = d.grants.filter (·.1.truthy) := by
    refine List.filter_congr fun e he => ?_
    have hstr := hrole e he
    cases hname : e.1 with
    | str s =>
        rw [Json.truthy_str, bne, Bool.not_inj_iff, Bool.eq_iff_iff,
          Json.same_str_left_iff, beq_iff_eq, Json.str.injEq]
    | _ =>
        rw [hname] at hstr
        cases hstr
  have hperm : ((inOrder roleOf d.grants).filter (·.1.truthy)).Perm
      (d.grants.filter (·.1.truthy)) :=
    (inOrder_perm roleOf d.grants).filter _
  rw [hremove, settledGrants, Grants.same, Bool.and_eq_true, beq_iff_eq,
    List.length_map, List.all_eq_true]
  refine ⟨hperm.length_eq.symm, fun e he => ?_⟩
  have hin := (List.mem_filter.mp he).1
  obtain ⟨sorted, hsorted⟩ := Json.exists_sort_of_isStr (h.members e hin)
  have hsettled : e.2.settled = sorted := by
    rw [Keys.settled, hsorted]
    rfl
  refine List.any_eq_true.mpr
    ⟨(e.1, e.2.settled), List.mem_map_of_mem (hperm.mem_iff.mpr he), ?_⟩
  rw [Bool.and_eq_true, hsettled]
  exact ⟨Json.same_self_of_isKey (Json.isKey_of_isStr (hrole e hin)),
    Keys.same_of_perm (fun m hm => Json.isKey_of_isStr (h.members e hin m hm))
      (Json.sort_perm hsorted)⟩

/-- A policy that went to a store and came back: the etag is new, grants of the
empty role are gone, and all else is the same. -/
structure ComesBackAs (d returned : Policy) (etag : Json) : Prop where
  etag : returned.etag = etag
  version : returned.version = d.version
  grants : ∃ grants, returned.grants? = some grants ∧
    (d.grants.remove (.str "")).same grants = true
  conditional : returned.conditional = d.conditional

end Policy

/-! ## The client -/

namespace Client

variable {τ : Type}

/-- What a client makes of the reply to a call. -/
def received (verb bucket : String) : Outcome Json → Outcome Policy
  | .ok reply => Outcome.ofShape (policyOf reply)
  | .error fault => .error (reported verb bucket fault)

theorem exchange_eq (verb bucket : String) (request : StorageCall τ) :
    exchange verb bucket request = .call request fun o =>
      .ofOutcome (received verb bucket o) := by
  refine congrArg (Program.call request) (funext fun o => ?_)
  cases o <;> rfl

/-- A policy with an etag that can be written is sent with one call. -/
theorem replace_eq {d : Policy} {payload : Json} (hetag : d.etag.truthy = true)
    (hpayload : payloadOf d = .ok payload) (client : Client τ) (bucket : String)
    (timeout? : Option (Timeout τ)) :
    client.replace bucket d timeout? =
      .call (.set bucket payload (client.options timeout?))
      fun o => .ofOutcome (received "set" bucket o) := by
  rw [replace, if_pos hetag, hpayload, ← exchange_eq]
  rfl

variable [Seconds τ]

/-- A program that makes one call and takes the reply ends with what it makes of
the reply. -/
theorem run_received {α : Type} (w : World τ (StorageCall τ) Json Service)
    (request : StorageCall τ) (f : Outcome Json → Outcome α) :
    w.run (Service.remote τ) (.call request fun o => .ofOutcome (f o)) =
      (f (w.served (Service.remote τ) request).1,
        (w.served (Service.remote τ) request).2) := by
  show World.run _ (Program.ofOutcome _) _ = _
  cases f (w.served (Service.remote τ) request).1 <;> rfl

/-- A policy that was fetched was read off a reply. -/
theorem exists_policyOf_of_fetch {w : World τ (StorageCall τ) Json Service}
    {client : Client τ}
    {bucket : String} {timeout? : Option (Timeout τ)} {d : Policy}
    (h : (w.run (Service.remote τ) (client.fetch bucket timeout?)).1 = .ok d) :
    ∃ reply, policyOf reply = .ok d := by
  rw [fetch, exchange_eq, run_received] at h
  simp only at h
  generalize (w.served (Service.remote τ) _).1 = o at h
  cases o with
  | error fault => cases h
  | ok reply => exact ⟨reply, Outcome.ofShape_eq_ok_iff.mp h⟩

end Client

/-! ## Writing and reading back -/

section

variable {τ : Type} [Seconds τ] {d : Policy} {b : Binding} {removal : Bool}

/-- What is sent for a settled policy with texts are the entries of its written
form, sorted by role. -/
theorem exists_payloadOf_of_isTextual (hsettled : d.IsSettled)
    (htexts : d.IsTextual) : ∃ (entries : List Fields) (payload : Json),
      d.encode = .ok (assembled d.etag d.version (entries.map .obj)) ∧
      payload = assembled d.etag d.version
        ((inOrder entryRole entries).map .obj) ∧
      (d.conditional = [] → d.encode = .ok payload) ∧
      Client.payloadOf d = .ok payload := by
  obtain ⟨value, hvalue⟩ := htexts.exists_encode
  obtain ⟨plain, aside, hwritten⟩ := hsettled.exists_rows hvalue
  have hname : ∀ row ∈ plain ++ aside,
      entryRole row.fields = row.name := fun row _ => rfl
  refine ⟨(plain ++ aside).map Row.fields,
    Row.form d.etag d.version (inOrder Row.name (plain ++ aside)), ?_, ?_,
    fun hnone => ?_,
    Client.payloadOf_eq hwritten htexts.roles⟩
  · rw [hwritten.encode, Row.form, List.map_map]
    rfl
  · rw [← map_inOrder hname, Row.form, List.map_map]
    rfl
  · have haside : aside = [] :=
      List.map_eq_nil_iff.mp (hwritten.conditional.symm.trans hnone)
    rw [hwritten.encode, haside, List.append_nil,
      inOrder_of_pairwise (hwritten.pairwise_plain htexts.roles)]

/-- **A client reads what it wrote.**  A policy that was fetched and amended,
and whose roles and members are texts, is sent as the entries of its written
form in the order of their roles.  If the store accepts it, then the policy
comes back, and every later fetch returns what came back, as long as nobody else
writes. -/
theorem read_your_writes {client : Client τ} {source : String}
    {early? : Option (Timeout τ)} {u : World τ (StorageCall τ) Json Service}
    (hread : (u.run (Service.remote τ) (client.fetch source early?)).1 = .ok d)
    (hetag : (d.amended b removal).etag.truthy = true)
    (htexts : (d.amended b removal).IsTextual)
    (bucket : String) (timeout? : Option (Timeout τ))
    (w : World τ (StorageCall τ) Json Service) :
    let wanted := d.amended b removal
    let run := w.run (Service.remote τ) (client.replace bucket wanted timeout?)
    ∃ (entries : List Fields) (payload : Json),
      wanted.encode =
        .ok (assembled wanted.etag wanted.version (entries.map .obj)) ∧
      payload = assembled wanted.etag wanted.version
        ((inOrder entryRole entries).map .obj) ∧
      (wanted.conditional = [] → wanted.encode = .ok payload) ∧
      let request := .set bucket payload (client.options timeout?)
      run.2.calls = w.calls ++ [request] ∧
      ∀ reply store, w.upcoming.reply? = none →
        (w.asked (Service.remote τ) request).server.store.set bucket payload =
          (.ok reply, store) →
        ∃ returned, run.1 = .ok returned ∧ run.2.server.store = store ∧
          wanted.ComesBackAs returned (Store.etagOf store.writes) ∧
          ∀ (reader : Client τ) (late? : Option (Timeout τ))
            (v : World τ (StorageCall τ) Json Service),
            v.upcoming.reply? = none →
            (v.asked (Service.remote τ) (.get bucket Client.policyVersion
              (reader.options late?))).server.store.policy? bucket =
                store.policy? bucket →
            (v.run (Service.remote τ) (reader.fetch bucket late?)).1 =
              .ok returned := by
  intro wanted run
  obtain ⟨stored, hstored⟩ := Client.exists_policyOf_of_fetch hread
  have hsettled : wanted.IsSettled :=
    (Client.isSettled_policyOf hstored).amended b removal
  obtain ⟨entries, payload, hencode, hsorted, hplain, hpayload⟩ :=
    exists_payloadOf_of_isTextual hsettled htexts
  have hrun : run = _ := congrArg (World.run (Service.remote τ) · w)
    (Client.replace_eq hetag hpayload client bucket timeout?)
  rw [Client.run_received] at hrun
  refine ⟨entries, payload, hencode, hsorted, hplain, ?_,
    fun reply store hreply haccepted => ?_⟩
  · rw [hrun]
    exact World.calls_served _ _ _
  obtain ⟨fault, hset, -⟩ | ⟨held, -, -, hset⟩ :=
    Store.set_cases
      (w.asked (Service.remote τ)
        (.set bucket payload (client.options timeout?))).server.store
        bucket payload
  · rw [hset] at haccepted
    cases haccepted
  rw [hset] at haccepted
  cases haccepted
  have hback := Client.policyOf_stamped hsettled htexts.roles hpayload
  rw [World.served_eventful rfl, hreply] at hrun
  simp only [Service.answer_set, hset, Client.received, hback] at hrun
  refine ⟨_, congrArg Prod.fst hrun, congrArg (·.2.server.store) hrun,
    ⟨rfl, rfl, ⟨_, rfl, htexts.same_settledGrants⟩, rfl⟩,
    fun reader late? v hcalm hheld => ?_⟩
  rw [Store.policy?_accepted, if_pos rfl] at hheld
  rw [Client.fetch, Client.exchange_eq, Client.run_received,
    World.served_eventful rfl, hcalm]
  simp only [Service.answer_get, Store.get_of_policy? hheld,
    Client.received, hback]
  rfl

end

/-- A world with one policy that has a conditional entry. -/
def filed : World Int (StorageCall Int) Json Service :=
  .around 0 [("b", .obj [("etag", .str "1"), ("bindings", .arr [
    .obj [("role", .str "r/2"), ("members", .arr [.str "u:b"])],
    .obj [("role", .str "r/1"), ("members", .arr [.str "u:a"]),
      ("condition", .obj [("title", .str "t")])]])])]

/-- What is fetched of it. -/
def filedPolicy : Policy where
  etag := .str "1"
  version := .null
  grants? := some [(.str "r/2", [.str "u:b"])]
  conditional := [[("role", .str "r/1"), ("members", .arr [.str "u:a"]),
    ("condition", .obj [("title", .str "t")])]]

/-- The client at hand. -/
abbrev filer : Client Int := ⟨30⟩

theorem fetch_filed :
    (filed.run (Service.remote Int) (filer.fetch "b" none)).1 =
      .ok filedPolicy := by
  cbv

theorem read_your_writes_filed :
    let wanted := filedPolicy.amended ⟨"b", "r/3", "u:c"⟩ false
    let run := filed.run (Service.remote Int) (filer.replace "b" wanted none)
    ∃ returned, run.1 = .ok returned ∧
      wanted.ComesBackAs returned (.str "etag-1") ∧
      (run.2.run (Service.remote Int) (filer.fetch "b" none)).1 =
        .ok returned := by
  have hcalm : (filed.run (Service.remote Int) (filer.replace "b"
      (filedPolicy.amended ⟨"b", "r/3", "u:c"⟩ false) none)).2.upcoming =
        .none := by
    cbv
  intro wanted run
  have htexts : wanted.IsTextual := by
    decide
  obtain ⟨entries, payload, -, hpayload, -, -, haccepted⟩ :=
    read_your_writes fetch_filed (by decide) htexts "b" none filed
  have hetag : payload.get "etag" = .str "1" := by
    rw [hpayload]
    exact get_etag_assembled _ _ _
  have hsame : (Json.str "1").equals (payload.get "etag") = true := by
    rw [hetag]
    decide
  have hset : filed.server.store.set "b" payload = _ :=
    Store.set_of_equals rfl (by decide) hsame
  obtain ⟨returned, hreturned, hstore, hback, hfetch⟩ := haccepted _ _ rfl hset
  have hlabel : Store.etagOf 1 = .str "etag-1" := by
    cbv
  refine ⟨returned, hreturned, hlabel ▸ hback, hfetch filer none run.2 ?_ ?_⟩
  · rw [hcalm]
    rfl
  · rw [World.asked_server, hcalm]
    exact congrArg (·.policy? "b") hstore

/-- An entry moves, and a grant of the empty role is lost. -/
theorem entry_moved_and_grant_lost :
    let moved := filedPolicy.amended ⟨"b", "r/3", "u:c"⟩ false
    let lost := filedPolicy.amended ⟨"b", "", "u:c"⟩ false
    (filed.run (Service.remote Int) (filer.fetch "b" none)).1 =
      .ok filedPolicy ∧
      (filedPolicy.etag.truthy = true ∧ moved.IsTextual ∧ lost.IsTextual) ∧
      (∃ value, moved.encode = .ok value ∧
        (filed.run (Service.remote Int)
          (filer.replace "b" moved none)).2.calls ≠
          [.set "b" value (filer.options none)]) ∧
      ∃ returned,
        (filed.run (Service.remote Int) (filer.replace "b" lost none)).1 =
          .ok returned ∧
          lost.grants.same returned.grants = false := by
  intro moved lost
  have hform : moved.encode = .ok (.obj [("etag", .str "1"), ("bindings", .arr [
      .obj [("role", .str "r/2"), ("members", .arr [.str "u:b"])],
      .obj [("role", .str "r/3"), ("members", .arr [.str "u:c"])],
      .obj [("role", .str "r/1"), ("members", .arr [.str "u:a"]),
        ("condition", .obj [("title", .str "t")])]])]) := by
    cbv
  have hsent :
      (filed.run (Service.remote Int) (filer.replace "b" moved none)).2.calls =
        [.set "b" (.obj [("etag", .str "1"), ("bindings", .arr [
          .obj [("role", .str "r/1"), ("members", .arr [.str "u:a"]),
            ("condition", .obj [("title", .str "t")])],
          .obj [("role", .str "r/2"), ("members", .arr [.str "u:b"])],
          .obj [("role", .str "r/3"), ("members", .arr [.str "u:c"])]])])
            (filer.options none)] := by
    cbv
  have hreturned :
      (filed.run (Service.remote Int) (filer.replace "b" lost none)).1 =
        .ok { filedPolicy with etag := .str "etag-1" } := by
    cbv
  refine ⟨fetch_filed, by decide, ⟨_, hform, ?_⟩, ⟨_, hreturned, ?_⟩⟩
  · rw [hsent]
    simp
  · cbv

end GrantKeeper
