import GrantKeeper.CommandLine.Run
import GrantKeeper.Proofs.Cycle.Alike
import GrantKeeper.Proofs.Resource.Declared
import GrantKeeper.Proofs.Storage.Stopped

/-!
# A command does what its operation does

Once a command line is read, and resource and connector are made, the command is
a cycle on that resource, or a look at it, under a context with the time that
the line gives.  So it makes the calls that the same operation makes when
somebody runs it by hand, and leaves the same store.  What it adds is its
ending: it prints what was done and found, or names the place where the
operation stopped.

## Main results

* `Task.exists_declares` — the resource of a command declares what its options
  say.
* `Ending.report_eq` — what a command prints.
* `command_agrees` — a command does what its operation does.
-/

namespace GrantKeeper

namespace CommandLine

/-! ## The resource of a command -/

namespace Task

/-- **The resource of a command declares what its options say**: the texts given
for bucket, role and member. -/
theorem exists_declares {now : Outcome Time.Timestamp} {o : Options}
    {r : Resource}
    (h : Resource.make now (resourceFields o) = .ok r) : ∃ b : Binding,
      o.bucket = .str b.resource ∧ o.role = .str b.role ∧
      o.member = .str b.member ∧
        r.Declares b ∧ r.wantsRemoval = (o.operation == .remove) := by
  have hfields : Resource.ofFields default (resourceFields o) = .ok r :=
    mapError_eq_ok_iff.mp h
  obtain ⟨p, conditions, deletion, hfrom⟩ := Resource.exists_madeFrom hfields
  obtain ⟨_, _, hspec, hparameters, hp⟩ := hfrom.parameters
  cases hspec
  cases hparameters
  obtain ⟨⟨hbucket, -⟩, ⟨hrole, -⟩, ⟨hmember, -⟩, -⟩ :=
    Parameters.check_eq_ok_iff.mp hp
  refine ⟨⟨p.bucket, p.role, p.member⟩, Option.some.inj hbucket,
    Option.some.inj hrole, Option.some.inj hmember, hfrom.declares, ?_⟩
  have hdeletion : (o.operation == .remove) = deletion :=
    Except.ok.inj hfrom.deletion
  rw [Resource.wantsRemoval, hfrom.deletionRequested, hdeletion]
  rfl

/-- The resource among the parts of a task is the one that its options
describe. -/
theorem make_of_parts {env : Environment} {now : Outcome Time.Timestamp}
    {o : Options} {config : Json}
    {resource : Resource} {c : Connector Float}
    (h : parts env now o config = .ok (resource, c)) :
    Resource.make now (resourceFields o) = .ok resource := by
  obtain ⟨made, hmade, hrest⟩ := exists_of_bind_eq_ok h
  obtain ⟨connector, -, hpair⟩ := exists_of_bind_eq_ok hrest
  cases hpair
  exact hmade

/-- Once everything else on a command line is good, only its time is left to be
looked at. -/
theorem ofLine_eq {env : Environment} {now : Outcome Time.Timestamp}
    {line : List String} {o : Options}
    {config : Json} {resource : Resource} {c : Connector Float}
    (hread : Options.read env.platform.dialect line = .ok o)
    (hconfig : configOf env o = .ok config)
    (hparts : parts env now o config = .ok (resource, c)) :
    ofLine env now line =
      (timeoutOf o).map fun timeout? =>
        ⟨resource, c, timeout?, o.operation⟩ := by
  rw [ofLine, hread]
  show Except.bind (configOf env o) _ = _
  rw [hconfig]
  show Except.bind ((parts env now o config).mapError Ending.ofRefusal) _ = _
  rw [hparts]
  show Except.bind (timeoutOf o) _ = _
  cases timeoutOf o <;> rfl

end Task

/-! ## The ending of a command -/

/-- A yes or no as JSON has it. -/
def truthText (b : Bool) : String := if b then "true" else "false"

/-- The report of what was done and found. -/
def printed (action : Action) (found : Observation Bool) : String :=
  "\x7b\n  \"action\": \"" ++ action.text ++ "\",\n  \"resource_exists\": " ++
    truthText found.present ++
    ",\n  \"resource_up_to_date\": " ++ truthText found.upToDate ++ "\n\x7d\n"

/-- **What a command prints.** -/
theorem Ending.report_eq (result : CycleResult Bool) :
    report result = printed result.action result.observation := by
  obtain ⟨action, ⟨present, upToDate⟩⟩ := result
  cases action <;> cases present <;> cases upToDate <;> decide

/-! ## Agreement -/

/-- Somebody does by hand, in the second world, what a command does in the
first: under a context with the time that the command has, which is cancelled
when that of the command is. -/
structure ByHand (w : World Float (StorageCall Float) Json Service)
    (timeout? : Option Float)
    (u : World Float (StorageCall Float) Json Service) : Prop where
  clock : u.clock = w.clock
  server : u.server = w.server
  context : u.running? = some (match timeout? with
    | some time => .lasting w.clock.now time
    | none => .background)
  happenings : u.happenings = w.happenings
  hits : ∀ h ∈ w.happenings, u.hits h = (h.cancel? == some Task.contextName)

/-- The command ended as the operation does by hand: after the same calls, with
the same store, and with a report of what it returned, or of the place where it
stopped. -/
structure EndsLike (w : World Float (StorageCall Float) Json Service)
    (ended : Ending × World Float (StorageCall Float) Json Service)
    (op : GrantKeeper.Operation Float)
    (u : World Float (StorageCall Float) Json Service)
    (print : op.Result → String) : Prop where
  calls : ∃ made,
    ended.2.calls = w.calls ++ made ∧ (op.run u).2.calls = u.calls ++ made
  store : ended.2.server.store = (op.run u).2.server.store
  returned : ∀ result,
    (op.run u).1 = .ok result → ended.1 = .exited 0 (print result) ""
  failed : ∀ fault, (op.run u).1 = .error fault → fault.isOwn = true →
    ∃ errors place, ended.1 = .exited 1 "" errors ∧
      StopsAt op.stages (u.transcript (Service.remote Float) op.program)
        fault place ∧
      place.toList <:+: errors.toList

theorem ByHand.alike {w u : World Float (StorageCall Float) Json Service}
    {t : Task} (h : ByHand w t.timeout? u) : u.Alike (t.begun w) where
  clock := h.clock
  server := h.server
  running := h.context
  happenings := h.happenings
  hits := by
    intro happening hin
    rw [h.hits happening hin]
    show _ = happening.cancel?.any fun name =>
      some Task.contextName == some name
    cases happening.cancel? with
    | none => rfl
    | some name => exact BEq.comm

/-- Whose program is run in a world that looks alike, and reported, ends like
it. -/
theorem endsLike_of_alike
    {w start u : World Float (StorageCall Float) Json Service}
    (hcalls : start.calls = w.calls) (halike : u.Alike start)
    (hforeign : u.IsForeign)
    (op : GrantKeeper.Operation Float) {b : Binding}
    (hb : op.managed.binding = .ok b)
    (summary : op.Result → CycleResult Bool) {print : op.Result → String}
    (hprint : ∀ result, Ending.report (summary result) = print result) :
    EndsLike w (Ending.ofOutcome ((op.run start).1.map summary),
      (op.run start).2) op u print := by
  obtain ⟨houtcome, hsaid, hend⟩ := halike.run (Service.remote Float) op.program
  have houtcome : (op.run u).1 = (op.run start).1 := houtcome
  rw [← houtcome]
  refine ⟨⟨(u.transcript (Service.remote Float) op.program).map Prod.fst, ?_,
    ?_⟩, ?_, ?_, ?_⟩
  · rw [hsaid, ← hcalls]
    exact World.calls_transcript _ _ _
  · exact World.calls_transcript _ _ _
  · exact congrArg Service.store hend.server.symm
  · intro result hreturns
    rw [hreturns]
    exact congrArg (Ending.exited 0 · "") (hprint result)
  · intro fault hfails hown
    obtain ⟨place, hstops, before, after, hnames⟩ :=
      Operation.exists_stopsAt (Clock.isOwn_of_wall Seconds.isOwn_of_micros) hb
        hforeign hfails hown
    rw [hfails]
    refine ⟨"Operation failed" ++ ": " ++ fault.text ++ "\n", place,
      if_pos hown, hstops, ?_⟩
    refine ⟨"Operation failed: ".toList ++ before, after ++ ['\n'], ?_⟩
    rw [String.toList_append, String.toList_append,
      String.toList_append, ← hnames]
    simp only [List.append_assoc]
    rfl

namespace Task

variable {t : Task} {r : Resource}
  {w u : World Float (StorageCall Float) Json Service}

theorem calls_begun (t : Task) : (t.begun w).calls = w.calls := rfl

/-- How a task ends in a world. -/
def ends (t : Task) (w : World Float (StorageCall Float) Json Service) :
    Ending × World Float (StorageCall Float) Json Service :=
  (Ending.ofOutcome ((t.begun w).run (Service.remote Float) t.program).1,
    ((t.begun w).run (Service.remote Float) t.program).2)

/-- To observe is to look and never to write. -/
theorem endsLike_observe {b : Binding} (hobserve : t.operation = .observe)
    (hu : ByHand w t.timeout? u)
    (hforeign : u.IsForeign) (hr : r.Declares b) (ht : t.resource.Declares b) :
    (t.ends w).2.sets = w.sets ∧
    EndsLike w (t.ends w) (.visit t.connector .observe (.member r)) u
      fun found => printed .none found := by
  have hprogram : t.program =
      (t.connector.observe (.member r)).bind fun found =>
        .done ⟨.none, found⟩ := by
    rw [program, hobserve,
      t.connector.observe_congr (hr.binding.trans ht.binding.symm)]
    rfl
  rw [ends, hprogram, World.run_bind_done]
  refine ⟨?_, ?_⟩
  · have hreads := Program.meets_transcript (Service.remote Float)
      (fun _ => True) (fun _ => trivial)
      (Connector.meets_observe_reads hr.binding t.connector) (t.begun w)
    have hnone : (((t.begun w).transcript (Service.remote Float)
        (t.connector.observe (.member r))).map Prod.fst).countP
        StorageCall.isSet = 0 := by
      rw [List.countP_map]
      exact List.countP_eq_zero.mpr fun e he =>
        Bool.eq_false_iff.mp (hreads e he)
    rw [World.sets, World.calls_transcript, List.countP_append, hnone]
    rfl
  · exact endsLike_of_alike t.calls_begun hu.alike hforeign
      (.visit t.connector .observe (.member r))
      hr.binding (fun found => ⟨.none, found⟩) fun found =>
        Ending.report_eq ⟨.none, found⟩

/-- To do anything else is to run a cycle. -/
theorem endsLike_cycle {b : Binding} (hoperation : t.operation ≠ .observe)
    (hu : ByHand w t.timeout? u)
    (hforeign : u.IsForeign) (hr : r.Declares b) (ht : t.resource.Declares b)
    (hremoval : r.wantsRemoval = t.resource.wantsRemoval) :
    EndsLike w (t.ends w) (.cycle t.connector (.member r)) u fun result =>
      printed result.action result.observation := by
  have hprogram : t.program = t.connector.reconcile (.member r) := by
    rw [t.connector.reconcile_congr (hr.binding.trans ht.binding.symm) hremoval,
      program]
    cases ho : t.operation with
    | observe => exact absurd ho hoperation
    | ensure => rfl
    | remove => rfl
  have hends : t.ends w = (Ending.ofOutcome
      (((GrantKeeper.Operation.cycle t.connector (.member r)).run
        (t.begun w)).1.map id),
      ((GrantKeeper.Operation.cycle t.connector (.member r)).run
        (t.begun w)).2) := by
    rw [ends, hprogram, Except.map_id]
    rfl
  rw [hends]
  exact endsLike_of_alike t.calls_begun hu.alike hforeign
    (.cycle t.connector (.member r)) hr.binding id
    Ending.report_eq

end Task

/-- **A command does what its operation does.**  Take a command line that is
read, and for which resource and connector are made, and a world that raises
nothing of the program's own.  If there is no time that the line gives, nobody
is called.  Otherwise the resource is the one that the options describe.
Whoever runs a cycle for any such resource, under a context with that time,
makes the calls that the command makes, and leaves the same store; to observe is
to look and never to write.  The command prints what was returned, or else,
where the fault is one of the program's own, the place where it stopped. -/
theorem command_agrees {env : Environment} {line : List String} {o : Options}
    {config : Json} {resource : Resource} {c : Connector Float}
    {w : World Float (StorageCall Float) Json Service}
    (hread : Options.read env.platform.dialect line = .ok o)
    (hconfig : Task.configOf env o = .ok config)
    (hparts : Task.parts env w.clock.wall o config = .ok (resource, c))
    (hforeign : w.IsForeign) :
    let ended := run (Service.remote Float) env line w
    (∀ ending, Task.timeoutOf o = .error ending → ended = (ending, w)) ∧
    ∃ b : Binding, o.bucket = .str b.resource ∧ o.role = .str b.role ∧
      o.member = .str b.member ∧
      ∀ timeout? r u, Task.timeoutOf o = .ok timeout? → r.Declares b →
        r.wantsRemoval = (o.operation == .remove) → ByHand w timeout? u →
        (o.operation = .observe → ended.2.sets = w.sets ∧
          EndsLike w ended (.visit c .observe (.member r)) u fun found =>
            printed .none found) ∧
        (o.operation ≠ .observe →
          EndsLike w ended (.cycle c (.member r)) u fun result =>
          printed result.action result.observation) := by
  intro ended
  have hline := Task.ofLine_eq hread hconfig hparts
  refine ⟨fun ending htimeout => ?_, ?_⟩
  · rw [htimeout] at hline
    show run _ _ _ _ = _
    rw [run, hline]
    rfl
  obtain ⟨b, hbucket, hrole, hmember, hdeclares, hremoval⟩ :=
    Task.exists_declares (Task.make_of_parts hparts)
  refine ⟨b, hbucket, hrole, hmember,
    fun timeout? r u htimeout hr hwants hu => ?_⟩
  have hended : ended = Task.ends ⟨resource, c, timeout?, o.operation⟩ w := by
    rw [htimeout] at hline
    show run _ _ _ _ = _
    rw [run, hline]
    rfl
  have hforeign' : u.IsForeign :=
    ⟨fun h hh => hforeign.reply h (hu.happenings ▸ hh),
      fun fault => hu.server ▸ hforeign.refusal fault⟩
  rw [hended]
  exact ⟨fun hobserve =>
    Task.endsLike_observe hobserve hu hforeign' hr hdeclares, fun hoperation =>
      Task.endsLike_cycle hoperation hu hforeign' hr hdeclares
        (hwants.trans hremoval.symm)⟩

/-- A command that has half a minute. -/
def hastyLine : List String :=
  ["-b", "b", "-r", "r", "-m", "u:a", "-t", "30", "ensure"]

/-- The environment names a project. -/
def projectNamed : Environment :=
  { assigned := [("GOOGLE_CLOUD_PROJECT", "p")] }

/-- The two gets of a cycle take longer than half a minute. -/
def slowWorld : World Float (StorageCall Float) Json Service :=
  { World.around 0.0 [("b", .obj [("etag", .str "1")])] with
    happenings := [⟨some 10.0, none, [], none⟩, ⟨some 25.0, none, [], none⟩] }

/-- The same world, in which somebody has a context and a resource of their
own. -/
def slowByHand : World Float (StorageCall Float) Json Service :=
  { slowWorld with
    contexts := [("mine", .lasting 0.0 30.0)], current? := some "mine" }

/-- What somebody does by hand instead of the command. -/
def hastyCycle : GrantKeeper.Operation Float :=
  .cycle ⟨⟨"p", .given .null, none⟩, 60.0, "policybind"⟩
    (.member (.declaring "mine" ⟨"b", "r", "u:a"⟩ false))

theorem command_agrees_hasty :
    (hastyCycle.run slowByHand).1 = .error (.cancelled "create-write") ∧
    ∃ errors place,
      (run (Service.remote Float) projectNamed hastyLine slowWorld).1 =
        .exited 1 "" errors ∧
      StopsAt hastyCycle.stages
        (slowByHand.transcript (Service.remote Float) hastyCycle.program)
        (.cancelled "create-write") place ∧
        place.toList <:+: errors.toList := by
  have hcancelled (o : Outcome (CycleResult Bool))
      (h : (match o with | .error (.cancelled stage) => stage | _ => "") =
        "create-write") :
      o = .error (.cancelled "create-write") := by
    split at h
    · rw [h]
    · exact absurd h (by decide)
  have hfails := hcancelled (hastyCycle.run slowByHand).1 (by decide +kernel)
  have hparts : Task.parts projectNamed slowWorld.clock.wall
      ⟨.str "b", .str "r", .str "u:a", .str "\x7b\x7d", .float 30.0, .ensure⟩
      (.obj []) =
        .ok (.declaring "b-r-u:a" ⟨"b", "r", "u:a"⟩ false,
          ⟨⟨"p", .given .null, none⟩, 60.0, "policybind"⟩) := rfl
  have hforeign : slowWorld.IsForeign := by
    refine ⟨fun h hh reply hreply => ?_, nofun⟩
    rcases List.mem_cons.mp hh with rfl | hh
    · cases hreply
    · rw [List.mem_singleton.mp hh] at hreply
      cases hreply
  have hbyHand : ByHand slowWorld (some 30.0) slowByHand := by
    refine ⟨rfl, rfl, rfl, rfl, fun h hh => ?_⟩
    rcases List.mem_cons.mp hh with rfl | hh
    · rfl
    · rw [List.mem_singleton.mp hh]
      rfl
  obtain ⟨-, ⟨bucket, role, member⟩, hbucket, hrole, hmember, hagrees⟩ :=
    command_agrees (show Options.read .earlier hastyLine = .ok _ from rfl) rfl
      hparts hforeign
  cases hbucket
  cases hrole
  cases hmember
  have hdeclares : (Resource.declaring "mine" ⟨"b", "r", "u:a"⟩ false).Declares
      ⟨"b", "r", "u:a"⟩ :=
    ⟨rfl, by decide⟩
  exact ⟨hfails,
    ((hagrees _ _ _ rfl hdeclares rfl hbyHand).2 nofun).failed _ hfails rfl⟩

end CommandLine

end GrantKeeper
