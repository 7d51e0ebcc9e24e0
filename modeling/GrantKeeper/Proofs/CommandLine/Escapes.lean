import GrantKeeper.Proofs.CommandLine.Agreement
import GrantKeeper.Proofs.Config.Accounts
import GrantKeeper.Proofs.Storage.Civil

/-!
# What escapes a command

A command reports what is refused, and the faults of its cycle.  All else is not
reported, and a few lines lead to that: a flag that a separator was attached to,
a configuration that cannot be read or used, and credentials that can be neither
loaded nor refused.  How much can be read, how flags take their values and what
comes of a path is up to the platform and to the files of an environment.  In a
civil world nothing else escapes.

## Main results

* `Options.areRegular_of_read` — what the flags of a line can have.
* `Stray.ofLine_eq`, `Task.stray_or_failed` — the lines that lead to a fault
  that is not reported.
* `command_escapes_iff` — nothing else escapes a command.
-/

namespace GrantKeeper

namespace CommandLine

/-! ## The values of flags -/

/-- A configuration is a text, and a timeout a number, unless a separator was
attached to the flag in the earlier dialect. -/
structure AreRegular (dialect : Dialect) (config timeout : Json) : Prop where
  config : dialect = .earlier ∧ config = .arr [] ∨ ∃ text, config = .str text
  timeout : timeout = .null ∨ dialect = .earlier ∧ timeout = .arr [] ∨
    ∃ time, timeout = .float time

namespace Draft

variable {dialect : Dialect} {d d' : Draft}

theorem areRegular_empty : AreRegular dialect empty.config empty.timeout :=
  ⟨Or.inr ⟨_, rfl⟩, Or.inl rfl⟩

/-- A flag has a text, or a number where it takes one, or nothing. -/
theorem valueOf_cases {flag : Flag} {text : String} {value : Json}
    (h : valueOf dialect flag text = .ok value) :
    dialect = .earlier ∧ value = .arr [] ∨
    (flag ≠ .timeout ∧ value = .str text) ∨
      (flag = .timeout ∧ ∃ time, value = .float time) := by
  unfold valueOf at h
  split at h
  · rename_i hseparator
    exact Or.inl ⟨hseparator.1, (Except.ok.inj h).symm⟩
  · split at h
    · rename_i htimeout
      split at h
      · exact Or.inr (Or.inr ⟨htimeout, _, (Except.ok.inj h).symm⟩)
      · cases h
    · rename_i hother
      exact Or.inr (Or.inl ⟨hother, (Except.ok.inj h).symm⟩)

theorem areRegular_take {flag : Flag} {text : String}
    (h : AreRegular dialect d.config d.timeout)
    (htake : d.take dialect flag text = .ok d') :
    AreRegular dialect d'.config d'.timeout := by
  obtain ⟨value, hvalue, htake⟩ := exists_of_bind_eq_ok htake
  have hcases := valueOf_cases hvalue
  cases flag with
  | help => cases htake
  | config =>
      cases htake
      obtain hnone | ⟨-, htext⟩ | ⟨hflag, -⟩ := hcases
      · exact ⟨Or.inl hnone, h.timeout⟩
      · exact ⟨Or.inr ⟨_, htext⟩, h.timeout⟩
      · cases hflag
  | timeout =>
      cases htake
      obtain hnone | ⟨hflag, -⟩ | ⟨-, htime⟩ := hcases
      · exact ⟨h.config, Or.inr (Or.inl hnone)⟩
      · exact absurd rfl hflag
      · exact ⟨h.config, Or.inr (Or.inr htime)⟩
  | _ =>
      cases htake
      exact h

theorem areRegular_operate {text : String}
    (h : AreRegular dialect d.config d.timeout)
    (hoperate : d.operate text = .ok d') :
    AreRegular dialect d'.config d'.timeout := by
  unfold operate at hoperate
  split at hoperate
  · cases hoperate
    exact h
  · cases hoperate

/-- The flags stay regular, whatever words are read. -/
theorem areRegular_read {words : List Word}
    (h : AreRegular dialect d.config d.timeout)
    (hread : d.read dialect words = .ok d') :
    AreRegular dialect d'.config d'.timeout := by
  -- a word reaches the flags through `take` only; all other words leave them as
  -- they are
  fun_induction read d dialect words with
  | case1 d =>
      cases hread
      exact h
  | case2 d text rest ih => exact ih h hread
  | case3 d text rest hoperation ih => exact ih h hread
  | case4 d text rest hoperation ih =>
      obtain ⟨next, hnext, hread⟩ := exists_of_bind_eq_ok hread
      have hnext' := areRegular_operate h hnext
      have hrest := ih next
      split at hread
      · exact hrest hnext' hread
      · rename_i hother
        split at hrest
        · exact absurd rfl (hother _)
        · exact hrest hnext' hread
  | case5 d text rest hoperation ih =>
      obtain ⟨next, hnext, hread⟩ := exists_of_bind_eq_ok hread
      exact ih next (areRegular_operate h hnext) hread
  | case6 d rest hother ih => exact ih h hread
  | case7 d short attached? rest followed => cases hread
  | case8 d flag short text rest hother ih =>
      obtain ⟨next, hnext, hread⟩ := exists_of_bind_eq_ok hread
      exact ih next (areRegular_take h hnext) hread
  | case9 d flag short hother text rest ih =>
      obtain ⟨next, hnext, hread⟩ := exists_of_bind_eq_ok hread
      exact ih next (areRegular_take h hnext) hread
  | case10 d flag short rest hother hnone => cases hread

end Draft

/-- **What the flags of a line can have.** -/
theorem Options.areRegular_of_read {dialect : Dialect} {line : List String}
    {o : Options} (h : Options.read dialect line = .ok o) :
    AreRegular dialect o.config o.timeout := by
  obtain ⟨words, -, hrest⟩ := exists_of_bind_eq_ok h
  obtain ⟨d, hread, hfinish⟩ := exists_of_bind_eq_ok hrest
  have hd := Draft.areRegular_read Draft.areRegular_empty hread
  unfold Draft.finish at hfinish
  split at hfinish
  · split at hfinish
    · cases hfinish
      exact hd
    · cases hfinish
  · cases hfinish

/-! ## Stray faults -/

/-- The fault that a line leads to before anything is called, if it is one that
is not reported. -/
inductive Stray (env : Environment) (now : Outcome Time.Timestamp)
    (o : Options) : Fault → Prop
  /-- A separator is attached to the flag for the configuration. -/
  | textless (hdialect : env.platform.dialect = .earlier)
      (h : o.config = .arr []) : Stray env now o (.malformed .notAText)
  /-- The configuration holds a number that is too long for the platform. -/
  | tooManyDigits {text : String} {count limit : Nat} (h : o.config = .str text)
      (hread : Json.read env.platform.limits text.toList =
        .error (.tooManyDigits count limit)) :
      Stray env now o
        (.value ((Json.ReadError.tooManyDigits count limit).message
          text.toList))
  /-- The configuration is nested too deeply for the platform. -/
  | tooDeep {text : String} (h : o.config = .str text)
      (hread : Json.read env.platform.limits text.toList = .error .tooDeep) :
      Stray env now o (.malformed .tooDeep)
  /-- The resource is fine, but the configuration can be neither used nor
  refused. -/
  | unusable {config : Json} {resource : Resource} {fault : Fault}
      (hconfig : Task.configOf env o = .ok config)
      (hresource : Resource.make now (Task.resourceFields o) = .ok resource)
      (h : Account.Unusable env config fault) : Stray env now o fault
  /-- All else is fine, but a separator is attached to the flag for the time. -/
  | timeless {config : Json} {parts : Resource × Connector Float}
      (hconfig : Task.configOf env o = .ok config)
      (hparts : Task.parts env now o config = .ok parts)
      (hdialect : env.platform.dialect = .earlier) (h : o.timeout = .arr []) :
      Stray env now o (.malformed .notANumber)

section

variable {env : Environment} {now : Outcome Time.Timestamp} {line : List String}
  {o : Options} {config : Json} {fault : Fault} {ending : Ending}

namespace Task

/-- Whether the parts of a task escape is up to the configuration, once the
resource is made. -/
theorem parts_escapes_iff : Escapes (parts env now o config) fault ↔
    ∃ resource, Resource.make now (resourceFields o) = .ok resource ∧
      Account.Unusable env config fault := by
  have hmake : ¬ Escapes (Resource.make now (resourceFields o)) fault :=
    not_escapes_ofModel _
  rw [parts, escapes_bind_iff, or_iff_right hmake]
  refine exists_congr fun resource => and_congr_right fun _ => ?_
  exact (escapes_bind_ok_iff _).trans Connector.forKind_escapes_iff

/-- A configuration that is a text, but cannot be read. -/
theorem configOf_of_unread {text : String} {problem : Json.ReadError}
    (h : o.config = .str text)
    (hread : Json.read env.platform.limits text.toList = .error problem) :
    configOf env o = .error (Ending.ofReadError text.toList problem) := by
  rw [configOf, h]
  exact congrArg (Except.mapError (Ending.ofReadError text.toList)) hread

theorem ofLine_of_configOf
    (hread : Options.read env.platform.dialect line = .ok o)
    (hconfig : configOf env o = .error ending) :
    ofLine env now line = .error ending := by
  rw [ofLine, hread]
  show Except.bind (configOf env o) _ = _
  rw [hconfig]
  rfl

theorem ofLine_of_parts (hread : Options.read env.platform.dialect line = .ok o)
    (hconfig : configOf env o = .ok config)
    (hparts : parts env now o config = .error fault) :
    ofLine env now line = .error (Ending.ofRefusal fault) := by
  rw [ofLine, hread]
  show Except.bind (configOf env o) _ = _
  rw [hconfig]
  show Except.bind ((parts env now o config).mapError Ending.ofRefusal) _ = _
  rw [hparts]
  rfl

end Task

/-- A stray fault escapes. -/
theorem Stray.ofLine_eq (hread : Options.read env.platform.dialect line = .ok o)
    (h : Stray env now o fault) :
    Task.ofLine env now line = .error (.escaped fault) := by
  cases h with
  | textless hdialect h =>
      refine Task.ofLine_of_configOf hread ?_
      rw [Task.configOf, h]
  | tooManyDigits h hbad =>
      exact Task.ofLine_of_configOf hread (Task.configOf_of_unread h hbad)
  | tooDeep h hbad =>
      exact Task.ofLine_of_configOf hread (Task.configOf_of_unread h hbad)
  | unusable hconfig hresource h =>
      obtain ⟨hparts, hescapes⟩ := Task.parts_escapes_iff.mpr ⟨_, hresource, h⟩
      rw [Task.ofLine_of_parts hread hconfig hparts, Ending.ofRefusal, hescapes]
      rfl
  | @timeless config parts hconfig hparts hdialect h =>
      obtain ⟨resource, c⟩ := parts
      rw [Task.ofLine_eq hread hconfig hparts, Task.timeoutOf, h]
      rfl

/-- What a command says when something went wrong is not empty. -/
theorem Ending.exists_failed (what text : String) :
    ∃ errors, errors ≠ "" ∧ failed what text = .exited 1 "" errors := by
  refine ⟨_, fun hempty => ?_, rfl⟩
  have hnone := congrArg String.toList hempty
  rw [String.toList_append] at hnone
  exact absurd hnone (List.append_ne_nil_of_right_ne_nil _ (by decide))

/-- **A line that cannot be followed leads to a stray fault, or something is
said about it.** -/
theorem Task.stray_or_failed
    (hread : Options.read env.platform.dialect line = .ok o)
    (h : ofLine env now line = .error ending) :
    (∃ fault, ending = .escaped fault ∧ Stray env now o fault) ∨
      ∃ errors, errors ≠ "" ∧ ending = .exited 1 "" errors := by
  have hregular := Options.areRegular_of_read hread
  cases hconfig : configOf env o with
  | error ending' =>
      cases h.symm.trans (ofLine_of_configOf hread hconfig)
      obtain ⟨hdialect, hnone⟩ | ⟨text, htext⟩ := hregular.config
      · rw [configOf, hnone] at hconfig
        cases hconfig
        exact Or.inl ⟨_, rfl, .textless hdialect hnone⟩
      · cases hbad : Json.read env.platform.limits text.toList with
        | ok config =>
            simp only [configOf, htext, hbad] at hconfig
            cases hconfig
        | error problem =>
            cases (configOf_of_unread htext hbad).symm.trans hconfig
            cases problem with
            | problemAt problem position =>
                exact Or.inr (Ending.exists_failed _ _)
            | tooManyDigits count limit =>
                exact Or.inl ⟨_, rfl, .tooManyDigits htext hbad⟩
            | tooDeep => exact Or.inl ⟨_, rfl, .tooDeep htext hbad⟩
  | ok config =>
      cases hparts : parts env now o config with
      | error fault =>
          cases h.symm.trans (ofLine_of_parts hread hconfig hparts)
          rw [Ending.ofRefusal]
          cases hrefusal : fault.isRefusal with
          | true => exact Or.inr (Ending.exists_failed _ _)
          | false =>
              obtain ⟨resource, hresource, hunusable⟩ :=
                parts_escapes_iff.mp ⟨hparts, hrefusal⟩
              exact Or.inl ⟨_, rfl, .unusable hconfig hresource hunusable⟩
      | ok parts =>
          obtain ⟨resource, c⟩ := parts
          rw [ofLine_eq hread hconfig hparts, timeoutOf] at h
          obtain hnone | ⟨hdialect, hempty⟩ | ⟨time, htime⟩ := hregular.timeout
          · rw [hnone] at h
            cases h
          · rw [hempty] at h
            cases h
            exact Or.inl ⟨_, rfl, .timeless hconfig hparts hdialect hempty⟩
          · rw [htime] at h
            cases h

/-- The resource of a task declares a binding. -/
theorem Task.exists_declares_of_ofLine {t : Task}
    (hread : Options.read env.platform.dialect line = .ok o)
    (h : ofLine env now line = .ok t) : ∃ b, t.resource.Declares b := by
  cases hconfig : configOf env o with
  | error ending => cases h.symm.trans (ofLine_of_configOf hread hconfig)
  | ok config =>
      cases hparts : parts env now o config with
      | error fault => cases h.symm.trans (ofLine_of_parts hread hconfig hparts)
      | ok parts =>
          obtain ⟨resource, c⟩ := parts
          rw [ofLine_eq hread hconfig hparts] at h
          obtain ⟨timeout?, -, htask⟩ := exists_of_map_eq_ok h
          cases htask
          obtain ⟨b, -, -, -, hdeclares, -⟩ :=
            exists_declares (make_of_parts hparts)
          exact ⟨b, hdeclares⟩

end

/-! ## Commands -/

/-- The cycle of a task has an answer to everything. -/
theorem Task.handled_program {t : Task} {b : Binding}
    (hb : t.resource.Declares b)
    {w : World Float (StorageCall Float) Json Service} (hw : w.Civil) :
    Handled ((t.begun w).run (Service.remote Float) t.program).1 := by
  have hbegun : (t.begun w).Civil :=
    ⟨hw.stored, hw.edits, hw.reply, hw.refusal, hw.calendar⟩
  obtain ⟨hobserve, hreconcile⟩ :=
    Connector.handled_of_civil hb t.connector hbegun
  rw [program]
  cases t.operation with
  | observe =>
      show Handled (World.run _
        ((t.connector.observe (.member t.resource)).bind fun found =>
          .done (CycleResult.mk .none found)) _).1
      rw [World.run_bind_done]
      exact hobserve.map _
  | ensure => exact hreconcile
  | remove => exact hreconcile

/-- The command printed what was done, or said what went wrong. -/
def Ending.IsReported (e : Ending) : Prop :=
  (∃ result, e = .exited 0 (report result) "") ∨
    ∃ errors, errors ≠ "" ∧ e = .exited 1 "" errors

theorem Ending.isReported_ofOutcome {o : Outcome (CycleResult Bool)}
    (h : Handled o) : (ofOutcome o).IsReported := by
  cases o with
  | ok result => exact Or.inl ⟨result, rfl⟩
  | error fault =>
      obtain ⟨errors, hne, herrors⟩ :=
        Ending.exists_failed "Operation failed" fault.text
      exact Or.inr ⟨errors, hne, (if_pos (h fault rfl)).trans herrors⟩

/-- **Nothing but stray faults escapes a command**, once its line is read and in
a civil world; what does not escape is printed, or something is said about
it. -/
theorem command_escapes_iff {env : Environment} {line : List String}
    {o : Options} {w : World Float (StorageCall Float) Json Service}
    (hread : Options.read env.platform.dialect line = .ok o) (hw : w.Civil) :
    let ended := (run (Service.remote Float) env line w).1
    (∀ fault, ended = .escaped fault ↔ Stray env w.clock.wall o fault) ∧
      ((∀ fault, ¬ Stray env w.clock.wall o fault) → ended.IsReported) := by
  intro ended
  have hended :
      (∃ fault, ended = .escaped fault ∧ Stray env w.clock.wall o fault) ∨
      ended.IsReported := by
    show (∃ fault, (run _ env line w).1 = _ ∧ _) ∨
      (run _ env line w).1.IsReported
    cases hline : Task.ofLine env w.clock.wall line with
    | error ending =>
        rw [run, hline]
        exact (Task.stray_or_failed hread hline).imp_right Or.inr
    | ok task =>
        obtain ⟨b, hb⟩ := Task.exists_declares_of_ofLine hread hline
        rw [run, hline]
        exact Or.inr (Ending.isReported_ofOutcome (task.handled_program hb hw))
  have hstray (fault : Fault) (h : Stray env w.clock.wall o fault) :
      ended = .escaped fault := by
    show (run _ env line w).1 = _
    rw [run, h.ofLine_eq hread]
  refine ⟨fun fault => ⟨fun h => ?_, hstray fault⟩, fun hnone => ?_⟩
  -- a command has one ending, so the fault that escaped is the stray one
  · obtain ⟨fault', hescapes, hfault⟩ | ⟨result, hreported⟩ | ⟨errors, -,
        hreported⟩ := hended
    · cases h.symm.trans hescapes
      exact hfault
    · cases h.symm.trans hreported
    · cases h.symm.trans hreported
  · refine hended.resolve_left ?_
    rintro ⟨fault, -, hfault⟩
    exact hnone fault hfault

/-- A world with one bucket, where somebody may be refused. -/
def sparseWorld (refusal? : Option Fault) :
    World Float (StorageCall Float) Json Service :=
  { World.around 0.0 [] with
    server := ⟨.holding [("b", .obj [("etag", .str "1")])], refusal?⟩ }

theorem civil_sparseWorld {refusal? : Option Fault}
    (h : ∀ fault, refusal? = some fault → fault.isSignInFailure = true) :
    (sparseWorld refusal?).Civil where
  stored bucket policy hpolicy := by
    have hlookup : List.lookup bucket [("b", Json.obj [("etag", .str "1")])] =
        some policy := hpolicy
    rw [List.lookup_cons] at hlookup
    split at hlookup <;> cases hlookup
    rfl
  edits := nofun
  reply := nofun
  refusal := h
  calendar := by
    show ∃ time, (Clock.starting (0.0 : Float) 0).wall = .ok time
    have hreads : (Clock.starting (0.0 : Float) 0).wall.toOption.isSome =
        true := by decide +kernel
    cases hwall : (Clock.starting (0.0 : Float) 0).wall with
    | ok time => exact ⟨time, rfl⟩
    | error fault =>
        rw [hwall] at hreads
        cases hreads

/-- A failure to sign in. -/
def lockedOut : Fault :=
  .foreign ⟨"RefreshError", "", { Traits.unknown with auth := true }⟩

/-- A failure to open a file. -/
def unopened : Fault :=
  .foreign ⟨"PermissionError", "", { Traits.unknown with system := true }⟩

/-- A command that only says what it has to. -/
def plainLine : List String := ["-b", "b", "-r", "r", "-m", "u:a", "ensure"]

/-- The options of that command, with a configuration. -/
def plainOptions (config : String) : Options :=
  ⟨.str "b", .str "r", .str "u:a", .str config, .null, .ensure⟩

theorem read_plainLine (dialect : Dialect) :
    Options.read dialect plainLine = .ok (plainOptions "\x7b\x7d") := by
  cases dialect <;> rfl

/-- An environment with credentials at a path. -/
def keyed (files : Files) : Environment where
  assigned := [("GOOGLE_CLOUD_PROJECT", "p"),
    ("GOOGLE_APPLICATION_CREDENTIALS", "key.json")]
  files := files

/-- An environment that runs a command on a platform of its own. -/
def onPlatform (platform : Platform) : Environment :=
  { projectNamed with platform }

/-- Where an empty configuration can be read, only its account leads that
command astray. -/
theorem unusable_of_stray_plain {env : Environment}
    {now : Outcome Time.Timestamp} {fault : Fault}
    (hread : Json.read env.platform.limits "\x7b\x7d".toList = .ok (.obj []))
    (h : Stray env now (plainOptions "\x7b\x7d") fault) :
    Account.Unusable env (.obj []) fault := by
  cases h with
  | textless hdialect h => cases h
  | tooManyDigits h hbad =>
      cases h
      cases hread.symm.trans hbad
  | tooDeep h hbad =>
      cases h
      cases hread.symm.trans hbad
  | unusable hconfig hresource hunusable =>
      have hempty : Task.configOf env (plainOptions "\x7b\x7d") =
          .ok (.obj []) :=
        congrArg (Except.mapError (Ending.ofReadError "\x7b\x7d".toList)) hread
      cases hempty.symm.trans hconfig
      exact hunusable
  | timeless hconfig hparts hdialect h => cases h

/-- Somebody may not sign in.  That is said, and so is it if the library refuses
a file of credentials; a file that may not be opened escapes.  On one platform a
number is too long, and on another a separator is taken for a text, and
refused. -/
theorem command_escapes_iff_locked_out :
    let ended (env : Environment) (line : List String) : Ending :=
      (run (Service.remote Float) env line (sparseWorld (some lockedOut))).1
    (ended projectNamed plainLine).IsReported ∧
      (ended (keyed (.unreadable (.value "no key"))) plainLine).IsReported ∧
      ended (keyed (.unreadable unopened)) plainLine = .escaped unopened ∧
      (∃ message, ended (onPlatform ⟨⟨some 2, none⟩, .earlier⟩)
        ("-c" :: "100" :: plainLine) = .escaped (.value message)) ∧
      (ended (onPlatform ⟨.standard, .later⟩)
        ("--config=--" :: plainLine)).IsReported := by
  intro ended
  have hcivil : (sparseWorld (some lockedOut)).Civil :=
    civil_sparseWorld fun fault hfault => Option.some.inj hfault ▸ rfl
  refine ⟨?_, ?_, ?_, ?_, ?_⟩
  · obtain ⟨-, hreported⟩ :=
      @command_escapes_iff projectNamed _ _ _ (read_plainLine _) hcivil
    refine hreported fun fault h => ?_
    cases unusable_of_stray_plain rfl h with
    | noObject hother => exact hother [] rfl
    | credentials hasks hbad => cases (show Json.null = _ from hasks.located)
  · obtain ⟨-, hreported⟩ :=
      @command_escapes_iff (keyed (.unreadable (.value "no key"))) _ _ _
        (read_plainLine _) hcivil
    refine hreported fun fault h => ?_
    cases unusable_of_stray_plain rfl h with
    | noObject hother => exact hother [] rfl
    | credentials hasks hbad =>
        cases hbad with
        | unseen hfails hescapes => cases hfails
        | unloaded hstands hfails hescapes =>
            cases hfails
            cases hescapes
  · obtain ⟨hescapes, -⟩ :=
      @command_escapes_iff (keyed (.unreadable unopened)) _ _ _
        (read_plainLine _) hcivil
    have hasks : Account.AsksFor (keyed (.unreadable unopened)) [] "key.json" :=
      ⟨⟨"p", rfl⟩, rfl, by decide, rfl, by decide⟩
    exact (hescapes unopened).mpr
      (.unusable rfl rfl (.credentials hasks (.unloaded rfl rfl rfl)))
  · have hread : Options.read .earlier ("-c" :: "100" :: plainLine) =
        .ok (plainOptions "100") := rfl
    obtain ⟨hescapes, -⟩ :=
      @command_escapes_iff (onPlatform ⟨⟨some 2, none⟩, .earlier⟩) _ _ _
        hread hcivil
    have htext : (plainOptions "100").config = .str "100" := rfl
    have hlong : Json.read ⟨some 2, none⟩ "100".toList =
        .error (.tooManyDigits 3 2) := rfl
    exact ⟨_, (hescapes _).mpr (.tooManyDigits htext hlong)⟩
  · have hread : Options.read .later ("--config=--" :: plainLine) =
        .ok (plainOptions "--") := by
      cbv
    have hbad : Json.read .standard "--".toList =
        .error (.problemAt .noValue 0) := rfl
    obtain ⟨-, hreported⟩ :=
      @command_escapes_iff (onPlatform ⟨.standard, .later⟩) _ _ _ hread hcivil
    refine hreported fun fault h => ?_
    cases h with
    | textless hdialect h => cases hdialect
    | tooManyDigits h hlong =>
        cases h
        cases hbad.symm.trans hlong
    | tooDeep h hdeep =>
        cases h
        cases hbad.symm.trans hdeep
    | unusable hconfig hresource hunusable => cases hconfig
    | timeless hconfig hparts hdialect h => cases hdialect

/-- A command whose configuration is a list. -/
def listedLine : List String :=
  ["-b", "b", "-r", "r", "-m", "u:a", "-c", "[]", "ensure"]

/-- A list for a configuration escapes, though nothing is wrong with the
world. -/
theorem list_escapes :
    (∃ o, Options.read projectNamed.platform.dialect listedLine = .ok o) ∧
    (sparseWorld none).Civil ∧
      (run (Service.remote Float) projectNamed listedLine
        (sparseWorld none)).1 = .escaped (.malformed .notAnObject) :=
  ⟨⟨_, rfl⟩, civil_sparseWorld nofun, by decide +kernel⟩

end CommandLine

end GrantKeeper
