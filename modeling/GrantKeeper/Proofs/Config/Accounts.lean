import GrantKeeper.Proofs.Json.Fields
import GrantKeeper.Proofs.Resource.Declared
import GrantKeeper.Storage.Factory

/-!
# Unusable accounts

A configuration that does not pass the checks is refused, and so is a file of
credentials that is not there or that the sign-in library refuses.  A refusal is
reported to whoever asked.  Two things are left that fail in another way: a
configuration that is no object, and a path that cannot be looked at or loaded
from.

## Main results

* `Account.load_escapes_iff` — the paths that fail in another way.
* `Account.ofJson_escapes_iff` — the configurations that do.
* `Connector.forKind_escapes_iff` — and nothing else about a connector does.
-/

namespace GrantKeeper

/-- The outcome is this fault, and it is not a refusal. -/
def Escapes {α : Type} (o : Outcome α) (fault : Fault) : Prop :=
  o = .error fault ∧ fault.isRefusal = false

section

variable {α β : Type} {fault : Fault}

theorem not_escapes_ok (a : α) :
    ¬ Escapes (.ok a) fault := fun h => by cases h.1

/-- What does not fit a model is refused. -/
theorem not_escapes_ofModel (x : Except Report α) :
    ¬ Escapes (Outcome.ofModel x) fault := by
  rintro ⟨hfails, hescapes⟩
  cases x with
  | ok a => cases hfails
  | error report =>
      cases hfails
      cases hescapes

theorem escapes_bind_iff {o : Outcome α} {f : α → Outcome β} :
    Escapes (o >>= f) fault ↔
      Escapes o fault ∨ ∃ a, o = .ok a ∧ Escapes (f a) fault := by
  cases o with
  | error fault' =>
      constructor
      · rintro ⟨hfails, hescapes⟩
        cases hfails
        exact Or.inl ⟨rfl, hescapes⟩
      · rintro (⟨hfails, hescapes⟩ | ⟨a, ha, -⟩)
        · cases hfails
          exact ⟨rfl, hescapes⟩
        · cases ha
  | ok a =>
      constructor
      · exact fun h => Or.inr ⟨a, rfl, h⟩
      · rintro (h | ⟨a', ha, h⟩)
        · exact absurd h (not_escapes_ok a)
        · cases ha
          exact h

/-- Whatever is made of a value, it is not what escapes. -/
theorem escapes_bind_ok_iff {o : Outcome α} (f : α → β) :
    Escapes (o >>= fun a => .ok (f a)) fault ↔ Escapes o fault := by
  rw [escapes_bind_iff, or_iff_left]
  rintro ⟨a, -, h⟩
  exact not_escapes_ok _ h

end

theorem Fields.lookup_of_get {fields : Fields} {name text : String}
    (h : fields.get name = .str text) :
    fields.lookup name = some (.str text) := by
  have hne : fields.get name ≠ .null := by simp [h]
  rw [lookup_of_get_ne_null hne, h]

/-- A text, or null in place of one. -/
def Json.ofText? : Option String → Json
  | some text => .str text
  | none => .null

/-- What stands at a path can neither be loaded nor refused, because of this
fault. -/
inductive Files.Unloadable (files : Files) (path : String) : Fault → Prop
  /-- Nobody can tell whether anything stands there. -/
  | unseen {fault : Fault} (h : files.stands path = .error fault)
      (hescapes : fault.isRefusal = false) : Unloadable files path fault
  /-- What stands there cannot be loaded. -/
  | unloaded {fault : Fault} (hstands : files.stands path = .ok true)
      (h : files.load path = .error fault)
      (hescapes : fault.isRefusal = false) : Unloadable files path fault

namespace Account

variable {env : Environment} {fields : Fields} {path : String} {fault : Fault}

/-! ## Files of credentials -/

theorem not_escapes_refuse {α : Type} (message : String) :
    ¬ Escapes (refuse message : Outcome α) fault := by
  rintro ⟨hfails, hescapes⟩
  cases hfails
  cases hescapes

/-- A fault escapes the checks of a model unless it is a refusal. -/
theorem escapes_withinModel_iff {α : Type} {o : Outcome α} :
    Escapes (o.mapError withinModel) fault ↔ Escapes o fault := by
  cases o with
  | ok a => exact iff_of_false (not_escapes_ok a) (not_escapes_ok a)
  | error cause =>
      show Escapes (.error (withinModel cause) : Outcome α) fault ↔ _
      unfold withinModel
      cases hrefusal : cause.isRefusal with
      | false => rfl
      | true =>
          refine iff_of_false (not_escapes_refuse cause.text) ?_
          rintro ⟨hfails, hescapes⟩
          cases hfails
          cases hrefusal.symm.trans hescapes

/-- **The paths that lead to a fault that is no refusal.** -/
theorem load_escapes_iff :
    Escapes (load env path) fault ↔ env.files.Unloadable path fault := by
  rw [load, escapes_withinModel_iff, escapes_bind_iff]
  constructor
  · rintro (⟨hfails, hescapes⟩ | ⟨stands, hstands, hescapes⟩)
    · exact .unseen hfails hescapes
    · cases stands with
      | true => exact .unloaded hstands hescapes.1 hescapes.2
      | false =>
          obtain ⟨hfails, hescapes⟩ := hescapes
          cases hfails
          cases hescapes
  · rintro (⟨hfails, hescapes⟩ | ⟨hstands, hfails, hescapes⟩)
    · exact Or.inl ⟨hfails, hescapes⟩
    · exact Or.inr ⟨true, hstands, hfails, hescapes⟩

/-! ## Configurations -/

/-- The configuration passes the checks and names a project, but its credentials
have to be loaded. -/
structure AsksFor (env : Environment) (fields : Fields) (path : String) :
    Prop where
  named : ∃ project, (completed env fields).get "project_id" = .str project
  located : (completed env fields).get "credentials_path" = .str path
  nonempty : path ≠ ""
  credentials : (completed env fields).get "credentials" = .null
  known : ∀ e ∈ completed env fields, e.1 ∈ known

/-- The credentials of an account are loaded only if there is a path and nothing
else. -/
theorem resolve_escapes_iff {given : Json} {path? : Option String} :
    Escapes (resolve env given path?) fault ↔
      ∃ path, given = .null ∧ path? = some path ∧ path ≠ "" ∧
        Escapes (load env path) fault := by
  unfold resolve
  split
  · rename_i path
    split
    · rename_i hempty
      refine iff_of_false (not_escapes_ok _) ?_
      rintro ⟨path', -, hpath, hne, -⟩
      exact hne ((Option.some.inj hpath).symm.trans hempty)
    · rename_i hne
      constructor
      · exact fun h => ⟨path, rfl, rfl, hne, h⟩
      · rintro ⟨path', -, hpath, -, h⟩
        cases hpath
        exact h
  · rename_i hother
    refine iff_of_false (not_escapes_ok _) ?_
    rintro ⟨path, hgiven, hpath, -⟩
    exact hother path hgiven hpath

/-- What is checked of the fields of a configuration. -/
def checkedParts (fields : Fields) :
    Checked ((Option String × Option String) × Unit) :=
  ((Check.required fields "project_id" optionalText).both <|
    Check.required fields "credentials_path" optionalText).both <|
      Check.noOthers known fields

theorem optionalText_eq_ok_iff {value : Json} {text? : Option String} :
    optionalText value = .ok text? ↔ value = .ofText? text? := by
  cases text? with
  | some text =>
      constructor
      · intro h
        cases value with
        | str s => exact congrArg Json.str (Option.some.inj (Except.ok.inj h))
        | _ => cases h
      · exact fun h => h ▸ rfl
  | none =>
      cases value <;> simp [optionalText, Check.text, Checked.refuse,
        Json.ofText?, Except.map]

/-- **The configurations that pass the checks**, by their fields. -/
theorem checkedParts_eq_ok_iff {project? path? : Option String}
    {fields : Fields} :
    checkedParts fields = .ok ((project?, path?), ()) ↔
      fields.lookup "project_id" = some (.ofText? project?) ∧
        fields.lookup "credentials_path" = some (.ofText? path?) ∧
        ∀ e ∈ fields, e.1 ∈ known := by
  have hrequired (name : String) (text? : Option String) :
      Check.required fields name optionalText = .ok text? ↔
        fields.lookup name = some (.ofText? text?) := by
    rw [Check.required_eq_ok_iff]
    constructor
    · rintro ⟨value, hvalue, htext⟩
      rw [hvalue, optionalText_eq_ok_iff.mp htext]
    · exact fun h => ⟨_, h, optionalText_eq_ok_iff.mpr rfl⟩
  rw [checkedParts, Checked.both_eq_ok_iff, Checked.both_eq_ok_iff, hrequired,
    hrequired, Check.noOthers_eq_ok_iff, and_assoc]

/-- **Only the file of credentials escapes the checks of a configuration.** -/
theorem ofFields_escapes_iff : Escapes (ofFields env fields) fault ↔
    ∃ path, AsksFor env fields path ∧ Escapes (load env path) fault := by
  show Escapes
    (Outcome.ofModel ((checkedParts (completed env fields)).report model) >>=
      _) fault ↔ _
  rw [escapes_bind_iff, or_iff_right (not_escapes_ofModel _)]
  constructor
  · rintro ⟨⟨⟨project?, path?⟩, others⟩, hok, hescapes⟩
    have hchecked := Outcome.ofModel_report_eq_ok_iff.mp hok
    cases project? with
    | none => exact absurd hescapes (not_escapes_refuse _)
    | some project =>
        obtain ⟨path, hgiven, rfl, hne, hload⟩ :=
          resolve_escapes_iff.mp ((escapes_bind_ok_iff _).mp hescapes)
        obtain ⟨hproject, hpath, hknown⟩ := checkedParts_eq_ok_iff.mp hchecked
        exact ⟨path, ⟨⟨project, Fields.get_of_lookup hproject⟩,
          Fields.get_of_lookup hpath, hne, hgiven, hknown⟩, hload⟩
  · rintro ⟨path, hasks, hload⟩
    obtain ⟨project, hproject⟩ := hasks.named
    have hchecked : checkedParts (completed env fields) =
        .ok ((some project, some path), ()) :=
      checkedParts_eq_ok_iff.mpr ⟨Fields.lookup_of_get hproject,
        Fields.lookup_of_get hasks.located, hasks.known⟩
    refine ⟨((some project, some path), ()), ?_, ?_⟩
    · rw [hchecked]
      rfl
    · exact (escapes_bind_ok_iff _).mpr
        (resolve_escapes_iff.mpr ⟨path, hasks.credentials, rfl,
          hasks.nonempty, hload⟩)

/-- A configuration can be neither used nor refused, because of this fault. -/
inductive Unusable (env : Environment) : Json → Fault → Prop
  | noObject {config : Json} (h : ∀ fields, config ≠ .obj fields) :
      Unusable env config (.malformed .notAnObject)
  | credentials {fields : Fields} {path : String} {fault : Fault}
      (hasks : AsksFor env fields path)
      (hbad : env.files.Unloadable path fault) :
      Unusable env (.obj fields) fault

/-- **The configurations that cannot be used and are not refused.** -/
theorem ofJson_escapes_iff {config : Json} :
    Escapes (ofJson env config) fault ↔ Unusable env config fault := by
  by_cases hconfig : ∃ fields, config = .obj fields
  · obtain ⟨fields, rfl⟩ := hconfig
    refine ofFields_escapes_iff.trans ?_
    constructor
    · rintro ⟨path, hasks, hload⟩
      exact .credentials hasks (load_escapes_iff.mp hload)
    · intro hunusable
      cases hunusable with
      | noObject h => exact absurd rfl (h fields)
      | credentials hasks hbad => exact ⟨_, hasks, load_escapes_iff.mpr hbad⟩
  · have hother : ∀ fields, config ≠ .obj fields := fun fields heq =>
      hconfig ⟨fields, heq⟩
    have hfails : ofJson env config = .error (.malformed .notAnObject) := by
      cases config with
      | obj fields => exact absurd rfl (hother fields)
      | _ => rfl
    constructor
    · rintro ⟨h, -⟩
      cases hfails.symm.trans h
      exact .noObject hother
    · intro hunusable
      cases hunusable with
      | noObject h => exact ⟨hfails, rfl⟩
      | credentials hasks hbad => exact absurd rfl (hother _)

end Account

/-- **Nothing about a connector escapes but its account.** -/
theorem Connector.forKind_escapes_iff {env : Environment} {config : Json}
    {logger : String} {fault : Fault} :
    Escapes
        (forKind env (.str "bucket_policy_member") (.str "gcp") config .null
          logger) fault ↔
      Account.Unusable env config fault := by
  have hforKind :
      forKind env (.str "bucket_policy_member") (.str "gcp") config .null
          logger =
        Account.ofJson env config >>= fun account =>
        Settings.ofJson env (.obj []) >>= fun checked =>
          .ok ⟨account, checked.callTimeout, logger⟩ := rfl
  have hsettings : ¬ Escapes (Settings.ofJson env (.obj [])) fault := fun h =>
    not_escapes_ofModel _ ((escapes_bind_ok_iff _).mp h)
  rw [hforKind, escapes_bind_iff, or_iff_left, Account.ofJson_escapes_iff]
  rintro ⟨account, -, h⟩
  exact hsettings ((escapes_bind_ok_iff _).mp h)

end GrantKeeper
