import GrantKeeper.Proofs.Config.Accounts
import GrantKeeper.Proofs.Json.Texts

/-!
# The project of an account

A configuration is checked once its gaps are filled from the environment, so
what is checked as its project is a text that the configuration gives, or else
what one of two variables holds.  A value that is falsy counts as a gap; so does
the first variable when it is empty.  The second one is taken as it is: empty,
it fills the gap with an empty text, which passes for a project.

## Main results

* `Account.ofFields_eq` — an account is what is made of the completed parts of
  its configuration.
* `Account.ofFields_eq_ok_iff` — the configurations that are accepted, and the
  accounts that they give.
* `Account.project_named` — an account has the first project that is named,
  unless only an empty one is.
-/

namespace GrantKeeper

/-! ## Gaps -/

namespace Fields

variable {name n : String}

/-- The fields with a value in place of one that is missing or falsy. -/
def filled (fields : Fields) (name : String) (value : Json) : Fields :=
  if (fields.get name).truthy then fields else fields.put name value

theorem lookup_filled_self (fields : Fields) (name : String) (value : Json) :
    (fields.filled name value).lookup name =
      some ((fields.get name).orElse value) := by
  unfold filled Json.orElse
  split
  · rename_i htruthy
    refine lookup_of_get_ne_null fun hnull => ?_
    rw [hnull] at htruthy
    cases htruthy
  · exact lookup_put_self fields name value

theorem lookup_filled_of_ne (h : name ≠ n) (fields : Fields) (value : Json) :
    (fields.filled n value).lookup name = fields.lookup name := by
  unfold filled
  split
  · rfl
  · exact lookup_put_of_ne h fields value

theorem get_filled_of_ne (h : name ≠ n) (fields : Fields) (value : Json) :
    (fields.filled n value).get name = fields.get name := by
  rw [get, get, lookup_filled_of_ne h]

end Fields

theorem Environment.variableValue_eq (env : Environment) (name : String) :
    env.variableValue name = Json.ofText? (env.get? name) := by
  unfold variableValue
  cases env.get? name <;> rfl

theorem Check.noOthers_filled {known : List String} {name : String}
    (h : name ∈ known) (fields : Fields)
    (value : Json) :
    noOthers known (fields.filled name value) = noOthers known fields := by
  unfold Fields.filled
  split
  · rfl
  · exact noOthers_put h fields value

namespace Account

variable {env : Environment} {fields : Fields}

/-! ## Completed configurations -/

/-- What is checked as the project of a configuration. -/
def projectValue (env : Environment) (fields : Fields) : Json :=
  (fields.get "project_id").orElse (environmentProject env)

/-- What is checked as the path of a configuration. -/
def pathValue (env : Environment) (fields : Fields) : Json :=
  (fields.get "credentials_path").orElse
    (env.variableValue "GOOGLE_APPLICATION_CREDENTIALS")

theorem completed_eq (env : Environment) (fields : Fields) :
    completed env fields =
      (fields.filled "project_id" (environmentProject env)).filled
        "credentials_path"
        (env.variableValue "GOOGLE_APPLICATION_CREDENTIALS") := rfl

theorem lookup_completed_project :
    (completed env fields).lookup "project_id" =
      some (projectValue env fields) := by
  rw [completed_eq, Fields.lookup_filled_of_ne (by decide),
    Fields.lookup_filled_self, projectValue]

theorem lookup_completed_path :
    (completed env fields).lookup "credentials_path" =
      some (pathValue env fields) := by
  rw [completed_eq, Fields.lookup_filled_self,
    Fields.get_filled_of_ne (by decide), pathValue]

theorem get_completed_credentials :
    (completed env fields).get "credentials" = fields.get "credentials" := by
  rw [completed_eq, Fields.get_filled_of_ne (by decide),
    Fields.get_filled_of_ne (by decide)]

/-- The parts of a configuration are checked one by one: project, path, and the
names of all fields. -/
theorem checkedParts_completed : checkedParts (completed env fields) =
    (((optionalText (projectValue env fields)).within (.name "project_id")).both
      ((optionalText (pathValue env fields)).within
        (.name "credentials_path"))).both (Check.noOthers known fields) := by
  rw [checkedParts, Check.required_of_lookup lookup_completed_project,
    Check.required_of_lookup lookup_completed_path, completed_eq,
    Check.noOthers_filled (by decide),
    Check.noOthers_filled (by decide)]

theorem checkedParts_completed_eq_ok_iff {project? path? : Option String} :
    checkedParts (completed env fields) = .ok ((project?, path?), ()) ↔
      projectValue env fields = .ofText? project? ∧
      pathValue env fields = .ofText? path? ∧ ∀ e ∈ fields, e.1 ∈ known := by
  rw [checkedParts_eq_ok_iff, lookup_completed_project, lookup_completed_path,
    ← Check.noOthers_eq_ok_iff, completed_eq, Check.noOthers_filled (by decide),
    Check.noOthers_filled (by decide), Check.noOthers_eq_ok_iff,
    Option.some_inj, Option.some_inj]

/-- The account that is made of checked parts. -/
def finished (env : Environment) (fields : Fields) :
    (Option String × Option String) × Unit → Outcome Account
  | ((none, _), _) => refuse missingProject
  | ((some project, path?), _) => do
      return ⟨project, ← resolve env (fields.get "credentials") path?, path?⟩

/-- **An account is what is made of the completed parts of its
configuration.** -/
theorem ofFields_eq (env : Environment) (fields : Fields) :
    ofFields env fields =
      Outcome.ofModel ((checkedParts (completed env fields)).report model) >>=
        finished env fields := by
  -- credentials are no gap that is filled, so it does not matter which fields
  -- they are read from
  have hfinished : finished env fields =
      finished env (completed env fields) := by
    funext ⟨⟨project?, path?⟩, _⟩
    cases project? with
    | none => rfl
    | some project => rw [finished, finished, get_completed_credentials]
  rw [hfinished]
  show Outcome.ofModel
    ((checkedParts (completed env fields)).report model) >>= _ = _
  congr
  funext ⟨⟨project?, path?⟩, _⟩
  cases project? <;> rfl

/-- All but the project of a configuration is in order, and gives this account
its path and credentials. -/
structure Fits (env : Environment) (fields : Fields) (a : Account) : Prop where
  path : pathValue env fields = .ofText? a.credentialsPath
  known : ∀ e ∈ fields, e.1 ∈ known
  credentials : resolve env (fields.get "credentials") a.credentialsPath =
    .ok a.credentials

/-- **The configurations that are accepted, and the accounts that they
give.** -/
theorem ofFields_eq_ok_iff {a : Account} :
    ofFields env fields = .ok a ↔
      projectValue env fields = .str a.project ∧ Fits env fields a := by
  rw [ofFields_eq]
  constructor
  · intro h
    obtain ⟨⟨⟨project?, path?⟩, others⟩, hok, hfinished⟩ :=
      exists_of_bind_eq_ok h
    obtain ⟨hproject, hpath, hknown⟩ := 
      checkedParts_completed_eq_ok_iff.mp
        (Outcome.ofModel_report_eq_ok_iff.mp hok)
    cases project? with
    | none => cases hfinished
    | some project =>
        obtain ⟨credentials, hcredentials, ha⟩ := exists_of_bind_eq_ok hfinished
        cases ha
        exact ⟨hproject, hpath, hknown, hcredentials⟩
  · rintro ⟨hproject, hfits⟩
    have hchecked : checkedParts (completed env fields) =
        .ok ((some a.project, a.credentialsPath), ()) :=
      checkedParts_completed_eq_ok_iff.mpr ⟨hproject, hfits.path, hfits.known⟩
    rw [hchecked]
    show finished env fields ((some a.project, a.credentialsPath), ()) = _
    rw [finished, hfits.credentials]
    rfl

/-- **A configuration whose project is missing or no text is refused with a
report.** -/
theorem exists_report_of_projectValue
    (h : ∀ project, projectValue env fields ≠ .str project) :
    ∃ report, ofFields env fields = .error (.invalid report) := by
  rw [ofFields_eq]
  cases hchecked : checkedParts (completed env fields) with
  | error issues => exact ⟨_, rfl⟩
  | ok parts =>
      obtain ⟨⟨project?, path?⟩, others⟩ := parts
      cases project? with
      | none => exact ⟨_, rfl⟩
      | some project =>
          exact absurd (checkedParts_completed_eq_ok_iff.mp hchecked).1
            (h project)

/-! ## Projects -/

/-- The project that a value names: none, unless it is a text that is not
empty. -/
def projectIn? (value : Json) : Option String := value.text?.filter (· ≠ "")

/-- The value is a gap or a text. -/
def IsTextIfAny (value : Json) : Prop :=
  value.truthy = true → ∃ text, value = .str text

theorem projectIn?_eq_some_iff {value : Json} {project : String} :
    projectIn? value = some project ↔ value = .str project ∧ project ≠ "" := by
  rw [projectIn?, Option.filter_eq_some_iff, Json.text?_eq_some_iff,
    decide_eq_true_iff]

/-- What is asked for first is found first. -/
theorem projectIn?_orElse {first second : Json} (h : IsTextIfAny first) :
    projectIn? (first.orElse second) =
      (projectIn? first).or (projectIn? second) := by
  unfold Json.orElse
  split
  · rename_i htruthy
    obtain ⟨text, rfl⟩ := h htruthy
    rw [projectIn?_eq_some_iff.mpr ⟨rfl, by simpa using htruthy⟩]
    rfl
  · rename_i hfalsy
    have hnone : projectIn? first = none := by
      refine Option.eq_none_iff_forall_ne_some.mpr fun project hproject => ?_
      obtain ⟨rfl, hne⟩ := projectIn?_eq_some_iff.mp hproject
      exact hfalsy (by simpa using hne)
    rw [hnone, Option.none_or]

theorem isTextIfAny_variableValue (env : Environment) (name : String) :
    IsTextIfAny (env.variableValue name) := by
  rw [env.variableValue_eq]
  cases env.get? name with
  | none => exact nofun
  | some text => exact fun _ => ⟨text, rfl⟩

/-- The first project that is named: by the configuration, or else by one of two
variables. -/
def named? (env : Environment) (fields : Fields) : Option String :=
  (projectIn? (fields.get "project_id")).or <|
    (projectIn? (env.variableValue "GOOGLE_CLOUD_PROJECT")).or <|
    projectIn? (env.variableValue "GCLOUD_PROJECT")

/-- The configuration leaves the project to the environment, and there to the
second variable, which is set but empty. -/
structure LeftEmpty (env : Environment) (fields : Fields) : Prop where
  given : (fields.get "project_id").truthy = false
  first : (env.variableValue "GOOGLE_CLOUD_PROJECT").truthy = false
  second : env.get? "GCLOUD_PROJECT" = some ""

/-- **What is checked as a project names the first that is named.** -/
theorem projectIn?_projectValue (h : IsTextIfAny (fields.get "project_id")) :
    projectIn? (projectValue env fields) = named? env fields := by
  rw [projectValue, projectIn?_orElse h, environmentProject,
    projectIn?_orElse (isTextIfAny_variableValue _ _), named?]

theorem orElse_eq_empty_iff {first second : Json} :
    first.orElse second = .str "" ↔
      first.truthy = false ∧ second = .str "" := by
  unfold Json.orElse
  split
  · rename_i htruthy
    refine iff_of_false (fun h => ?_) fun h =>
      absurd htruthy (Bool.eq_false_iff.mp h.1)
    rw [h] at htruthy
    cases htruthy
  · rename_i hfalsy
    exact ⟨fun h => ⟨Bool.eq_false_iff.mpr hfalsy, h⟩, fun h => h.2⟩

/-- It is an empty text only if the project was left to the second variable. -/
theorem projectValue_eq_empty_iff :
    projectValue env fields = .str "" ↔ LeftEmpty env fields := by
  have hsecond : env.variableValue "GCLOUD_PROJECT" = .str "" ↔
      env.get? "GCLOUD_PROJECT" = some "" := by
    rw [env.variableValue_eq]
    cases env.get? "GCLOUD_PROJECT" <;> simp [Json.ofText?]
  rw [projectValue, orElse_eq_empty_iff, environmentProject,
    orElse_eq_empty_iff, hsecond]
  constructor
  · rintro ⟨hgiven, hfirst, hempty⟩
    exact ⟨hgiven, hfirst, hempty⟩
  · exact fun h => ⟨h.given, h.first, h.second⟩

theorem projectValue_eq_str_iff {project : String} :
    projectValue env fields = .str project ↔
      IsTextIfAny (fields.get "project_id") ∧
        (named? env fields = some project ∧ project ≠ "" ∨ project = "" ∧
          LeftEmpty env fields) := by
  constructor
  · intro h
    -- a value that is truthy is checked as it stands
    have htext : IsTextIfAny (fields.get "project_id") := by
      intro htruthy
      rw [projectValue, Json.orElse, if_pos htruthy] at h
      exact ⟨project, h⟩
    refine ⟨htext, ?_⟩
    by_cases hempty : project = ""
    · exact Or.inr ⟨hempty, projectValue_eq_empty_iff.mp (hempty ▸ h)⟩
    · rw [← projectIn?_projectValue htext]
      exact Or.inl ⟨projectIn?_eq_some_iff.mpr ⟨h, hempty⟩, hempty⟩
  · rintro ⟨htext, ⟨hnamed, -⟩ | ⟨rfl, hleft⟩⟩
    · rw [← projectIn?_projectValue htext] at hnamed
      exact (projectIn?_eq_some_iff.mp hnamed).1
    · exact projectValue_eq_empty_iff.mpr hleft

/-- **The project of an account is the first that is named**: by a text in the
configuration, or else by one of two variables, where an empty text names none.
If none is named, the configuration is refused with a report.  There is one
exception: a configuration that leaves the project to the environment, where the
second variable is set but empty, passes for one with a project, and the project
of its account is empty. -/
theorem project_named (env : Environment) (fields : Fields) :
    (∀ a, ofJson env (.obj fields) = .ok a ↔
        Fits env fields a ∧ IsTextIfAny (fields.get "project_id") ∧
          (named? env fields = some a.project ∧ a.project ≠ "" ∨
            a.project = "" ∧ LeftEmpty env fields)) ∧
      (named? env fields = none → ¬ LeftEmpty env fields →
        ∃ report, ofJson env (.obj fields) = .error (.invalid report)) := by
  refine ⟨fun a => ?_,
    fun hnone hleft => exists_report_of_projectValue fun project hvalue => ?_⟩
  · refine ofFields_eq_ok_iff.trans ?_
    rw [projectValue_eq_str_iff, and_comm]
  · obtain ⟨-, ⟨hsome, -⟩ | ⟨-, hempty⟩⟩ := projectValue_eq_str_iff.mp hvalue
    · cases hnone.symm.trans hsome
    · exact hleft hempty

/-- Zero and the empty first variable are gaps, so the second variable names the
project; without it, nothing does. -/
theorem project_named_second :
    let first := ("GOOGLE_CLOUD_PROJECT", "")
    let both : Environment := { assigned := [first, ("GCLOUD_PROJECT", "p")] }
    let fields : Fields := [("project_id", .int 0), ("credentials", .bool true)]
    let a : Account := ⟨"p", .given (.bool true), none⟩
    (ofJson both (.obj fields) = .ok a ∧ named? both fields = some a.project) ∧
      ∃ report, ofJson { assigned := [first] } (.obj fields) =
        .error (.invalid report) := by
  intro first both fields a
  obtain ⟨haccepted, -⟩ := project_named both fields
  obtain ⟨-, hrefused⟩ := project_named { assigned := [first] } fields
  have hmade : ofJson both (.obj fields) = .ok a := rfl
  refine ⟨⟨hmade, ?_⟩, hrefused rfl fun h => absurd h.second (by decide)⟩
  obtain ⟨-, -, ⟨hnamed, -⟩ | ⟨hempty, -⟩⟩ := (haccepted a).mp hmade
  · exact hnamed
  · exact absurd hempty (by decide)

/-- Nothing names a project, and yet the configuration is accepted. -/
theorem unnamed_project_accepted :
    let env : Environment := { assigned := [("GCLOUD_PROJECT", "")] }
    named? env [] = none ∧
      ofJson env (.obj []) = .ok ⟨"", .given .null, none⟩ := by
  intro env
  exact ⟨rfl, rfl⟩

end Account

end GrantKeeper
