import GrantKeeper.Config.Settings
import GrantKeeper.Proofs.Config.Projects

/-!
# Explicit configuration

What a configuration says itself is not looked for in the environment.  An
account sees of its environment the two values that fill its gaps and, if it has
to load credentials, the files; settings see the one variable that fills theirs.
So a configuration without gaps gives the same under any two environments: the
same account, or the same report of what is wrong.

## Main results

* `Account.ofFields_congr` — all that an account sees of its environment.
* `Account.sameUpTo_ofFields` — with credentials at hand, only the path that is
  noted can differ.
* `explicit_decides` — two environments under an explicit configuration.
-/

namespace GrantKeeper

/-! ## Two runs -/

/-- Two runs end with the same error, or with values that are related. -/
inductive SameUpTo {ε α : Type} (R : α → α → Prop) :
    Except ε α → Except ε α → Prop
  | ok {a b : α} (h : R a b) : SameUpTo R (.ok a) (.ok b)
  | error (e : ε) : SameUpTo R (.error e) (.error e)

namespace SameUpTo

variable {ε ε' α β : Type} {R : α → α → Prop} {S : β → β → Prop}
  {x y : Except ε α}

theorem cases_of (h : SameUpTo R x y) :
    (∃ e, x = .error e ∧ y = .error e) ∨
    ∃ a b, x = .ok a ∧ y = .ok b ∧ R a b := by
  cases h with
  | ok hr => exact Or.inr ⟨_, _, rfl, rfl, hr⟩
  | error e => exact Or.inl ⟨e, rfl, rfl⟩

theorem of_eq (hrefl : ∀ a, R a a) (h : x = y) : SameUpTo R x y := by
  subst h
  cases x with
  | ok a => exact .ok (hrefl a)
  | error e => exact .error e

theorem imp {R' : α → α → Prop} (h : SameUpTo R x y)
    (himp : ∀ a b, R a b → R' a b) : SameUpTo R' x y := by
  cases h with
  | ok hr => exact .ok (himp _ _ hr)
  | error e => exact .error e

theorem mapError (h : SameUpTo R x y) (f : ε → ε') :
    SameUpTo R (x.mapError f) (y.mapError f) := by
  cases h with
  | ok hr => exact .ok hr
  | error e => exact .error (f e)

theorem bind {f g : α → Except ε β} (h : SameUpTo R x y)
    (hfg : ∀ a b, R a b → SameUpTo S (f a) (g b)) :
    SameUpTo S (x >>= f) (y >>= g) := by
  cases h with
  | ok hr => exact hfg _ _ hr
  | error e => exact .error e

/-- Checks side by side, of which each ends the same in both runs. -/
theorem both {x x' : Checked α} {y y' : Checked β} (hx : SameUpTo R x x')
    (hy : SameUpTo S y y') :
    SameUpTo (fun a b => R a.1 b.1 ∧ S a.2 b.2) (x.both y) (x'.both y') := by
  cases hx with
  | ok hr => cases hy with
    | ok hs => exact .ok ⟨hr, hs⟩
    | error issues => exact .error issues
  | error issues => cases hy with
    | ok hs => exact .error issues
    | error more => exact .error (issues ++ more)

end SameUpTo

variable {env env' : Environment} {fields : Fields}

namespace Account

/-! ## What an account sees of its environment -/

theorem load_congr (h : env.files = env'.files) (path : String) :
    load env path = load env' path := by
  rw [load, load, h]

theorem resolve_congr (h : env.files = env'.files) (given : Json)
    (path? : Option String) :
    resolve env given path? = resolve env' given path? := by
  unfold resolve
  split
  · rw [load_congr h]
  · rfl

theorem projectValue_of_truthy (h : (fields.get "project_id").truthy = true) :
    projectValue env fields = fields.get "project_id" := by
  rw [projectValue, Json.orElse, if_pos h]

theorem pathValue_of_truthy
    (h : (fields.get "credentials_path").truthy = true) :
    pathValue env fields = fields.get "credentials_path" := by
  rw [pathValue, Json.orElse, if_pos h]

/-- **All that an account sees of its environment**: what fills the gaps of its
configuration, and files. -/
theorem ofFields_congr
    (hproject : projectValue env fields = projectValue env' fields)
    (hpath : pathValue env fields = pathValue env' fields)
    (hfiles : env.files = env'.files) :
    ofFields env fields = ofFields env' fields := by
  have hfinished : finished env fields = finished env' fields := by
    funext ⟨⟨project?, path?⟩, _⟩
    cases project? with
    | none => rfl
    | some project => rw [finished, finished, resolve_congr hfiles]
  rw [ofFields_eq, ofFields_eq, checkedParts_completed, checkedParts_completed,
    hproject, hpath, hfinished]

/-- A path that comes from the environment passes the check, whatever it is. -/
theorem sameUpTo_pathValue (env env' : Environment) (fields : Fields) :
    SameUpTo (fun _ _ => True) (optionalText (pathValue env fields))
      (optionalText (pathValue env' fields)) := by
  cases hpath : (fields.get "credentials_path").truthy with
  | true =>
      exact .of_eq (fun _ => trivial)
        (by rw [pathValue_of_truthy hpath, pathValue_of_truthy hpath])
  | false =>
      have hpasses (env : Environment) :
          optionalText (pathValue env fields) =
            .ok (env.get? "GOOGLE_APPLICATION_CREDENTIALS") := by
        rw [optionalText_eq_ok_iff, pathValue, Json.orElse,
          if_neg (Bool.eq_false_iff.mp hpath), env.variableValue_eq]
      rw [hpasses, hpasses]
      exact .ok trivial

theorem resolve_of_given {given : Json} (h : given ≠ .null)
    (path? : Option String) : resolve env given path? = .ok (.given given) := by
  unfold resolve
  split
  · exact absurd rfl h
  · rfl

/-- **With credentials at hand**, only the path that is noted can differ. -/
theorem sameUpTo_ofFields
    (hproject : projectValue env fields = projectValue env' fields)
    (hgiven : fields.get "credentials" ≠ .null) :
    SameUpTo (fun a a' => a.project = a'.project) (ofFields env fields)
      (ofFields env' fields) := by
  -- the path passes in both runs, so what is found wrong comes from parts that
  -- are the same
  have hparts : SameUpTo (fun parts parts' => parts.1.1 = parts'.1.1)
      (checkedParts (completed env fields))
      (checkedParts (completed env' fields)) := by
    rw [checkedParts_completed, checkedParts_completed, hproject]
    have hsame : SameUpTo Eq
        ((optionalText (projectValue env' fields)).within (.name "project_id"))
        ((optionalText (projectValue env' fields)).within
          (.name "project_id")) := .of_eq (fun _ => rfl) rfl
    have hothers : SameUpTo Eq (Check.noOthers known fields)
        (Check.noOthers known fields) :=
      .of_eq (fun _ => rfl) rfl
    exact ((hsame.both ((sameUpTo_pathValue env env' fields).mapError _)).both
      hothers).imp fun _ _ h => h.1.1
  rw [ofFields_eq, ofFields_eq]
  refine ((hparts.mapError _).mapError _).bind ?_
  rintro ⟨⟨project?, path?⟩, _⟩ ⟨⟨_, path?'⟩, _⟩ rfl
  cases project? with
  | none => exact .error _
  | some project =>
      rw [finished, finished, resolve_of_given hgiven, resolve_of_given hgiven]
      exact .ok rfl

/-- An account with a project and credentials of its own has those. -/
theorem eq_given_of_ofFields {a : Account}
    (hproject : (fields.get "project_id").truthy = true)
    (hgiven : fields.get "credentials" ≠ .null)
    (h : ofFields env fields = .ok a) :
    fields.get "project_id" = .str a.project ∧
    a.credentials = .given (fields.get "credentials") := by
  obtain ⟨hvalue, -, -, hcredentials⟩ := ofFields_eq_ok_iff.mp h
  rw [projectValue_of_truthy hproject] at hvalue
  rw [resolve_of_given hgiven] at hcredentials
  exact ⟨hvalue, (Except.ok.inj hcredentials).symm⟩

end Account

/-! ## Explicit configuration -/

theorem Settings.completed_of_ne_null
    (h : fields.get "call_timeout_seconds" ≠ .null) :
    completed env fields = fields := by
  unfold completed
  split
  · rename_i hnull _
    exact absurd hnull h
  · rfl

/-- **Explicit configuration is not influenced by the environment.**  Under any
two environments: a configuration that gives a project and a path gives the same
account or the same error, if the files are the same.  One that gives a project
and credentials is accepted under both or refused under both with the same
error, whatever the files are; and if it is accepted, project and credentials
are those it gives.  Settings that give a time come out the same. -/
theorem explicit_decides (env env' : Environment) (fields settings : Fields) :
    ((fields.get "project_id").truthy = true →
      (fields.get "credentials_path").truthy = true →
        env.files = env'.files →
        Account.ofJson env (.obj fields) = Account.ofJson env' (.obj fields)) ∧
      ((fields.get "project_id").truthy = true →
        fields.get "credentials" ≠ .null →
        (∃ fault, Account.ofJson env (.obj fields) = .error fault ∧
            Account.ofJson env' (.obj fields) = .error fault) ∨
          ∃ project path? path?', fields.get "project_id" = .str project ∧
            Account.ofJson env (.obj fields) =
              .ok ⟨project, .given (fields.get "credentials"), path?⟩ ∧
            Account.ofJson env' (.obj fields) =
              .ok ⟨project, .given (fields.get "credentials"), path?'⟩) ∧
      (settings.get "call_timeout_seconds" ≠ .null →
        Settings.ofJson env (.obj settings) =
          Settings.ofJson env' (.obj settings)) := by
  have hvalue (hproject : (fields.get "project_id").truthy = true) :
      Account.projectValue env fields = Account.projectValue env' fields := by
    rw [Account.projectValue_of_truthy hproject,
      Account.projectValue_of_truthy hproject]
  refine ⟨fun hproject hpath hfiles => ?_, fun hproject hgiven => ?_,
    fun htime => ?_⟩
  · refine Account.ofFields_congr (hvalue hproject) ?_ hfiles
    rw [Account.pathValue_of_truthy hpath, Account.pathValue_of_truthy hpath]
  · show (∃ fault, Account.ofFields env fields = .error fault ∧
      Account.ofFields env' fields = .error fault) ∨ _
    obtain hfails | ⟨a, a', ha, ha', hsame⟩ :=
      (Account.sameUpTo_ofFields (hvalue hproject) hgiven).cases_of
    · exact Or.inl hfails
    · obtain ⟨hnamed, hcredentials⟩ :=
        Account.eq_given_of_ofFields hproject hgiven ha
      obtain ⟨-, hcredentials'⟩ :=
        Account.eq_given_of_ofFields hproject hgiven ha'
      obtain ⟨project, credentials, path?⟩ := a
      obtain ⟨project', credentials', path?'⟩ := a'
      cases hcredentials
      cases hcredentials'
      cases hsame
      exact Or.inr ⟨project, path?, path?', hnamed, ha, ha'⟩
  · show Settings.ofFields env settings = Settings.ofFields env' settings
    rw [Settings.ofFields, Settings.ofFields,
      Settings.completed_of_ne_null htime, Settings.completed_of_ne_null htime]

/-- An environment that names another project, other credentials and another
time decides nothing but the path that is noted. -/
theorem explicit_decides_elsewhere :
    let elsewhere : Environment := {
      assigned := [("GOOGLE_CLOUD_PROJECT", "q"),
        ("GOOGLE_APPLICATION_CREDENTIALS", "key.json"),
        ("POLICYBIND_CALL_TIMEOUT", "9")] }
    let bare : Environment := {}
    let located : Fields :=
      [("project_id", .str "p"), ("credentials_path", .str "gone.json")]
    let furnished : Fields :=
      [("credentials", .bool false), ("project_id", .str "p")]
    let settings : Fields := [("call_timeout_seconds", .str "2.5")]
    Account.ofJson elsewhere (.obj located) =
      Account.ofJson bare (.obj located) ∧
      (∃ path? path?', path? ≠ path?' ∧
        Account.ofJson elsewhere (.obj furnished) =
          .ok ⟨"p", .given (.bool false), path?⟩ ∧
        Account.ofJson bare (.obj furnished) =
          .ok ⟨"p", .given (.bool false), path?'⟩) ∧
      Settings.ofJson elsewhere (.obj settings) =
        Settings.ofJson bare (.obj settings) := by
  intro elsewhere bare located furnished settings
  obtain ⟨hlocated, -, hsettings⟩ :=
    explicit_decides elsewhere bare located settings
  obtain ⟨-, hfurnished, -⟩ :=
    explicit_decides elsewhere bare furnished settings
  refine ⟨hlocated rfl rfl rfl, ?_, hsettings nofun⟩
  have hnoted : Account.ofJson elsewhere (.obj furnished) =
      .ok ⟨"p", .given (.bool false), some "key.json"⟩ := rfl
  have hunnoted : Account.ofJson bare (.obj furnished) =
      .ok ⟨"p", .given (.bool false), none⟩ := rfl
  obtain ⟨fault, hfails, -⟩ | ⟨project, path?, path?', hproject, ha, ha'⟩ :=
    hfurnished rfl nofun
  · rw [hnoted] at hfails
    cases hfails
  · cases hproject
    refine ⟨path?, path?', ?_, ha, ha'⟩
    cases hnoted.symm.trans ha
    cases hunnoted.symm.trans ha'
    exact nofun

end GrantKeeper
