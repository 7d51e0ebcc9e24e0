import GrantKeeper.Proofs.Schema
import GrantKeeper.Resource.Basic

/-!
# The grammar of a resource

A resource that gives its bucket, role and member as texts is accepted by a
grammar: bucket and role are not empty, and the member is one of two names or a
kind and an identifier with a colon between them.  What is accepted is declared
as it was given.

## Main results

* `Member.isValid_iff_named` — a text names a member exactly if the grammar of
  names generates it.
* `Parameters.check_eq_ok_iff` — the parameters that are accepted.
* `Resource.make_describing` — a resource is accepted if its parameters are.
* `Resource.accepted_iff_grammatical` — the grammar of resources, and what they
  declare.
-/

namespace GrantKeeper

/-! ## Members -/

namespace Member

/-- The grammar of names.  The first colon ends the kind, so only the identifier
may have more of them. -/
inductive Named : String → Prop
  | everybody : Named "allUsers"
  | everybodySignedIn : Named "allAuthenticatedUsers"
  | ofKind {kind identifier : String} (hkind : kind ≠ "")
      (hcolon : ':' ∉ kind.toList)
      (hidentifier : identifier ≠ "") : Named (kind ++ ":" ++ identifier)

theorem split?_toList_eq_some_iff {text kind identifier : String} :
    split? text.toList = some (kind.toList, identifier.toList) ↔
      text = kind ++ ":" ++ identifier ∧ ':' ∉ kind.toList := by
  have htoList : (kind ++ ":" ++ identifier).toList = kind.toList ++ ':' ::
      identifier.toList := by
    rw [String.toList_append, String.toList_append, List.append_assoc]
    rfl
  rw [split?_eq_some_iff, ← htoList, String.toList_inj]

/-- **A text names a member exactly if the grammar generates it.** -/
theorem isValid_iff_named {text : String} :
    isValid text = true ↔ Named text := by
  constructor
  · intro h
    rw [isValid, Bool.or_eq_true, List.contains_iff_mem, special, List.mem_cons,
      List.mem_singleton] at h
    rcases h with (rfl | rfl) | hparts
    · exact .everybodySignedIn
    · exact .everybody
    · cases hsplit : split? text.toList with
      | none =>
          rw [hsplit] at hparts
          cases hparts
      | some parts =>
          obtain ⟨kind, identifier⟩ := parts
          obtain ⟨kind, rfl⟩ : ∃ s : String,
              s.toList = kind := ⟨_, String.toList_ofList⟩
          obtain ⟨identifier, rfl⟩ : ∃ s : String,
              s.toList = identifier := ⟨_, String.toList_ofList⟩
          obtain ⟨rfl, hcolon⟩ := split?_toList_eq_some_iff.mp hsplit
          rw [hsplit] at hparts
          simp only [Bool.and_eq_true, Bool.not_eq_true',
            List.isEmpty_eq_false_iff, ne_eq,
            String.toList_eq_nil_iff] at hparts
          exact .ofKind hparts.1 hcolon hparts.2
  · intro h
    cases h with
    | everybody => rfl
    | everybodySignedIn => rfl
    | ofKind hkind hcolon hidentifier =>
        rw [isValid, split?_toList_eq_some_iff.mpr ⟨rfl, hcolon⟩]
        simp [hkind, hidentifier]

theorem Named.ne_empty {text : String} (h : Named text) : text ≠ "" := by
  rintro rfl
  exact absurd (isValid_iff_named.mpr h) (by decide)

/-- **The values that name a member.** -/
theorem check_eq_ok_iff {value : Json} {text : String} :
    check value = .ok text ↔ value = .str text ∧ Named text := by
  rw [← isValid_iff_named]
  unfold check
  split
  · rename_i s hs
    obtain ⟨rfl, -⟩ := Check.nonemptyText_eq_ok_iff.mp hs
    split
    · rename_i hvalid
      constructor
      · rintro h
        cases h
        exact ⟨rfl, hvalid⟩
      · rintro ⟨h, -⟩
        rw [Json.str.inj h]
    · rename_i hvalid
      refine iff_of_false nofun ?_
      rintro ⟨h, hnamed⟩
      exact hvalid (Json.str.inj h ▸ hnamed)
  · rename_i issues hs
    refine iff_of_false nofun ?_
    rintro ⟨rfl, hnamed⟩
    have hne := (isValid_iff_named.mp hnamed).ne_empty
    rw [Check.nonemptyText_eq_ok_iff.mpr ⟨rfl, hne⟩] at hs
    cases hs

end Member

/-! ## Parameters -/

namespace Parameters

/-- The fields of parameters. -/
def known : List String := ["bucket", "role", "member"]

/-- What is checked of the fields of parameters. -/
def checkedParts (fields : Fields) :
    Checked ((String × String × String) × Unit) :=
  ((Check.required fields "bucket" Check.nonemptyText).both <|
    (Check.required fields "role" Check.nonemptyText).both <|
    Check.required fields "member" Member.check).both <|
      Check.noOthers known fields

theorem check_eq (fields : Fields) : check fields =
    checkedParts fields >>= fun ((bucket, role, member), _) =>
      .ok ⟨bucket, role, member⟩ := rfl

theorem required_text_eq_ok_iff {fields : Fields} {name s : String}
    {check : Json → Checked String} {Q : Prop}
    (hcheck : ∀ {value}, check value = .ok s ↔ value = .str s ∧ Q) :
    Check.required fields name check = .ok s ↔
      fields.lookup name = some (.str s) ∧ Q := by
  rw [Check.required_eq_ok_iff]
  constructor
  · rintro ⟨value, hvalue, h⟩
    obtain ⟨rfl, hq⟩ := hcheck.mp h
    exact ⟨hvalue, hq⟩
  · rintro ⟨hvalue, hq⟩
    exact ⟨_, hvalue, hcheck.mpr ⟨rfl, hq⟩⟩

/-- **The parameters that are accepted**: three texts under their names and
nothing else, by the grammar. -/
theorem check_eq_ok_iff {fields : Fields} {p : Parameters} :
    check fields = .ok p ↔
      (fields.lookup "bucket" = some (.str p.bucket) ∧ p.bucket ≠ "") ∧
        (fields.lookup "role" = some (.str p.role) ∧ p.role ≠ "") ∧
        (fields.lookup "member" = some (.str p.member) ∧
          Member.Named p.member) ∧
        ∀ e ∈ fields, e.1 ∈ known := by
  have hchecked : check fields = .ok p ↔
      checkedParts fields = .ok ((p.bucket, p.role, p.member), ()) := by
    rw [check_eq]
    constructor
    · intro h
      obtain ⟨⟨⟨bucket, role, member⟩, others⟩, hok, hp⟩ :=
        exists_of_bind_eq_ok h
      cases hp
      exact hok
    · intro h
      rw [h]
      rfl
  rw [hchecked, checkedParts, Checked.both_eq_ok_iff, Checked.both_eq_ok_iff,
    Checked.both_eq_ok_iff,
    required_text_eq_ok_iff Check.nonemptyText_eq_ok_iff,
    required_text_eq_ok_iff Check.nonemptyText_eq_ok_iff,
    required_text_eq_ok_iff Member.check_eq_ok_iff, Check.noOthers_eq_ok_iff]
  simp only [and_assoc]

end Parameters

/-! ## Resources -/

namespace Resource

/-- The fields of parameters that are given as texts. -/
def parameterFields (bucket role member : String) : Fields :=
  [("bucket", .str bucket), ("role", .str role), ("member", .str member)]

/-- The fields of a resource that gives its parameters as texts. -/
def describing (name bucket role member : String) : Fields :=
  [("name", .str name),
    ("spec", .obj
      [("for_provider", .obj (parameterFields bucket role member))])]

/-- **A resource is accepted if its parameters are**, and refused for what is
wrong with them otherwise. -/
theorem make_describing (now : Outcome Time.Timestamp)
    (name bucket role member : String) :
    make now (describing name bucket role member) =
      match Parameters.check (parameterFields bucket role member) with
      | .ok p => .ok (declaring name p false)
      | .error issues => .error (.invalid ⟨model, issues.map fun issue =>
          { issue with
            path := .name "spec" :: .name "for_provider" :: issue.path }⟩) := by
  generalize hp : Parameters.check (parameterFields bucket role member) =
    checked
  have hspec : Check.required (describing name bucket role member) "spec"
      (Check.object Spec.model Spec.check) =
        Checked.within (.name "spec")
          (do return ⟨.valid (← checked.within (.name "for_provider"))⟩) := by
    rw [← hp]
    rfl
  show Outcome.ofModel
    ((check default (describing name bucket role member)).report model) = _
  rw [check, hspec]
  cases checked with
  | ok p => rfl
  | error issues =>
      -- an issue is put below the parameters first, then the specification
      show Except.error (Fault.invalid ⟨model, (issues.map _).map _⟩) = _
      rw [List.map_map]
      rfl

theorem check_parameterFields_eq_ok_iff {bucket role member : String}
    {p : Parameters} :
    Parameters.check (parameterFields bucket role member) = .ok p ↔
      p = ⟨bucket, role, member⟩ ∧ bucket ≠ "" ∧ role ≠ "" ∧
      Member.Named member := by
  have hbucket : (parameterFields bucket role member).lookup "bucket" =
      some (.str bucket) := rfl
  have hrole : (parameterFields bucket role member).lookup "role" =
      some (.str role) := rfl
  have hmember : (parameterFields bucket role member).lookup "member" =
      some (.str member) := rfl
  have hknown : ∀ e ∈ parameterFields bucket role member,
      e.1 ∈ Parameters.known := by
    simp [parameterFields, Parameters.known]
  rw [Parameters.check_eq_ok_iff, hbucket, hrole, hmember]
  constructor
  · obtain ⟨bucket', role', member'⟩ := p
    rintro ⟨⟨heq, hb⟩, ⟨heq', hr⟩, ⟨heq'', hm⟩, -⟩
    cases heq
    cases heq'
    cases heq''
    exact ⟨rfl, hb, hr, hm⟩
  · rintro ⟨rfl, hb, hr, hm⟩
    exact ⟨⟨rfl, hb⟩, ⟨rfl, hr⟩, ⟨rfl, hm⟩, hknown⟩

/-- **The grammar of resources.**  A resource that gives bucket, role and member
as texts is accepted exactly if bucket and role are not empty and the member is
a name by the grammar; else it is refused with a report.  One that is accepted
declares the three texts as they were given. -/
theorem accepted_iff_grammatical (now : Outcome Time.Timestamp)
    (name bucket role member : String) :
    ((∃ r, make now (describing name bucket role member) = .ok r) ↔
        bucket ≠ "" ∧ role ≠ "" ∧ Member.Named member) ∧
      (∀ r, make now (describing name bucket role member) = .ok r →
        r.binding = .ok ⟨bucket, role, member⟩) ∧
      ∀ fault, make now (describing name bucket role member) = .error fault →
        ∃ report, fault = .invalid report := by
  rw [make_describing]
  cases hp : Parameters.check (parameterFields bucket role member) with
  | ok p =>
      obtain ⟨rfl, hgrammar⟩ := check_parameterFields_eq_ok_iff.mp hp
      refine ⟨iff_of_true ⟨_, rfl⟩ hgrammar, fun r hr => ?_, nofun⟩
      cases hr
      exact binding_declaring name _ false
  | error issues =>
      have hrefused : ¬ (bucket ≠ "" ∧ role ≠ "" ∧ Member.Named member) := by
        intro hgrammar
        rw [check_parameterFields_eq_ok_iff.mpr ⟨rfl, hgrammar⟩] at hp
        cases hp
      refine ⟨iff_of_false nofun hrefused, nofun, fun fault hfault => ?_⟩
      cases hfault
      exact ⟨_, rfl⟩

/-- Colons after the first belong to the identifier; one at the beginning leaves
no kind. -/
theorem accepted_iff_grammatical_colons :
    let unread : Outcome Time.Timestamp := .error (.malformed .notANumber)
    (∃ r, make unread (describing "" "b" "r" "principal::x:") = .ok r ∧
        r.binding = .ok ⟨"b", "r", "principal::x:"⟩) ∧
      ¬ Member.Named ":u:a" ∧
      ∃ report, make unread (describing "" "b" "r" ":u:a") =
        .error (.invalid report) := by
  intro unread
  obtain ⟨haccepted, hdeclares, -⟩ :=
    accepted_iff_grammatical unread "" "b" "r" "principal::x:"
  obtain ⟨hrefused, -, hreport⟩ :=
    accepted_iff_grammatical unread "" "b" "r" ":u:a"
  have hnamed : Member.Named "principal::x:" :=
    @Member.Named.ofKind "principal" ":x:" (by decide) (by decide) (by decide)
  have hother : ¬ Member.Named ":u:a" :=
    fun h => absurd (Member.isValid_iff_named.mpr h) (by decide)
  refine ⟨?_, hother, ?_⟩
  · obtain ⟨r, hr⟩ := haccepted.mpr ⟨by decide, by decide, hnamed⟩
    exact ⟨r, hr, hdeclares r hr⟩
  · cases hmade : make unread (describing "" "b" "r" ":u:a") with
    | ok r => exact absurd (hrefused.mp ⟨r, hmade⟩).2.2 hother
    | error fault =>
        obtain ⟨report, rfl⟩ := hreport fault hmade
        exact ⟨report, rfl⟩

end Resource

end GrantKeeper
