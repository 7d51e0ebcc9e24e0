import GrantKeeper.Proofs.Cycle.Operations
import GrantKeeper.Proofs.Cycle.Transcript
import GrantKeeper.Proofs.Resource.Declared

/-!
# Assignments

Only the parameters of a resource are frozen; what stands around them can be
overwritten with any value, checked or not.  An assignment through names of
fields that succeeds below the specification puts a raw value in its place or in
that of the parameters, and a raw value declares nothing, whatever it looks
like.  So a resource either declares what it declared when it was made, or
nothing any more.

## Main results

* `Resource.forfeits_of_assignSpec` — what an assignment to the specification
  leaves.
* `Resource.spec_of_assign` — what any assignment leaves of the specification.
* `Resource.binding_not_rewritten` — what a resource declares after any number
  of assignments.
-/

namespace GrantKeeper

/-- An assignment of a value through a path of names. -/
structure Assignment where
  path : List String
  value : Json

/-- All names on the path are names of fields: none is hidden. -/
def Assignment.IsPlain (a : Assignment) : Prop :=
  ∀ name ∈ a.path, Resource.isHidden name = false

namespace Resource

/-- The resource after an assignment; one that fails leaves it as it is. -/
def assigned (r : Resource) (a : Assignment) : Resource :=
  match r.assign a.value a.path with
  | .ok s => s
  | .error _ => r

/-- The resource after assignments, one after the other. -/
def assignedAll (r : Resource) (assignments : List Assignment) : Resource :=
  assignments.foldl assigned r

variable {r s : Resource} {p : Parameters} {value : Json} {path : List String}

/-! ## One assignment -/

/-- A raw value has taken the place of the specification, or of the parameters
in it. -/
inductive Forfeits : Slot Spec → Prop
  | spec (value : Json) : Forfeits (.raw value)
  | parameters (value : Json) : Forfeits (.valid ⟨.raw value⟩)

/-- The parameters are in their place, or forfeited. -/
def Keeps (p : Parameters) (slot : Slot Spec) : Prop :=
  slot = .valid ⟨.valid p⟩ ∨ Forfeits slot

theorem assignOther_of_plain {α : Type} {refusal : AssignmentError}
    {slot : Slot α} {field : String}
    (h : isHidden field = false) :
    assignOther refusal slot value field = .error refusal := by
  rw [assignOther, if_neg (Bool.eq_false_iff.mp h)]

/-- **Parameters are frozen**, and raw values have no slots: nothing is written
into either. -/
theorem assignParameters_of_plain {slot : Slot Parameters}
    (hslot : slot = .valid p ∨ ∃ raw, slot = .raw raw)
    (hplain : ∀ name ∈ path, isHidden name = false) :
    ∃ e, assignParameters slot value path = .error e := by
  obtain rfl | ⟨raw, rfl⟩ := hslot
  · match path, hplain with
    | [], _ => exact ⟨_, rfl⟩
    | [field], hplain =>
        exact ⟨_, assignOther_of_plain (hplain field List.mem_cons_self)⟩
    | _ :: _ :: _, _ => exact ⟨_, rfl⟩
  · exact ⟨_, rfl⟩

/-- **What an assignment to the specification leaves**, if it succeeds: a raw
value in place of the parameters. -/
theorem forfeits_of_assignSpec {slot slot' : Slot Spec} (hslot : Keeps p slot)
    (hplain : ∀ name ∈ path, isHidden name = false)
    (h : assignSpec slot value path = .ok slot') : Forfeits slot' := by
  have hbelow {spec : Spec} (hspec : slot = .valid spec) :
      spec.forProvider = .valid p ∨ ∃ raw, spec.forProvider = .raw raw := by
    subst hspec
    obtain heq | hforfeits := hslot
    · cases heq
      exact Or.inl rfl
    · cases hforfeits with
      | parameters raw => exact Or.inr ⟨raw, rfl⟩
  -- all fields at once are replaced through hidden names only
  have hreplaced {fields : Fields} (hfields : slot = .replaced fields) :
      False := by
    subst hfields
    obtain heq | hforfeits := hslot
    · cases heq
    · cases hforfeits
  unfold assignSpec at h
  split at h
  · cases h
  · cases h
    exact .parameters value
  · exact absurd rfl hreplaced
  · rename_i field _ _ _
    rw [assignOther_of_plain (hplain field List.mem_cons_self)] at h
    cases h
  · rename_i spec rest _
    obtain ⟨e, he⟩ := assignParameters_of_plain (hbelow rfl) fun name hname =>
      hplain name (List.mem_cons_of_mem _ hname)
    rw [he] at h
    cases h
  · cases h
  · cases h

/-- **What any assignment leaves of the specification**: all of it, or nothing
that declares anything. -/
theorem spec_of_assign (hspec : Keeps p r.spec)
    (hplain : ∀ name ∈ path, isHidden name = false)
    (h : r.assign value path = .ok s) : s.spec = r.spec ∨ Forfeits s.spec := by
  have hrest {name : String} {rest : List String}
      (hpath : path = name :: rest) :
      ∀ name ∈ rest, isHidden name = false := fun name hname =>
    hplain name (hpath ▸ List.mem_cons_of_mem _ hname)
  unfold assign at h
  split at h
  · cases h
  · cases h
    exact Or.inl rfl
  · cases h
    exact Or.inr (.spec value)
  · cases h
    exact Or.inl rfl
  · cases h
    exact Or.inl rfl
  · rename_i field _ _ _ _
    rw [if_neg (Bool.eq_false_iff.mp (hplain field List.mem_cons_self))] at h
    cases h
  · obtain ⟨slot, hslot, hs⟩ := exists_of_bind_eq_ok h
    cases hs
    exact Or.inr (forfeits_of_assignSpec hspec (hrest rfl) hslot)
  · obtain ⟨slot, -, hs⟩ := exists_of_bind_eq_ok h
    cases hs
    exact Or.inl rfl
  · cases h
  · cases h
  · cases h

/-! ## Any number of assignments -/

/-- **What an assignment leaves**, be it one that fails. -/
theorem spec_assigned (hspec : Keeps p r.spec) {a : Assignment}
    (hplain : a.IsPlain) :
    (r.assigned a).spec = r.spec ∨ Forfeits (r.assigned a).spec := by
  unfold assigned
  split
  · rename_i s hs
    exact spec_of_assign hspec hplain hs
  · exact Or.inl rfl

/-- **What assignments leave**: the specification as it was, or nothing that
declares anything. -/
theorem spec_assignedAll (hspec : Keeps p r.spec)
    {assignments : List Assignment} (hplain : ∀ a ∈ assignments, a.IsPlain) :
    (r.assignedAll assignments).spec = r.spec ∨
    Forfeits (r.assignedAll assignments).spec := by
  induction assignments generalizing r with
  | nil => exact Or.inl rfl
  | cons a rest ih =>
      obtain ⟨ha, hrest⟩ := List.forall_mem_cons.mp hplain
      show ((r.assigned a).assignedAll rest).spec = r.spec ∨
        Forfeits ((r.assigned a).assignedAll rest).spec
      rcases spec_assigned hspec ha with hsame | hforfeits
      · rw [← hsame]
        exact ih (hsame ▸ hspec) hrest
      -- the rest of the run starts from what is forfeited: it leaves that, or
      -- forfeits again
      · rcases ih (Or.inr hforfeits) hrest with hsame | hlost
        · exact Or.inr (hsame ▸ hforfeits)
        · exact Or.inr hlost

/-- What is forfeited stays so. -/
theorem forfeits_assignedAll (h : Forfeits r.spec)
    {assignments : List Assignment}
    (hplain : ∀ a ∈ assignments, a.IsPlain) :
    Forfeits (r.assignedAll assignments).spec := by
  rcases spec_assignedAll (p := default) (Or.inr h) hplain
    with hsame | hforfeits
  · exact hsame ▸ h
  · exact hforfeits

/-! ## What a resource declares -/

/-- All that a resource declares stands in its specification. -/
theorem binding_congr (h : r.spec = s.spec) : r.binding = s.binding := by
  rw [binding, binding, declared, declared, h]

theorem binding_of_forfeits (h : Forfeits r.spec) :
    r.binding = .error .noFields := by
  rw [binding, declared]
  generalize r.spec = slot at h
  cases h <;> rfl

/-- **A binding is not rewritten.**  After any number of assignments through
names of fields, some of which may fail, a resource that passed the checks
declares the binding that it declared then, and every verb on it makes the calls
that it would have made then; or it declares nothing, and never will after more
assignments, and every verb on it fails before it makes any call. -/
theorem binding_not_rewritten {τ : Type} [Seconds τ] {now : Time.Timestamp}
    {fields : Fields}
    (hmade : ofFields now fields = .ok r) {assignments : List Assignment}
    (hplain : ∀ a ∈ assignments, a.IsPlain) : ∃ b, r.binding = .ok b ∧
      let s := r.assignedAll assignments
      (s.binding = .ok b ∧
        ∀ (client : Client τ) (deed : Deed)
          (w : World τ (StorageCall τ) Json Service),
          w.transcript (Service.remote τ) (deed.program client (.member s)) =
            w.transcript (Service.remote τ) (deed.program client (.member r))) ∨
      (s.binding = .error .noFields ∧
        (∀ later : List Assignment, (∀ a ∈ later, a.IsPlain) →
          (s.assignedAll later).binding = .error .noFields) ∧
        ∀ (client : Client τ) (deed : Deed)
          (w : World τ (StorageCall τ) Json Service),
          w.run (Service.remote τ) (deed.program client (.member s)) =
            (.error (.malformed .noFields), w)) := by
  obtain ⟨p, conditions, deletion, hfrom⟩ := exists_madeFrom hmade
  have hbinding : r.binding = .ok ⟨p.bucket, p.role, p.member⟩ := by
    rw [binding, declared, hfrom.spec]
    rfl
  refine ⟨_, hbinding, ?_⟩
  intro s
  rcases spec_assignedAll (Or.inl hfrom.spec) hplain with hsame | hforfeits
  · have hdeclared : s.binding = r.binding := binding_congr hsame
    have hmanaged : (Managed.member s).binding = (Managed.member r).binding :=
      congrArg Outcome.ofShape hdeclared
    refine Or.inl ⟨hdeclared.trans hbinding, fun client deed w => ?_⟩
    rw [deed.program_congr hmanaged]
  · have hlost : s.binding = .error .noFields := binding_of_forfeits hforfeits
    refine Or.inr ⟨hlost, fun later hlater =>
      binding_of_forfeits (forfeits_assignedAll hforfeits hlater),
        fun client deed w => ?_⟩
    have hfails : (Managed.member s).binding = .error (.malformed .noFields) :=
      congrArg Outcome.ofShape hlost
    have hprogram : deed.program client (.member s) =
        .fail (.malformed .noFields) :=
      @Operation.program_of_error τ (.verb client deed (.member s)) _ hfails
    rw [hprogram]
    rfl

/-- Assignments that fail, or that go past the specification. -/
def harmless : List Assignment :=
  [⟨["spec", "for_provider", "role"], .str "owner"⟩,
    ⟨["deletion_requested"], .int 5⟩, ⟨["status"], .null⟩]

/-- Parameters that only look like some, and an attempt to write into them. -/
def lookAlike : List Assignment :=
  [⟨["spec", "for_provider"], .obj (parameterFields "b" "owner" "u:a")⟩,
    ⟨["spec", "for_provider", "role"], .str "r"⟩]

theorem binding_not_rewritten_lookAlike :
    let r := declaring "m" ⟨"b", "r", "u:a"⟩ false
    let forfeited := r.assignedAll (harmless ++ lookAlike)
    ofFields default (describing "m" "b" "r" "u:a") = .ok r ∧
      (r.assignedAll harmless).binding = .ok ⟨"b", "r", "u:a"⟩ ∧
      forfeited.binding = .error .noFields ∧
      ∀ later : List Assignment, (∀ a ∈ later, a.IsPlain) →
        (forfeited.assignedAll later).binding = .error .noFields := by
  intro r forfeited
  have hmade : ofFields default (describing "m" "b" "r" "u:a") = .ok r := rfl
  have hharmless : ∀ a ∈ harmless, a.IsPlain := by
    unfold Assignment.IsPlain; decide
  have hboth : ∀ a ∈ harmless ++ lookAlike, a.IsPlain := by
    unfold Assignment.IsPlain; decide
  have hdeclares : (r.assignedAll harmless).binding ≠ .error .noFields := by
    have hkept : (r.assignedAll harmless).binding = .ok ⟨"b", "r", "u:a"⟩ := rfl
    rw [hkept]
    exact nofun
  have hlost : forfeited.binding = .error .noFields := rfl
  obtain ⟨b, hb, ⟨hkept, -⟩ | ⟨hnone, -, -⟩⟩ :=
    @binding_not_rewritten _ Int _ _ _ hmade _ hharmless
  · obtain ⟨b', -, ⟨hother, -⟩ | ⟨-, hlater, -⟩⟩ :=
      @binding_not_rewritten _ Int _ _ _ hmade _ hboth
    · cases hlost.symm.trans hother
    · exact ⟨hmade, hkept.trans hb.symm, hlost, hlater⟩
  · exact absurd hnone hdeclares

end Resource

end GrantKeeper
