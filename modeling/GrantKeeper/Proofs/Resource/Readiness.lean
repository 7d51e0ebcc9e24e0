import Mathlib
import GrantKeeper.Proofs.Cycle.Noted
import GrantKeeper.Proofs.Resource.Declared

/-!
# Readiness over a history

A control loop handles one resource again and again.  `Episode` is one operation
on it, in a world that is as others left it; `Resource.through` is the resource
after a history of them.  An episode leaves the resource as it is, or sets it
available if its look found the binding in place.  Nothing ever takes that back:
after a look that found no binding, a resource is ready exactly if it was ready
at the start or an earlier look found the binding.

## Main results

* `Episode.after_cases` — all that an episode does to a resource.
* `Resource.isReady_through` — what makes a resource ready.
* `ready_despite_drift` — what a resource says after a look that found no
  binding.
* `ready_though_gone` — it is found, then it is gone, and the resource is still
  ready.
-/

namespace GrantKeeper

/-! ## Conditions -/

namespace Conditions

/-- The conditions say that the resource is ready. -/
def isReady (conditions : Conditions) : Bool :=
  conditions.any fun c => c.type == "Ready" && c.verdict == .yes

/-- Who is set available is ready. -/
theorem isReady_set_available (time : Time.Timestamp)
    (conditions : Conditions) :
    (set (.available time) conditions).isReady = true := by
  obtain ⟨c, hget, hagrees⟩ := get?_set_self (.available time) conditions
  have htype := List.find?_some hget
  have hverdict : (c.verdict == .yes) = true :=
    (Bool.and_eq_true_iff.mp hagrees).1
  refine List.any_eq_true.mpr ⟨c, List.mem_of_find?_eq_some hget, ?_⟩
  exact Bool.and_eq_true_iff.mpr ⟨htype, hverdict⟩

end Conditions

namespace Resource

/-- The resource has these conditions, and they can be set. -/
def HasStatus (r : Resource) (conditions : Conditions) : Prop :=
  r.status = .valid ⟨.valid conditions⟩

theorem HasStatus.conditions {r : Resource} {conditions : Conditions}
    (h : r.HasStatus conditions) : r.conditions = .ok conditions := by
  have hplaces : r.conditionPlaces = .ok (conditions.map some) := by
    unfold conditionPlaces
    rw [h]
  rw [Resource.conditions, hplaces]
  exact congrArg Except.ok ((List.filterMap_map).trans List.filterMap_some)

theorem HasStatus.setConditions {r : Resource} {conditions : Conditions}
    (h : r.HasStatus conditions)
    (news : List Condition) :
    (r.setConditions news).HasStatus (conditions.setAll news) := by
  unfold HasStatus Resource.setConditions
  rw [h]

end Resource

/-! ## Episodes -/

/-- The operation with a resource to work on. -/
def Operation.on {τ : Type} (r : Resource) : Operation τ → Operation τ
  | .verb client deed _ => .verb client deed (.member r)
  | .visit connector deed _ => .visit connector deed (.member r)
  | .cycle connector _ => .cycle connector (.member r)

/-- One operation on a resource.  The world is as others left it when the
operation begins. -/
structure Episode (τ : Type) where
  operation : Operation τ
  world : World τ (StorageCall τ) Json Service

namespace Episode

variable {τ : Type} [Seconds τ]

/-- The world in which an episode begins. -/
def start (e : Episode τ) (r : Resource) :
    World τ (StorageCall τ) Json Service :=
  { e.world with resource? := some r }

/-- The resource after an episode. -/
def after (e : Episode τ) (r : Resource) : Resource :=
  ((e.operation.on r).run (e.start r)).2.resource?.getD r

/-- What the look of an episode found, if there was one that returned. -/
def found? (e : Episode τ) (r : Resource) : Option (Observation Bool) :=
  (e.operation.on r).look?.bind fun p =>
    ((e.start r).run (Service.remote τ) p).1.toOption

/-- What the calendar shows at the end of the look of an episode, if there was
one. -/
def shown? (e : Episode τ) (r : Resource) : Option Time.Timestamp :=
  (e.operation.on r).look?.bind fun p =>
    ((e.start r).run (Service.remote τ) p).2.clock.wall.toOption

/-- **All that an episode does to a resource**: it sets it available if its look
found the binding in place, at the time of that look. -/
theorem after_cases (e : Episode τ) (r : Resource) :
    (e.found? r = some .inPlace ∧
      ∃ time, e.shown? r = some time ∧
        e.after r = r.setConditions [.available time]) ∨
      (e.found? r ≠ some .inPlace ∧ e.after r = r) := by
  unfold after found? shown?
  rw [Operation.resource?_run]
  cases hlook : (e.operation.on r).look? with
  | none => exact Or.inr ⟨nofun, rfl⟩
  | some p =>
      have hnoted := Operation.noted_look hlook (e.start r)
      simp only [Option.bind_some]
      generalize (e.start r).run (Service.remote τ) p = run at hnoted ⊢
      cases hnoted with
      | failed fault h =>
          rw [h]
          exact Or.inr ⟨nofun, rfl⟩
      | absent h =>
          rw [h]
          exact Or.inr ⟨nofun, rfl⟩
      | inPlace hwall h =>
          rw [h]
          exact Or.inl ⟨rfl, _, congrArg Except.toOption hwall, rfl⟩

/-- An episode leaves conditions that can be set, and it makes a resource ready
if its look found the binding. -/
theorem exists_hasStatus_after (e : Episode τ) {r : Resource}
    {conditions : Conditions}
    (h : r.HasStatus conditions) :
    ∃ conditions', (e.after r).HasStatus conditions' ∧
      (conditions'.isReady = true ↔
        conditions.isReady = true ∨ e.found? r = some .inPlace) := by
  obtain ⟨hfound, time, -, hafter⟩ | ⟨hfound, hafter⟩ := e.after_cases r
  · rw [hafter]
    refine ⟨_, h.setConditions _, iff_of_true ?_ (Or.inr hfound)⟩
    exact Conditions.isReady_set_available time conditions
  · rw [hafter]
    exact ⟨conditions, h, (or_iff_left hfound).symm⟩

end Episode

namespace Resource

variable {τ : Type} [Seconds τ]

/-- The resource after a history. -/
def through (r : Resource) (history : List (Episode τ)) : Resource :=
  history.foldl (fun r e => e.after r) r

/-- Some look of a history found the binding in place. -/
def WasFound (r : Resource) (history : List (Episode τ)) : Prop :=
  ∃ before e later,
    history = before ++ e :: later ∧ e.found? (r.through before) = some .inPlace

theorem not_wasFound_nil (r : Resource) :
    ¬ r.WasFound ([] : List (Episode τ)) := by
  rintro ⟨before, e, later, hempty, -⟩
  exact List.append_ne_nil_of_right_ne_nil before (List.cons_ne_nil e later)
    hempty.symm

theorem wasFound_cons {r : Resource} {e : Episode τ}
    {history : List (Episode τ)} :
    r.WasFound (e :: history) ↔
      e.found? r = some .inPlace ∨ (e.after r).WasFound history := by
  constructor
  · rintro ⟨before, e', later, hsplit, hfound⟩
    cases before with
    | nil =>
        obtain ⟨rfl, -⟩ := List.cons.inj hsplit
        exact Or.inl hfound
    | cons first before =>
        obtain ⟨rfl, hrest⟩ := List.cons.inj hsplit
        exact Or.inr ⟨before, e', later, hrest, hfound⟩
  · rintro (hfound | ⟨before, e', later, rfl, hfound⟩)
    · exact ⟨[], e, history, rfl, hfound⟩
    · exact ⟨e :: before, e', later, rfl, hfound⟩

/-- **What makes a resource ready**: that it was so at the start, or that some
look found the binding in place. -/
theorem isReady_through {r : Resource} {conditions : Conditions}
    (h : r.HasStatus conditions)
    (history : List (Episode τ)) :
    ∃ conditions', (r.through history).HasStatus conditions' ∧
      (conditions'.isReady = true ↔
        conditions.isReady = true ∨ r.WasFound history) := by
  induction history generalizing r conditions with
  | nil => exact ⟨conditions, h, (or_iff_left r.not_wasFound_nil).symm⟩
  | cons e history ih =>
      obtain ⟨next, hnext, hready⟩ := e.exists_hasStatus_after h
      obtain ⟨last, hlast, hlater⟩ := ih hnext
      exact ⟨last, hlast, by rw [hlater, hready, wasFound_cons, or_assoc]⟩

end Resource

/-! ## Drift -/

/-- **What a resource says after a look that found no binding.**  The look
leaves the resource as it was; so a resource that was not ready at the start is
ready now exactly if an earlier look of its history found the binding in place,
however long ago and whatever was done since. -/
theorem ready_despite_drift {τ : Type} [Seconds τ] {now : Time.Timestamp}
    {fields : Fields}
    {r : Resource} (hmade : Resource.ofFields now fields = .ok r)
    {initial : Conditions}
    (hinitial : r.conditions = .ok initial) (hunready : initial.isReady = false)
    (history : List (Episode τ)) (last : Episode τ) {found : Observation Bool}
    (hlook : last.found? (r.through history) = some found)
    (hdrift : found.present = false) :
    r.through (history ++ [last]) = r.through history ∧
      ∃ conditions,
        (r.through (history ++ [last])).conditions = .ok conditions ∧
          (conditions.isReady = true ↔ r.WasFound history) := by
  have hsame : r.through (history ++ [last]) = r.through history := by
    rw [Resource.through, List.foldl_append]
    obtain ⟨hfound, -⟩ | ⟨-, hafter⟩ := last.after_cases (r.through history)
    · rw [hlook] at hfound
      cases hfound
      cases hdrift
    · exact hafter
  obtain ⟨p, conditions, deletion, hfrom⟩ := Resource.exists_madeFrom hmade
  have hstatus : r.HasStatus conditions := hfrom.status
  obtain rfl : conditions = initial :=
    Except.ok.inj (hstatus.conditions.symm.trans hinitial)
  obtain ⟨conditions', hstatus', hready⟩ :=
    Resource.isReady_through hstatus history
  refine ⟨hsame, conditions', ?_, ?_⟩
  · rw [hsame]
    exact hstatus'.conditions
  · rw [hready, hunready, or_iff_right Bool.false_ne_true]

/-- The fields of a resource that has never been looked at. -/
def freshFields : Fields :=
  [("name", .str "m"), ("spec", .obj [("for_provider",
    .obj [("bucket", .str "b"), ("role", .str "r"), ("member", .str "u:a")])])]

/-- A policy that gives the role to these members. -/
def policyFor (members : List Json) : Json :=
  .obj [("etag", .str "1"),
    ("bindings", .arr [.obj [("role", .str "r"), ("members", .arr members)]])]

/-- An episode on a bucket with this policy. -/
def episodeOn (policy : Json) (operation : Operation Int) : Episode Int :=
  ⟨operation, .around 0 [("b", policy)]⟩

/-- A look through a client that is there. -/
def glance : Operation Int := .verb ⟨30⟩ .observe (.other .null)

/-- The binding is found, then it is gone, and the resource is still ready. -/
theorem ready_though_gone :
    let r := Resource.declaring "m" ⟨"b", "r", "u:a"⟩ false
    let history := [episodeOn (policyFor [.str "u:a"]) glance]
    let last := episodeOn (policyFor [.str "u:b"]) glance
    Resource.ofFields default freshFields = .ok r ∧ r.conditions = .ok [] ∧
      last.found? (r.through history) = some .absent ∧
      (r.through (history ++ [last])).conditions.map Conditions.isReady =
        .ok true := by
  cbv

/-- A cycle gives the role, the next one finds it given, and somebody who took
it away has it given again. -/
def pastCycles : List (Episode Int) :=
  let cycle : Operation Int :=
    .cycle ⟨⟨"p", .given .null, none⟩, 30, ""⟩ (.other .null)
  [episodeOn (policyFor []) cycle, episodeOn (policyFor [.str "u:a"]) cycle,
    episodeOn (policyFor []) cycle]

theorem ready_despite_drift_taken :
    let r := Resource.declaring "m" ⟨"b", "r", "u:a"⟩ false
    (episodeOn (policyFor []) glance).found? (r.through pastCycles) =
      some .absent ∧
      ∃ conditions,
        (r.through
          (pastCycles ++ [episodeOn (policyFor []) glance])).conditions =
            .ok conditions ∧
          conditions.isReady = true := by
  have hlook : (episodeOn (policyFor []) glance).found?
      ((Resource.declaring "m" ⟨"b", "r", "u:a"⟩ false).through pastCycles) =
        some .absent := by
    cbv
  obtain ⟨-, conditions, hconditions, hready⟩ :=
    ready_despite_drift (show Resource.ofFields default freshFields = _ by cbv)
      rfl rfl pastCycles
      (episodeOn (policyFor []) glance) hlook rfl
  exact ⟨hlook, conditions, hconditions, hready.mpr ⟨[_], _, [_], rfl, by cbv⟩⟩

end GrantKeeper
