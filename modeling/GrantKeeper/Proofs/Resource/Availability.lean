import Mathlib
import GrantKeeper.Proofs.Resource.Conditions
import GrantKeeper.Proofs.Resource.Readiness

/-!
# Conditions over a history

All that a history ever does to the conditions of a resource is to set it
available, once for every look that found the binding in place, at the time of
that look: `Resource.exists_times_through`.  So of all conditions only the one
on readiness changes, and once a look found the binding, that one stays as it is
from then on, with its time.

## Main results

* `Episode.found?_of_deed` — a verb that does not look, or fails to, finds
  nothing.
* `Conditions.get?_set_available` — a resource that is available already keeps
  the time since when.
* `status_over_history` — the conditions of a resource, before and after every
  episode of a history.
-/

namespace GrantKeeper

/-! ## Being available -/

namespace Condition

/-- The condition says that a resource is available. -/
structure IsAvailable (c : Condition) : Prop where
  type : c.type = "Ready"
  verdict : c.verdict = .yes
  reason : c.reason = "Available"

theorem isAvailable_available (time : Time.Timestamp) :
    (available time).IsAvailable := ⟨rfl, rfl, rfl⟩

/-- A condition that says so stays, however often the resource is set
available. -/
theorem IsAvailable.through {c : Condition} (h : c.IsAvailable)
    (times : List Time.Timestamp) : c.through (times.map .available) = c := by
  refine through_of_agrees fun new hnew _ => ?_
  obtain ⟨time, -, rfl⟩ := List.mem_map.mp hnew
  exact agrees_iff.mpr ⟨h.verdict, h.reason⟩

end Condition

namespace Conditions

/-- **A resource that is available already keeps the time since when**; any
other is so from now on. -/
theorem get?_set_available (time : Time.Timestamp) (conditions : Conditions) :
    ∃ c, get? (set (.available time) conditions) "Ready" = some c ∧
      c.IsAvailable ∧ (get? conditions "Ready" = some c ∨
        c.since = time ∧
        ∀ old, get? conditions "Ready" = some old → ¬ old.IsAvailable) := by
  have hnew := Condition.isAvailable_available time
  rw [get?_set]
  cases hheld : get? conditions "Ready" with
  | none =>
      refine ⟨.available time, ?_, hnew, Or.inr ⟨rfl, nofun⟩⟩
      exact congrArg some (hnew.through [time])
  | some old =>
      rw [Option.some_or, Option.map_some]
      by_cases hold : old.IsAvailable
      · exact ⟨old, congrArg some (hold.through [time]), hold, Or.inl rfl⟩
      · have htype : old.type = "Ready" := type_of_get? hheld
        have hother : ¬ old.agrees (.available time) = true := fun h =>
          hold ⟨htype, (Condition.agrees_iff.mp h).1,
            (Condition.agrees_iff.mp h).2⟩
        have htaken : old.through [.available time] = .available time := by
          rw [Condition.through_cons_of_type htype, Condition.through_nil,
            Condition.renewed_of_not_agrees hother]
        refine ⟨.available time, congrArg some htaken, hnew,
          Or.inr ⟨rfl, fun d hd => ?_⟩⟩
        rwa [← Option.some.inj hd]

/-- What says that a resource is available stands for readiness ever after. -/
theorem get?_setAll_available {conditions : Conditions} {c : Condition}
    (h : get? conditions "Ready" = some c)
    (havailable : c.IsAvailable) (times : List Time.Timestamp) :
    get? (setAll (times.map .available) conditions) "Ready" = some c := by
  rw [get?_setAll, h, Option.some_or, Option.map_some, havailable.through]

end Conditions

/-! ## Episodes that find nothing -/

/-- The verb of an operation, unless it is a cycle. -/
def Operation.deed? {τ : Type} : Operation τ → Option Deed
  | .verb _ deed _ => some deed
  | .visit _ deed _ => some deed
  | .cycle _ _ => none

namespace Episode

variable {τ : Type} [Seconds τ]

/-- The operation of an episode fails. -/
def Fails (e : Episode τ) (r : Resource) : Prop :=
  ∃ fault, ((e.operation.on r).run (e.start r)).1 = .error fault

/-- **A verb that does not look, or fails to, finds nothing.** -/
theorem found?_of_deed {e : Episode τ} {r : Resource} {deed : Deed}
    (h : e.operation.deed? = some deed)
    (hapart : deed ≠ .observe ∨ e.Fails r) : e.found? r = none := by
  obtain ⟨op, world⟩ := e
  have hlook {p : StorageProgram τ (Observation Bool)}
      (hp : (op.on r).look? = some p)
      (hfails : ∃ fault,
        (World.run (Service.remote τ) p { world with resource? := some r }).1 =
          .error fault) : found? ⟨op, world⟩ r = none := by
    obtain ⟨fault, hfault⟩ := hfails
    rw [found?, hp, Option.bind_some, start, hfault]
    rfl
  cases op with
  | cycle connector managed => cases h
  | verb client deed' managed =>
      obtain rfl := Option.some.inj h
      cases deed' with
      | observe => exact hlook rfl (hapart.resolve_left (absurd rfl))
      | _ => rfl
  | visit connector deed' managed =>
      obtain rfl := Option.some.inj h
      cases deed' with
      | observe => exact hlook rfl (hapart.resolve_left (absurd rfl))
      | _ => rfl

theorem after_of_not_found {e : Episode τ} {r : Resource}
    (h : e.found? r ≠ some .inPlace) : e.after r = r := by
  obtain ⟨hfound, -⟩ | ⟨-, hafter⟩ := e.after_cases r
  · exact absurd hfound h
  · exact hafter

end Episode

/-! ## Histories -/

namespace Resource

variable {τ : Type} [Seconds τ]

theorem through_append (r : Resource) (earlier later : List (Episode τ)) :
    r.through (earlier ++ later) = (r.through earlier).through later :=
  List.foldl_append

/-- **All that a history does to conditions**: it sets the resource available,
some number of times. -/
theorem exists_times_through {r : Resource} {conditions : Conditions}
    (h : r.HasStatus conditions)
    (history : List (Episode τ)) : ∃ times : List Time.Timestamp,
      (r.through history).HasStatus
        (conditions.setAll (times.map .available)) := by
  induction history generalizing r conditions with
  | nil => exact ⟨[], h⟩
  | cons e history ih =>
      obtain ⟨-, time, -, hafter⟩ | ⟨-, hafter⟩ := e.after_cases r
      · have hnext : (e.after r).HasStatus
            (conditions.set (.available time)) := by
          rw [hafter]
          exact h.setConditions [.available time]
        obtain ⟨times, hlater⟩ := ih hnext
        exact ⟨time :: times, hlater⟩
      · have hsame : (e.after r).HasStatus conditions := by
          rw [hafter]
          exact h
        exact ih hsame

end Resource

/-- **The conditions of a resource over a history.**  Whatever its episodes are
and whatever happens in them, types stay distinct, and a condition on anything
but readiness stays where and as it was.  An episode that did not find the
binding in place leaves all of the resource as it is; such are the verbs that
write, and a look that fails. After one that found it, the resource is
available, since then or since before if it was available already; and that
stays so through whatever comes after, with its time. -/
theorem status_over_history {τ : Type} [Seconds τ] {now : Time.Timestamp}
    {fields : Fields} {r : Resource}
    (hmade : Resource.ofFields now fields = .ok r) {initial : Conditions}
    (hinitial : r.conditions = .ok initial) (hdistinct : initial.types.Nodup)
    (history : List (Episode τ)) :
    let s := r.through history
    ∃ held, s.conditions = .ok held ∧ held.types.Nodup ∧
      (∀ (i : Nat) c,
        c.type ≠ "Ready" → (held[i]? = some c ↔ initial[i]? = some c)) ∧
      ∀ e : Episode τ,
        (∀ deed, e.operation.deed? = some deed → deed ≠ .observe ∨ e.Fails s →
          e.after s = s) ∧
        (e.found? s ≠ some .inPlace → e.after s = s) ∧
        (e.found? s = some .inPlace →
          ∃ time c, e.shown? s = some time ∧ c.IsAvailable ∧
          (held.get? "Ready" = some c ∨
            c.since = time ∧
            ∀ old, held.get? "Ready" = some old → ¬ old.IsAvailable) ∧
          ∀ stretch, ∃ later,
            (r.through (history ++ e :: stretch)).conditions = .ok later ∧
            later.get? "Ready" = some c) := by
  intro s
  obtain ⟨p, conditions, deletion, hfrom⟩ := Resource.exists_madeFrom hmade
  have hstatus : r.HasStatus conditions := hfrom.status
  obtain rfl : conditions = initial :=
    Except.ok.inj (hstatus.conditions.symm.trans hinitial)
  obtain ⟨times, hheld⟩ := Resource.exists_times_through hstatus history
  refine ⟨_, hheld.conditions, Conditions.nodup_types_setAll hdistinct _,
    fun i c htype => ?_,
    fun e => ⟨fun deed hdeed hapart => ?_, Episode.after_of_not_found,
      fun hfound => ?_⟩⟩
  · refine Conditions.getElem?_setAll_of_type fun hmem => htype ?_
    obtain ⟨new, hnew, hsame⟩ := Conditions.mem_types.mp hmem
    obtain ⟨time, -, rfl⟩ := List.mem_map.mp hnew
    exact hsame.symm
  · refine Episode.after_of_not_found ?_
    rw [Episode.found?_of_deed hdeed hapart]
    exact nofun
  · obtain ⟨-, time, hshown, hafter⟩ | ⟨hother, -⟩ := e.after_cases s
    · obtain ⟨c, hget, havailable, hsince⟩ :=
        Conditions.get?_set_available time
          (conditions.setAll (times.map .available))
      have hnext : (e.after s).HasStatus
          (Conditions.set (.available time)
            (conditions.setAll (times.map .available))) := by
        rw [hafter]
        exact hheld.setConditions [.available time]
      refine ⟨time, c, hshown, havailable, hsince, fun stretch => ?_⟩
      obtain ⟨times', hlater⟩ := Resource.exists_times_through hnext stretch
      rw [Resource.through_append]
      exact ⟨_, hlater.conditions,
        Conditions.get?_setAll_available hget havailable times'⟩
    · exact absurd hfound hother

/-- A resource that is told to be not ready. -/
def toldFields : Fields :=
  freshFields ++ [("status", .obj [("conditions", .arr [
    .obj [("type", .str "Ready"), ("status", .str "False"),
      ("reason", .str "Creating")],
    .obj [("type", .str "Synced"), ("status", .str "True"),
      ("reason", .str "Done")]])])]

/-- An episode at this time, on a bucket in which the role has these members. -/
def episodeAt (time : Int) (members : List Json) (operation : Operation Int) :
    Episode Int :=
  ⟨operation, { World.around 0 [("b", policyFor members)] with
    clock := ⟨time, 0, 0⟩ }⟩

/-- The binding is created, found, found again, and gone; the time is that of
the first look that found it. -/
theorem status_over_history_told :
    let told :=
      [⟨"Ready", .no, "Creating", .utc 5⟩, ⟨"Synced", .yes, "Done", .utc 5⟩]
    let r := (Resource.declaring "m" ⟨"b", "r", "u:a"⟩ false).setConditions told
    let before := [episodeAt 20 [] (.verb ⟨30⟩ .create (.other .null))]
    let e := episodeAt 60 [.str "u:a"] glance
    let stretch := [episodeAt 70 [.str "u:a"] glance, episodeAt 80 [] glance]
    Resource.ofFields (.utc 5) toldFields = .ok r ∧ r.conditions = .ok told ∧
      (Conditions.types told).Nodup ∧
      ∃ later c, (r.through (before ++ e :: stretch)).conditions = .ok later ∧
        later.get? "Ready" = some c ∧ c.IsAvailable ∧ c.since = .utc 60 := by
  intro told r before e stretch
  have hmade : Resource.ofFields (.utc 5) toldFields = .ok r := by cbv
  have hdistinct : (Conditions.types told).Nodup := by decide
  obtain ⟨held, hheld, -, -, hepisode⟩ :=
    status_over_history hmade rfl hdistinct before
  have hfound : e.found? (r.through before) = some .inPlace := by cbv
  have hshown : e.shown? (r.through before) = some (.utc 60) := by cbv
  obtain rfl : told = held := Except.ok.inj (Eq.trans (by cbv) hheld)
  obtain ⟨time, c, htime, havailable, hsince, hlater⟩ := (hepisode e).2.2 hfound
  obtain ⟨later, hconditions, hget⟩ := hlater stretch
  refine ⟨hmade, rfl, hdistinct, later, c, hconditions, hget, havailable, ?_⟩
  rcases hsince with hkept | ⟨htaken, -⟩
  · obtain rfl := Option.some.inj hkept
    exact absurd havailable.verdict (by decide)
  · rw [htaken]
    exact Option.some.inj (htime.symm.trans hshown)

end GrantKeeper
