import Mathlib.Data.List.Induction
import Mathlib.Data.List.Nodup
import Mathlib.Tactic.Tauto
import Mathlib.Tactic.ByContra
import GrantKeeper.Resource.Condition

/-!
# Setting conditions

A list of conditions is known by its places: the first condition of a type is
the one that stands for the type, and only that one ever changes.
`Condition.through` says what becomes of it while conditions are set, one after
another: a condition that says the same is let go, any other takes its place,
time and all.  So the time of a condition follows verdict and reason together,
and not the verdict alone.

## Main results

* `Conditions.types_setAll` — the types keep their places, and new ones come
  after them.
* `Conditions.getElem?_setAll`, `Conditions.get?_setAll` — what stands at a
  place, and what stands for a type.
* `Conditions.changes_what_is_named` — setting conditions changes what they name
  and nothing else.
* `Conditions.time_kept_with_verdict_and_reason` — when the time of a condition
  changes.
* `Conditions.time_moved_by_reason` — it changes even if only the reason does.
-/

namespace GrantKeeper

/-! ## One condition -/

namespace Condition

theorem agrees_iff {old new : Condition} :
    old.agrees new = true ↔
      old.verdict = new.verdict ∧ old.reason = new.reason := by
  simp [agrees]

theorem not_agrees_iff {old new : Condition} :
    ¬ old.agrees new = true ↔
      old.verdict ≠ new.verdict ∨ old.reason ≠ new.reason := by
  rw [agrees_iff, not_and_or]

@[simp] theorem agrees_refl (c : Condition) : c.agrees c = true :=
  agrees_iff.mpr ⟨rfl, rfl⟩

theorem agrees_symm {c d : Condition} (h : c.agrees d = true) :
    d.agrees c = true :=
  agrees_iff.mpr ⟨(agrees_iff.mp h).1.symm, (agrees_iff.mp h).2.symm⟩

theorem agrees_trans {c d e : Condition} (h : c.agrees d = true)
    (h' : d.agrees e = true) : c.agrees e = true :=
  agrees_iff.mpr ⟨(agrees_iff.mp h).1.trans (agrees_iff.mp h').1,
    (agrees_iff.mp h).2.trans (agrees_iff.mp h').2⟩

/-- What stands in the place of a condition after another one of its type was
set. -/
def renewed (old new : Condition) : Condition :=
  if old.agrees new then old else new

theorem renewed_of_agrees {old new : Condition} (h : old.agrees new = true) :
    old.renewed new = old :=
  if_pos h

theorem renewed_of_not_agrees {old new : Condition}
    (h : ¬ old.agrees new = true) : old.renewed new = new :=
  if_neg h

theorem agrees_renewed (old new : Condition) :
    (old.renewed new).agrees new = true := by
  by_cases h : old.agrees new = true
  · rwa [renewed_of_agrees h]
  · rw [renewed_of_not_agrees h, agrees_refl]

theorem type_renewed {old new : Condition} (h : old.type = new.type) :
    (old.renewed new).type = old.type := by
  unfold renewed
  split
  · rfl
  · exact h.symm

/-- What becomes of a condition while others are set, of which only those of its
type count. -/
def through (news : List Condition) (c : Condition) : Condition :=
  news.foldl (fun c new => if c.type = new.type then c.renewed new else c) c

@[simp] theorem through_nil (c : Condition) : c.through [] = c := rfl

theorem through_cons_of_type {c new : Condition} (h : c.type = new.type)
    (news : List Condition) :
    c.through (new :: news) = (c.renewed new).through news := by
  rw [through, List.foldl_cons, if_pos h]
  rfl

theorem through_cons_of_ne {c new : Condition} (h : c.type ≠ new.type)
    (news : List Condition) : c.through (new :: news) = c.through news := by
  rw [through, List.foldl_cons, if_neg h]
  rfl

theorem through_append (earlier later : List Condition) (c : Condition) :
    c.through (earlier ++ later) = (c.through earlier).through later :=
  List.foldl_append

@[simp] theorem type_through (news : List Condition) (c : Condition) :
    (c.through news).type = c.type := by
  induction news generalizing c with
  | nil => rfl
  | cons new news ih =>
      by_cases h : c.type = new.type
      · rw [through_cons_of_type h, ih, type_renewed h]
      · rw [through_cons_of_ne h, ih]

theorem through_concat_of_type {c new : Condition} (h : c.type = new.type)
    (news : List Condition) :
    c.through (news ++ [new]) = (c.through news).renewed new := by
  rw [through_append, through_cons_of_type ((type_through news c).trans h),
    through_nil]

theorem through_concat_of_ne {c new : Condition} (h : c.type ≠ new.type)
    (news : List Condition) : c.through (news ++ [new]) = c.through news := by
  rw [through_append, through_cons_of_ne (by rwa [type_through]), through_nil]

/-- A condition stays while nothing else is said of its type. -/
theorem through_of_agrees {news : List Condition} {c : Condition}
    (h : ∀ new ∈ news, new.type = c.type → c.agrees new = true) :
    c.through news = c := by
  induction news with
  | nil => rfl
  | cons new news ih =>
      have hrest := ih fun n hn => h n (List.mem_cons_of_mem _ hn)
      by_cases htype : c.type = new.type
      · rw [through_cons_of_type htype,
          renewed_of_agrees (h new List.mem_cons_self htype.symm), hrest]
      · rw [through_cons_of_ne htype, hrest]

/-- Another condition takes the place of one only if it says something else. -/
theorem through_single_of_agrees {c new : Condition}
    (h : (c.through [new]).agrees c = true) : c.through [new] = c := by
  by_cases htype : c.type = new.type
  · rw [through_cons_of_type htype, through_nil] at h ⊢
    by_cases hagrees : c.agrees new = true
    · exact renewed_of_agrees hagrees
    · rw [renewed_of_not_agrees hagrees] at h
      exact absurd (agrees_symm h) hagrees
  · exact through_cons_of_ne htype []

/-- The last one that is set of a type has the say. -/
theorem agrees_through {earlier later : List Condition} {new c : Condition}
    (htype : c.type = new.type) (hlast : ∀ n ∈ later, n.type ≠ new.type) :
    (c.through (earlier ++ new :: later)).agrees new = true := by
  have hhere : (c.through earlier).type = new.type :=
    (type_through earlier c).trans htype
  have hagrees := agrees_renewed (c.through earlier) new
  rw [through_append, through_cons_of_type hhere, through_of_agrees]
  · exact hagrees
  · intro n hn hn'
    rw [type_renewed hhere, hhere] at hn'
    exact absurd hn' (hlast n hn)

/-- Whatever was said of a type before, once something is set of it the same is
said. -/
theorem agrees_through_through {news : List Condition} {c d : Condition}
    (htype : c.type = d.type)
    (hnamed : ∃ new ∈ news, new.type = c.type) :
    (c.through news).agrees (d.through news) = true := by
  induction news using List.reverseRecOn with
  | nil => simp at hnamed
  | append_singleton news new ih =>
      by_cases h : c.type = new.type
      · rw [through_concat_of_type h,
          through_concat_of_type (htype.symm.trans h)]
        exact agrees_trans (agrees_renewed _ new)
          (agrees_symm (agrees_renewed _ new))
      · have hrest : ∃ n ∈ news, n.type = c.type := by
          obtain ⟨n, hn, hn'⟩ := hnamed
          rcases List.mem_append.mp hn with hin | hlast
          · exact ⟨n, hin, hn'⟩
          · rw [List.mem_singleton.mp hlast] at hn'
            exact absurd hn'.symm h
        rw [through_concat_of_ne h, through_concat_of_ne (htype ▸ h)]
        exact ih hrest

/-- **To go through the same conditions again changes nothing.** -/
theorem through_through (news : List Condition) (c : Condition) :
    (c.through news).through news = c.through news := by
  induction news using List.reverseRecOn generalizing c with
  | nil => rfl
  | append_singleton news new ih =>
      by_cases htype : c.type = new.type
      · rw [through_concat_of_type htype]
        by_cases h : (c.through news).agrees new = true
        · rw [renewed_of_agrees h,
            through_concat_of_type ((type_through news c).trans htype), ih,
            renewed_of_agrees h]
        · rw [renewed_of_not_agrees h, through_concat_of_type rfl]
          -- Either the second time something else was said just before, as it
          -- was the first time, or nothing was said at all.
          by_cases hnamed : ∃ n ∈ news, n.type = c.type
          · have hsame := agrees_through_through htype hnamed
            rw [renewed_of_not_agrees fun h' => h (agrees_trans hsame h')]
          · have hstays : new.through news = new :=
              through_of_agrees fun n hn hn' =>
                absurd ⟨n, hn, hn'.trans htype.symm⟩ hnamed
            rw [hstays, renewed_of_agrees (agrees_refl new)]
      · rw [through_concat_of_ne htype,
          through_concat_of_ne (by rwa [type_through]), ih]

end Condition

/-! ## A list of conditions -/

namespace Conditions

variable {conditions news : Conditions} {new c : Condition}
  {type : String} {i : Nat}

/-- The types of conditions, in order. -/
def types (conditions : Conditions) : List String := conditions.map (·.type)

@[simp] theorem types_cons (c : Condition) (conditions : Conditions) :
    types (c :: conditions) = c.type :: conditions.types := rfl

theorem getElem?_types (conditions : Conditions) (i : Nat) :
    conditions.types[i]? = conditions[i]?.map (·.type) :=
  List.getElem?_map

theorem mem_types :
    type ∈ conditions.types ↔ ∃ c ∈ conditions, c.type = type := List.mem_map

theorem set_cons_of_type (h : c.type = new.type) (conditions : Conditions) :
    set new (c :: conditions) = c.through [new] :: conditions := by
  rw [Condition.through_cons_of_type h]
  exact if_pos h

theorem set_cons_of_ne (h : c.type ≠ new.type) (conditions : Conditions) :
    set new (c :: conditions) = c :: set new conditions :=
  if_neg h

/-! ### One that is set -/

/-- A type keeps its place, and a new one comes last. -/
theorem types_set (new : Condition) (conditions : Conditions) :
    types (set new conditions) =
      if new.type ∈ conditions.types then conditions.types
        else conditions.types ++ [new.type] := by
  induction conditions with
  | nil => rfl
  | cons c rest ih =>
      by_cases h : c.type = new.type
      · rw [set_cons_of_type h, types_cons, types_cons,
          Condition.type_through, h, if_pos List.mem_cons_self]
      · rw [set_cons_of_ne h, types_cons, types_cons, ih]
        by_cases hmem : new.type ∈ types rest
        · rw [if_pos hmem, if_pos (List.mem_cons_of_mem _ hmem)]
        · rw [if_neg hmem, if_neg (by simpa using ⟨Ne.symm h, hmem⟩),
            List.cons_append]

/-- What stands at a place after one condition was set. -/
theorem getElem?_set (h : conditions[i]? = some c) (new : Condition) :
    (set new conditions)[i]? =
      some
        (if conditions.types.idxOf c.type = i then c.through [new] else c) := by
  induction conditions generalizing i with
  | nil => cases h
  | cons old rest ih =>
      cases i with
      | zero =>
          cases h
          rw [types_cons, List.idxOf_cons_self, if_pos rfl]
          by_cases hc : c.type = new.type
          · rw [set_cons_of_type hc, List.getElem?_cons_zero]
          · rw [set_cons_of_ne hc, List.getElem?_cons_zero,
              Condition.through_cons_of_ne hc, Condition.through_nil]
      | succ i =>
          rw [List.getElem?_cons_succ] at h
          by_cases hsame : old.type = c.type
          · rw [types_cons, hsame, List.idxOf_cons_self,
              if_neg (Nat.zero_ne_add_one i)]
            by_cases hold : old.type = new.type
            · rw [set_cons_of_type hold, List.getElem?_cons_succ, h]
            · have hother : c.through [new] = c :=
                Condition.through_cons_of_ne
                  (fun hc => hold (hsame.trans hc)) []
              rw [set_cons_of_ne hold, List.getElem?_cons_succ, ih h,
                hother, ite_self]
          · rw [types_cons, List.idxOf_cons_ne _ hsame]
            by_cases hold : old.type = new.type
            · have hother : c.through [new] = c :=
                Condition.through_cons_of_ne
                  (fun hc => hsame (hold.trans hc.symm)) []
              rw [set_cons_of_type hold, List.getElem?_cons_succ, h,
                hother, ite_self]
            · rw [set_cons_of_ne hold, List.getElem?_cons_succ, ih h]
              simp only [Nat.succ_eq_add_one, Nat.add_right_cancel_iff]

theorem type_of_get? (h : get? conditions type = some c) : c.type = type := by
  simpa using List.find?_some h

theorem map_through_get?_nil (conditions : Conditions) (type : String) :
    (get? conditions type).map (·.through []) = get? conditions type :=
  Option.map_id'

theorem map_through_get?_of_ne (h : new.type ≠ type)
    (conditions news : Conditions) :
    (get? conditions type).map (·.through (new :: news)) =
      (get? conditions type).map (·.through news) := by
  refine Option.map_congr fun c hc =>
    Condition.through_cons_of_ne (fun htype => h ?_) news
  exact htype.symm.trans (type_of_get? hc)

/-- What stands for a type after one condition was set. -/
theorem get?_set (new : Condition) (conditions : Conditions) (type : String) :
    get? (set new conditions) type =
      ((get? conditions type).or (get? [new] type)).map (·.through [new]) := by
  induction conditions with
  | nil =>
      by_cases h : new.type = type
      · simp [set, get?, h, Condition.through_of_agrees]
      · simp [set, get?, h]
  | cons c rest ih =>
      by_cases hc : c.type = type
      · have hfirst : get? (c :: rest) type = some c := by simp [get?, hc]
        rw [hfirst, Option.some_or, Option.map_some]
        by_cases h : c.type = new.type
        · rw [set_cons_of_type h]
          simp [get?, hc]
        · rw [set_cons_of_ne h, Condition.through_cons_of_ne h]
          simp [get?, hc]
      · have hrest : get? (c :: rest) type = get? rest type := by
          simp [get?, hc]
        rw [hrest]
        by_cases h : c.type = new.type
        · have hnew : get? [new] type = none := by simp [get?, ← h, hc]
          rw [set_cons_of_type h, hnew, Option.or_none,
            map_through_get?_of_ne (h ▸ hc), map_through_get?_nil]
          simp [get?, hc]
        · rw [set_cons_of_ne h, ← ih]
          simp [get?, hc]

/-! ### Several that are set -/

/-- **The types keep their places**, and new ones come after them, once each and
in the order in which they first appear. -/
theorem types_setAll (news conditions : Conditions) :
    types (setAll news conditions) =
      conditions.types ++
      (news.types.filter (· ∉ conditions.types)).eraseDups := by
  induction news generalizing conditions with
  | nil => simp [types]
  | cons new rest ih =>
      rw [setAll_cons, ih, types_set, types_cons]
      by_cases h : new.type ∈ conditions.types
      · rw [if_pos h, List.filter_cons_of_neg (by simpa using h)]
      · have hother : (types rest).filter (· ∉ conditions.types ++ [new.type]) =
            ((types rest).filter (· ∉ conditions.types)).filter fun t =>
              !t == new.type := by
          rw [List.filter_filter]
          refine List.filter_congr fun t _ => ?_
          by_cases ht : t = new.type <;> simp [ht]
        rw [if_neg h, List.filter_cons_of_pos (by simpa using h),
          List.eraseDups_cons, hother, List.append_assoc]
        rfl

/-- Distinct types stay distinct. -/
theorem nodup_types_setAll (h : conditions.types.Nodup) (news : Conditions) :
    (types (setAll news conditions)).Nodup := by
  induction news generalizing conditions with
  | nil => exact h
  | cons new rest ih =>
      refine ih ?_
      rw [types_set]
      split
      · exact h
      · rename_i hmem
        refine List.nodup_append.mpr ⟨h, List.nodup_singleton _,
          fun t ht t' ht' heq => hmem ?_⟩
        rwa [← List.mem_singleton.mp ht', ← heq]

/-- **What stands at a place** after conditions were set: the first of a type
went through them, and all else is as it was. -/
theorem getElem?_setAll (h : conditions[i]? = some c) (news : Conditions) :
    (setAll news conditions)[i]? =
      some
        (if conditions.types.idxOf c.type = i then c.through news else c) := by
  induction news generalizing conditions c with
  | nil => simpa using h
  | cons new rest ih =>
      have hmem : c.type ∈ conditions.types :=
        mem_types.mpr ⟨c, List.mem_of_getElem? h, rfl⟩
      have hplace : (types (set new conditions)).idxOf c.type =
          conditions.types.idxOf c.type := by
        rw [types_set]
        split
        · rfl
        · exact List.idxOf_append_of_mem hmem
      have hstep := getElem?_set h new
      by_cases hfirst : conditions.types.idxOf c.type = i
      · rw [if_pos hfirst] at hstep ⊢
        rw [setAll_cons, ih hstep, Condition.type_through, hplace,
          if_pos hfirst]
        rfl
      · rw [if_neg hfirst] at hstep ⊢
        rw [setAll_cons, ih hstep, hplace, if_neg hfirst]

/-- **What stands for a type** after conditions were set: what stood for it
before, or else the first of them, gone through all of them. -/
theorem get?_setAll (news conditions : Conditions) (type : String) :
    get? (setAll news conditions) type =
      ((get? conditions type).or (get? news type)).map (·.through news) := by
  induction news generalizing conditions with
  | nil => simp [get?]
  | cons new rest ih =>
      have hnews : get? (new :: rest) type =
          (get? [new] type).or (get? rest type) := by
        rw [get?, ← List.singleton_append, List.find?_append]
        rfl
      rw [setAll_cons, ih, get?_set, hnews, ← Option.or_assoc]
      cases hheld : (get? conditions type).or (get? [new] type) with
      | some c => rfl
      | none =>
          have hne : new.type ≠ type := by
            simpa [get?] using (Option.or_eq_none_iff.mp hheld).2
          rw [Option.map_none, Option.none_or, map_through_get?_of_ne hne]

theorem mem_types_setAll : type ∈ types (setAll news conditions) ↔
    type ∈ conditions.types ∨ type ∈ news.types := by
  rw [types_setAll, List.mem_append, List.mem_eraseDups, List.mem_filter,
    decide_eq_true_eq]
  tauto

/-- What is set of other types adds no condition of this one, and moves none. -/
theorem getElem?_setAll_of_type (h : c.type ∉ news.types) :
    (setAll news conditions)[i]? = some c ↔ conditions[i]? = some c := by
  have hstays (d : Condition) (htype : d.type = c.type) : d.through news = d :=
    Condition.through_of_agrees fun new hnew hsame =>
      absurd (mem_types.mpr ⟨new, hnew, hsame.trans htype⟩) h
  refine ⟨fun hafter => ?_, fun hbefore => ?_⟩
  · cases hbefore : conditions[i]? with
    | some d =>
        rw [getElem?_setAll hbefore, Option.some_inj] at hafter
        have htype : d.type = c.type := by
          rw [← hafter]
          split
          · exact (Condition.type_through news d).symm
          · rfl
        rwa [hstays d htype, ite_self, ← Option.some_inj] at hafter
    | none =>
        have hplace : (types (setAll news conditions))[i]? = some c.type := by
          rw [getElem?_types, hafter]
          rfl
        have hlength : conditions.types.length ≤ i := by
          rw [types, List.length_map]
          exact List.getElem?_eq_none_iff.mp hbefore
        rw [types_setAll, List.getElem?_append_right hlength] at hplace
        have hnew := List.mem_eraseDups.mp (List.mem_of_getElem? hplace)
        exact absurd (List.mem_of_mem_filter hnew) h
  · rw [getElem?_setAll hbefore, hstays c rfl, ite_self]

/-- The first of a type stands for the type. -/
theorem get?_of_first (h : conditions[i]? = some c)
    (hfirst : conditions.types.idxOf c.type = i) :
    get? conditions c.type = some c := by
  have hfind : conditions.types.idxOf c.type =
      conditions.findIdx (·.type == c.type) := List.findIdx_map ..
  rw [get?, List.find?_eq_getElem?_findIdx, ← hfind, hfirst, h]

/-- **To set the same conditions again changes nothing.** -/
theorem setAll_setAll (news conditions : Conditions) :
    setAll news (setAll news conditions) = setAll news conditions := by
  refine List.ext_getElem? fun i => ?_
  cases h : (setAll news conditions)[i]? with
  | none =>
      have hnone : news.types.filter
          (· ∉ types (setAll news conditions)) = [] :=
        List.filter_eq_nil_iff.mpr fun t ht => by
          simpa using mem_types_setAll.mpr (Or.inr ht)
      have htypes : types (setAll news (setAll news conditions)) =
          types (setAll news conditions) := by
        rw [types_setAll, hnone, List.eraseDups_nil, List.append_nil]
      have hplace := congrArg (·[i]?) htypes
      simpa only [getElem?_types, h, Option.map_none, Option.map_eq_none_iff]
        using hplace
  | some c =>
      rw [getElem?_setAll h]
      by_cases hfirst : (types (setAll news conditions)).idxOf c.type = i
      · have hget := get?_of_first h hfirst
        rw [get?_setAll] at hget
        obtain ⟨old, -, rfl⟩ := Option.map_eq_some_iff.mp hget
        rw [Condition.through_through, ite_self]
      · rw [if_neg hfirst]

/-- **Setting conditions changes what they name and nothing else**, whether
types repeat or not.  Every type keeps its place, and the new ones follow once
each, in the order in which they first appear.  A condition whose type is not
named is as it was, and so is one that is not the first of its type.  What
stands for a type that is named says what the last of the new conditions says of
it; where all of them say what was said before, the condition stays, and its
time with it.  Distinct types stay distinct, and to set the same conditions
again changes nothing. -/
theorem changes_what_is_named (conditions news : Conditions) :
    let after := setAll news conditions
    after.types = conditions.types ++
      (news.types.filter (· ∉ conditions.types)).eraseDups ∧
    (∀ (i : Nat) c, conditions[i]? = some c → c.type ∉ news.types ∨
      conditions.types.idxOf c.type ≠ i → after[i]? = some c) ∧
    (∀ earlier new later,
      news = earlier ++ new :: later → new.type ∉ types later →
      ∃ c, get? after new.type = some c ∧ c.verdict = new.verdict ∧
        c.reason = new.reason) ∧
    (∀ (i : Nat) c, conditions[i]? = some c →
      (∀ new ∈ news,
        new.type = c.type → new.verdict = c.verdict ∧ new.reason = c.reason) →
      after[i]? = some c ∧
      (get? conditions c.type = some c → get? after c.type = some c)) ∧
    (conditions.types.Nodup → (types after).Nodup) ∧
    setAll news after = after := by
  refine ⟨types_setAll news conditions, fun i c h hapart => ?_,
    fun earlier new later hsplit hlast => ?_, fun i c h hsame => ?_,
    fun h => nodup_types_setAll h news, setAll_setAll news conditions⟩
  · rw [getElem?_setAll h]
    rcases hapart with hunnamed | hlater
    · rw [Condition.through_of_agrees, ite_self]
      exact fun new hnew htype =>
        absurd (mem_types.mpr ⟨new, hnew, htype⟩) hunnamed
    · rw [if_neg hlater]
  · have hnew : new ∈ news :=
      hsplit ▸ List.mem_append_right _ List.mem_cons_self
    have hsome :
        ((get? conditions new.type).or (get? news new.type)).isSome := by
      rw [Option.isSome_or, Bool.or_eq_true]
      exact Or.inr (List.find?_isSome.mpr ⟨new, hnew, by simp⟩)
    obtain ⟨c, hc⟩ := Option.isSome_iff_exists.mp hsome
    have htype : c.type = new.type := by
      rcases Option.or_eq_some_iff.mp hc with hheld | ⟨-, hfirst⟩
      · exact type_of_get? hheld
      · exact type_of_get? hfirst
    have hagrees : (c.through news).agrees new = true :=
      hsplit ▸ Condition.agrees_through htype fun n hn heq =>
        hlast (mem_types.mpr ⟨n, hn, heq⟩)
    rw [get?_setAll, hc]
    exact ⟨_, rfl, Condition.agrees_iff.mp hagrees⟩
  · have hstays : c.through news = c :=
      Condition.through_of_agrees fun new hnew htype =>
      Condition.agrees_iff.mpr ((hsame new hnew htype).imp Eq.symm Eq.symm)
    refine ⟨?_, fun hget => ?_⟩
    · rw [getElem?_setAll h, hstays, ite_self]
    · rw [get?_setAll, hget, Option.some_or, Option.map_some, hstays]

/-- A condition that has nothing but its verdict to say. -/
def said (type : String) (verdict : Verdict) (time : Int) : Condition :=
  ⟨type, verdict, "", .utc time⟩

/-- Types repeat on either side; one of them is new, and of another nothing new
is said. -/
theorem changes_what_is_named_twice :
    let conditions := [said "A" .yes 0, said "B" .no 0, said "A" .yes 0]
    let news := [said "C" .yes 1, said "A" .no 2, said "C" .no 3,
      said "A" .unknown 4, said "B" .no 5]
    let after := setAll news conditions
    types after = ["A", "B", "A", "C"] ∧ after[1]? = some (said "B" .no 0) ∧
      after[2]? = some (said "A" .yes 0) ∧
      (∃ c, get? after "A" = some c ∧ c.verdict = .unknown) ∧
      setAll news after = after := by
  obtain ⟨htypes, huntouched, hlast, hsame, -, hagain⟩ := changes_what_is_named
    [said "A" .yes 0, said "B" .no 0, said "A" .yes 0]
    [said "C" .yes 1, said "A" .no 2, said "C" .no 3, said "A" .unknown 4,
      said "B" .no 5]
  refine ⟨htypes.trans (by decide), ?_, ?_, ?_, hagain⟩
  · exact (hsame 1 _ rfl (by decide)).1
  · exact huntouched 2 _ rfl (Or.inr (by decide))
  · obtain ⟨c, hget, hverdict, -⟩ :=
      hlast [said "C" .yes 1, said "A" .no 2, said "C" .no 3]
        (said "A" .unknown 4) [said "B" .no 5] rfl (by decide)
    exact ⟨c, hget, hverdict⟩

/-! ## Calls one after the other -/

/-- The conditions after several calls, each of which set some. -/
def afterCalls (calls : List (List Condition)) (conditions : Conditions) :
    Conditions :=
  calls.foldl (fun conditions news => setAll news conditions) conditions

theorem afterCalls_eq (calls : List (List Condition))
    (conditions : Conditions) :
    afterCalls calls conditions = setAll calls.flatten conditions :=
  List.foldl_flatten.symm

theorem nodup_types_afterCalls (h : conditions.types.Nodup)
    (calls : List (List Condition)) :
    (afterCalls calls conditions).types.Nodup := by
  rw [afterCalls_eq]
  exact nodup_types_setAll h _

/-- Where types are distinct, every condition is the first of its type. -/
theorem first_of_nodup (hdistinct : conditions.types.Nodup)
    (h : conditions[i]? = some c) : conditions.types.idxOf c.type = i := by
  have htype : conditions.types[i]? = some c.type := by
    rw [getElem?_types, h]
    rfl
  obtain ⟨hlt, heq⟩ := List.getElem?_eq_some_iff.mp htype
  rw [← heq]
  exact hdistinct.idxOf_getElem i hlt

/-- **When the time of a condition changes.**  The types are distinct and calls
set conditions, one after another; `held` is what is held somewhere in between,
and `next` what is held one condition later.  A condition stays, with its time,
if the new one is of another type or says the same of it, verdict and reason;
otherwise the new one is in its place, and brings its own time even if only the
reason is another.  So a time changes only together with the verdict or the
reason, and it is still the same later on if nobody said anything else of the
type meanwhile. -/
theorem time_kept_with_verdict_and_reason {initial : Conditions}
    (hdistinct : initial.types.Nodup)
    (calls : List (List Condition)) (earlier : List Condition)
    (new : Condition) :
    let held := setAll earlier (afterCalls calls initial)
    let next := set new held
    held.types.Nodup ∧ next.types.Nodup ∧ ∀ (i : Nat) old, held[i]? = some old →
      (∃ c, next[i]? = some c ∧ c.type = old.type ∧
        (old.type = new.type → old.verdict = new.verdict →
          old.reason = new.reason → c = old) ∧
        (old.type = new.type → old.verdict ≠ new.verdict ∨
          old.reason ≠ new.reason → c = new) ∧
        (c.since ≠ old.since → c.verdict ≠ old.verdict ∨
          c.reason ≠ old.reason)) ∧
      ∀ later : List (List Condition),
        ∃ c, (afterCalls later held)[i]? = some c ∧ c.type = old.type ∧
          (c.since ≠ old.since → ∃ n ∈ later.flatten, n.type = old.type ∧
            (old.verdict ≠ n.verdict ∨ old.reason ≠ n.reason)) := by
  intro held next
  have hheld : (types held).Nodup :=
    nodup_types_setAll (nodup_types_afterCalls hdistinct calls) earlier
  refine ⟨hheld, nodup_types_setAll hheld [new],
    fun i old h => ⟨?_, fun later => ?_⟩⟩
  · have hnext := getElem?_set h new
    rw [if_pos (first_of_nodup hheld h)] at hnext
    refine ⟨_, hnext, Condition.type_through _ _, fun _ hverdict hreason => ?_,
      fun htype hother => ?_,
      fun htime => Condition.not_agrees_iff.mp fun hagrees => ?_⟩
    · refine Condition.through_of_agrees fun n hn _ =>
        Condition.agrees_iff.mpr ?_
      rw [List.mem_singleton.mp hn]
      exact ⟨hverdict, hreason⟩
    · rw [Condition.through_cons_of_type htype, Condition.through_nil,
        Condition.renewed_of_not_agrees (Condition.not_agrees_iff.mpr hother)]
    · exact htime
        (congrArg Condition.since (Condition.through_single_of_agrees hagrees))
  · have hlater := getElem?_setAll h later.flatten
    rw [if_pos (first_of_nodup hheld h), ← afterCalls_eq] at hlater
    refine ⟨_, hlater, Condition.type_through _ _, fun htime => ?_⟩
    by_contra hnobody
    refine htime
      (congrArg Condition.since
        (Condition.through_of_agrees fun n hn htype => ?_))
    by_contra hsays
    exact hnobody ⟨n, hn, htype, Condition.not_agrees_iff.mp hsays⟩

/-- The verdict stays and the reason changes: the time is another one. -/
theorem time_moved_by_reason :
    let old : Condition := ⟨"Ready", .yes, "Created", .utc 0⟩
    let new : Condition := ⟨"Ready", .yes, "Available", .utc 1⟩
    (types [old]).Nodup ∧ (setAll [new] [old])[0]? = some new ∧
      old.type = new.type ∧ old.verdict = new.verdict ∧
      old.since ≠ new.since := by
  decide

/-- The same is said again and another type is set; only where something else is
said does the time change. -/
theorem time_kept_with_verdict_and_reason_repeated :
    let held :=
      setAll [said "B" .yes 2]
        (afterCalls [[said "A" .yes 1]] [said "A" .yes 0])
    (types [said "A" .yes 0]).Nodup ∧ held[0]? = some (said "A" .yes 0) ∧
      (set (said "A" .yes 3) held)[0]? = some (said "A" .yes 0) ∧
      (set (said "A" .no 4) held)[0]? = some (said "A" .no 4) ∧
      ∃ c, (afterCalls [[said "A" .yes 5], [said "B" .no 6]] held)[0]? =
        some c ∧ c.since = .utc 0 := by
  have hdistinct : (types [said "A" .yes 0]).Nodup := by decide
  have hheld :
      (setAll [said "B" .yes 2]
        (afterCalls [[said "A" .yes 1]] [said "A" .yes 0]))[0]? =
      some (said "A" .yes 0) := by decide
  have hat (new : Condition) := (time_kept_with_verdict_and_reason hdistinct
    [[said "A" .yes 1]] [said "B" .yes 2] new).2.2 0 _ hheld
  obtain ⟨⟨c, hsame, -, hkept, -, -⟩, hlater⟩ := hat (said "A" .yes 3)
  obtain ⟨⟨c', hother, -, -, hmoved, -⟩, -⟩ := hat (said "A" .no 4)
  obtain ⟨c'', hlast, -, htime⟩ := hlater [[said "A" .yes 5], [said "B" .no 6]]
  obtain rfl := hkept rfl rfl rfl
  obtain rfl := hmoved rfl (Or.inl (by decide))
  refine ⟨hdistinct, hheld, hsame, hother, c'', hlast, ?_⟩
  by_contra hchanged
  exact absurd (htime hchanged) (by decide)

end Conditions

end GrantKeeper
