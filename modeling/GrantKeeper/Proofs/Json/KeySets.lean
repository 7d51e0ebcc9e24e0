import GrantKeeper.Proofs.Json.Agreement
import GrantKeeper.Proofs.Json.Resorting

/-!
# Sets of keys

A set of keys is a list in which no element equals one before it.  Which list
stands for a set depends on how it came about, and members need not be texts;
what is said here holds of all keys, because two keys agree on whether they are
equal.

## Main results

* `Json.same_comm` — two keys agree on whether they are equal.
* `Keys.IsSet.insertAll`, `Keys.IsSet.insert`, `Keys.IsSet.remove`,
  `Keys.IsSet.perm` — what stays a set.
* `Keys.insertAll_of_isSet` — a set that is read again stays as it is.
* `Keys.same_of_perm`, `Keys.IsSet.same_of_mem_iff` — sets that list the same
  keys are the same.
-/

namespace GrantKeeper

namespace Json

theorem sameNumber_comm (x y : Json) : sameNumber x y = sameNumber y x := by
  unfold sameNumber
  cases x.nanMark? <;> cases y.nanMark?
  · cases x.number? with
    | none => cases y.number? <;> rfl
    | some a =>
        cases y.number? with
        | none => rfl
        | some b =>
            have hswap := Decimal.Binary64.compare?_swap a b
            simp only [hswap]
            cases a.compare? b with
            | none => rfl
            | some o => cases o <;> rfl
  · rfl
  · rfl
  · exact BEq.comm

/-- **Two keys agree on whether they are equal.** -/
theorem same_comm {x y : Json} (hx : x.isKey = true) (hy : y.isKey = true) :
    x.same y = y.same x := by
  have hnumber (y : Json) (s : String) : sameNumber y (.str s) = false := by
    unfold sameNumber
    cases y.nanMark? <;> cases y.number? <;> rfl
  have hnull (y : Json) : sameNumber y .null = false := by
    unfold sameNumber
    cases y.nanMark? <;> cases y.number? <;> rfl
  cases x with
  | arr xs => cases hx
  | obj fields => cases hx
  | null => cases y <;> simp [same, hnull]
  | str s =>
      cases y with
      | str t =>
          rw [same_str, same_str]
          exact BEq.comm
      | _ => simp [same, hnumber]
  | _ =>
      cases y with
      | arr xs => cases hy
      | obj fields => cases hy
      | null => simp [same, hnull]
      | str t => simp [same, hnumber]
      | _ =>
          simp only [same]
          exact sameNumber_comm _ _

end Json

namespace Keys

variable {keys : Keys} {key : Json}

/-- The elements are keys, and none equals one before it. -/
structure IsSet (keys : Keys) : Prop where
  key : ∀ k ∈ keys, k.isKey = true
  apart : keys.Pairwise fun x y => y.same x = false

instance : Decidable keys.IsSet :=
  decidable_of_iff ((∀ k ∈ keys, k.isKey = true) ∧
    keys.Pairwise fun x y => y.same x = false)
    ⟨fun h => ⟨h.1, h.2⟩, fun h => ⟨h.key, h.apart⟩⟩

theorem isSet_nil : IsSet [] := ⟨by simp, .nil⟩

theorem IsSet.nodup (h : keys.IsSet) : keys.Nodup := by
  refine h.apart.imp_of_mem ?_
  rintro x y hx - hapart rfl
  rw [Json.same_self_of_isKey (h.key x hx)] at hapart
  cases hapart

/-- The texts of a set are apart, too. -/
theorem IsSet.nodup_texts (h : keys.IsSet) : (Json.texts keys).Nodup := by
  refine List.Pairwise.filterMap Json.text?
    (fun x y hne s hs t ht hst => ?_) h.nodup
  subst hst
  exact hne ((Json.text?_eq_some_iff.mp hs).trans
    (Json.text?_eq_some_iff.mp ht).symm)

theorem isSet_map_str {ss : List String} (h : ss.Nodup) :
    IsSet (ss.map .str) := by
  refine ⟨List.forall_mem_map.mpr fun s _ => Json.isKey_str s,
    List.pairwise_map.mpr (h.imp ?_)⟩
  intro s t hne
  rw [Json.same_str]
  exact beq_eq_false_iff_ne.mpr hne.symm

theorem has_eq_false_iff :
    keys.has key = false ↔ ∀ k ∈ keys, key.same k = false := by
  rw [has, List.any_eq_false]
  simp

theorem IsSet.insert (h : keys.IsSet) (hkey : key.isKey = true) :
    (keys.insert key).IsSet := by
  unfold Keys.insert
  split
  · exact h
  · rename_i hnew
    have hapart := has_eq_false_iff.mp (Bool.eq_false_iff.mpr hnew)
    refine ⟨fun k hk => ?_,
      List.pairwise_append.mpr ⟨h.apart, List.pairwise_singleton _ _, ?_⟩⟩
    · rcases List.mem_append.mp hk with hold | hlast
      · exact h.key k hold
      · rw [List.mem_singleton.mp hlast]
        exact hkey
    · intro k hk last hlast
      rw [List.mem_singleton.mp hlast]
      exact hapart k hk

theorem IsSet.remove (h : keys.IsSet) (key : Json) : (keys.remove key).IsSet :=
  ⟨fun k hk => h.key k (List.mem_filter.mp hk).1, h.apart.filter _⟩

theorem IsSet.insertAll {xs : List Json} {new : Keys} (h : keys.IsSet)
    (hnew : keys.insertAll xs = .ok new) : new.IsSet := by
  induction xs generalizing keys with
  | nil =>
      cases hnew
      exact h
  | cons x xs ih =>
      unfold Keys.insertAll at hnew
      split at hnew
      · rename_i hkey
        exact ih (h.insert hkey) hnew
      · cases hnew

theorem IsSet.perm {other : Keys} (h : keys.IsSet) (hperm : other.Perm keys) :
    other.IsSet := by
  have hkey : ∀ k ∈ other,
      k.isKey = true := fun k hk => h.key k (hperm.mem_iff.mp hk)
  have hboth : keys.Pairwise fun x y => y.same x = false ∧ x.same y = false :=
    h.apart.imp_of_mem fun hx hy hxy =>
      ⟨hxy, (Json.same_comm (h.key _ hx) (h.key _ hy)).trans hxy⟩
  have hother : other.Pairwise fun x y => y.same x = false ∧ x.same y = false :=
    (hperm.pairwise_iff And.symm).mpr hboth
  exact ⟨hkey, hother.imp And.left⟩

/-- Sets that list the same keys are the same. -/
theorem same_of_perm {xs ys : Keys} (h : ∀ x ∈ xs, x.isKey = true)
    (hperm : ys.Perm xs) : xs.same ys = true := by
  rw [Keys.same, Bool.and_eq_true, beq_iff_eq, List.all_eq_true]
  refine ⟨hperm.length_eq.symm, fun x hx => ?_⟩
  exact List.any_eq_true.mpr ⟨x, hperm.mem_iff.mpr hx,
    Json.same_self_of_isKey (h x hx)⟩

theorem IsSet.same_of_mem_iff {other : Keys} (h : keys.IsSet) (h' : other.IsSet)
    (hmem : ∀ k, k ∈ keys ↔ k ∈ other) : keys.same other = true :=
  same_of_perm h.key ((List.perm_ext_iff_of_nodup h'.nodup h.nodup).mpr fun k =>
    (hmem k).symm)

/-- **A set that is read again stays as it is.** -/
theorem insertAll_of_isSet {xs : List Json} (h : IsSet (keys ++ xs)) :
    keys.insertAll xs = .ok (keys ++ xs) := by
  induction xs generalizing keys with
  | nil => rw [List.append_nil, Keys.insertAll]
  | cons x xs ih =>
      have hkey : x.isKey = true := h.key x (by simp)
      have hnew : keys.has x = false := has_eq_false_iff.mpr fun k hk =>
        (List.pairwise_append.mp h.apart).2.2 k hk x List.mem_cons_self
      have hinsert : keys.insert x = keys ++ [x] := by
        rw [Keys.insert, hnew, if_neg Bool.false_ne_true]
      rw [List.append_cons] at h ⊢
      rw [Keys.insertAll, if_pos hkey, hinsert]
      exact ih h

end Keys

end GrantKeeper
