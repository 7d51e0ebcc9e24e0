import GrantKeeper.Proofs.Json.Texts
import Mathlib.Data.Finset.Sort
import Mathlib.Data.String.Basic

/-!
# Sorting by text keys

Whatever `Json.sortedBy?` returns is a permutation of what it was given, also
where its result depends on the order of its input.  Where all keys are texts it
returns the stable sort `inOrder`, which is known from two facts alone: its keys
rise, and for each key it lists the same elements in the same order.

## Main results

* `Json.sortedBy?_perm` — nothing is lost or added, whatever the keys are.
* `Json.sortedBy?_eq_inOrder` — with text keys the result is the stable sort.
* `eq_inOrder` — the stable sort is the only list with rising keys and the same
  elements for each key.
* `Json.sort_texts` — a set of texts has one sorted form.
-/

namespace GrantKeeper

/-! ## Permutations -/

namespace Json

section

variable {α : Type} {precedes? : α → α → Option Bool}

theorem placed?_perm {new : α} {sorted placed : List α}
    (h : placed? precedes? new sorted = some placed) :
    placed.Perm (new :: sorted) := by
  induction hn : sorted.length using Nat.strong_induction_on generalizing sorted
    placed with
  | _ n ih =>
      unfold placed? at h
      split at h
      · rename_i hdrop
        have hlen := congrArg List.length hdrop
        simp only [List.length_drop, List.length_nil] at hlen
        have hsorted : sorted = [] := List.eq_nil_of_length_eq_zero (by omega)
        cases h
        rw [hsorted]
      · rename_i middle back hdrop
        have hlen := congrArg List.length hdrop
        simp only [List.length_drop, List.length_cons] at hlen
        have hsplit : sorted.take (sorted.length / 2) ++ middle :: back =
            sorted := by
          rw [← hdrop]
          exact List.take_append_drop _ _
        simp only [Option.bind_eq_bind, Option.bind_eq_some_iff,
          Option.pure_def] at h
        obtain ⟨first, -, h⟩ := h
        split at h
        · obtain ⟨front, hfront, hplaced⟩ := Option.bind_eq_some_iff.mp h
          have hperm := ih _ (by simp only [List.length_take]; omega) hfront rfl
          cases hplaced
          calc (front ++ middle :: back).Perm
                (new :: sorted.take (sorted.length / 2) ++ middle :: back) :=
              hperm.append_right _
            _ = new :: sorted := by rw [List.cons_append, hsplit]
        · obtain ⟨rest, hrest, hplaced⟩ := Option.bind_eq_some_iff.mp h
          have hperm := ih _ (by omega) hrest rfl
          cases hplaced
          calc (sorted.take (sorted.length / 2) ++ middle :: rest).Perm
                (sorted.take (sorted.length / 2) ++ middle :: new :: back) :=
              (hperm.cons _).append_left _
            _ |>.Perm (sorted.take (sorted.length / 2) ++ new ::
              middle :: back) :=
              (List.Perm.swap _ _ _).append_left _
            _ |>.Perm (new ::
              (sorted.take (sorted.length / 2) ++ middle :: back)) :=
              List.perm_middle
            _ = new :: sorted := by rw [hsplit]

theorem run?_append {falling : Bool} {last : α} {xs run rest : List α}
    (h : run? precedes? falling last xs = some (run, rest)) :
    run ++ rest = xs := by
  induction xs generalizing last run rest with
  | nil => cases h; rfl
  | cons x xs ih =>
      simp only [run?, Option.bind_eq_bind, Option.bind_eq_some_iff] at h
      obtain ⟨first, -, h⟩ := h
      split at h
      · obtain ⟨⟨run', rest'⟩, htail, heq⟩ := Option.bind_eq_some_iff.mp h
        cases heq
        rw [List.cons_append, ih htail]
      · cases h; rfl

theorem foldlM_placed?_perm {xs start sorted : List α}
    (h : xs.foldlM (fun sorted x => placed? precedes? x sorted) start =
      some sorted) :
    sorted.Perm (start ++ xs) := by
  induction xs generalizing start with
  | nil => cases h; simp
  | cons x xs ih =>
      rw [List.foldlM_cons] at h
      obtain ⟨next, hnext, htail⟩ := Option.bind_eq_some_iff.mp h
      calc sorted.Perm (next ++ xs) := ih htail
        _ |>.Perm (x :: start ++ xs) := (placed?_perm hnext).append_right _
        _ |>.Perm (start ++ x :: xs) := List.perm_middle.symm

theorem placedAll?_perm {xs sorted : List α}
    (h : placedAll? precedes? xs = some sorted) : sorted.Perm xs := by
  unfold placedAll? at h
  split at h
  · rename_i first second rest
    simp only [Option.bind_eq_bind, Option.bind_eq_some_iff] at h
    obtain ⟨falling, -, ⟨run, others⟩, hrun, hfold⟩ := h
    have happ := run?_append hrun
    have hperm := foldlM_placed?_perm hfold
    apply hperm.trans
    rw [← happ, ← List.cons_append]
    refine List.Perm.append_right _ ?_
    split
    · exact List.reverse_perm _
    · exact List.Perm.refl _
  · cases h; exact List.Perm.refl _

end

theorem sortedBy?_perm {α : Type} {key : α → Json} {xs sorted : List α}
    (h : sortedBy? key xs = some sorted) : sorted.Perm xs := by
  unfold sortedBy? at h
  split at h
  · cases h
    exact List.mergeSort_perm _ _
  · exact placedAll?_perm h

theorem sort_perm {xs sorted : List Json} (h : sort xs = .ok sorted) :
    sorted.Perm xs := by
  unfold sort at h
  split at h
  · rename_i hs
    cases h
    exact sortedBy?_perm hs
  · cases h

end Json

/-! ## The stable sort -/

section

variable {α β : Type}

/-- The elements in the order of a text key; elements with one key keep their
order. -/
def inOrder (key : α → String) (xs : List α) : List α :=
  xs.mergeSort fun x y => decide (key x ≤ key y)

private theorem key_trans (key : α → String) (a b c : α)
    (hab : decide (key a ≤ key b) = true)
    (hbc : decide (key b ≤ key c) = true) :
    decide (key a ≤ key c) = true := by
  rw [decide_eq_true_eq] at hab hbc ⊢
  exact le_trans hab hbc

private theorem key_total (key : α → String) (a b : α) :
    (decide (key a ≤ key b) || decide (key b ≤ key a)) = true := by
  rw [Bool.or_eq_true, decide_eq_true_eq, decide_eq_true_eq]
  exact le_total _ _

theorem inOrder_perm (key : α → String) (xs : List α) :
    (inOrder key xs).Perm xs :=
  List.mergeSort_perm _ _

@[simp] theorem mem_inOrder {key : α → String} {xs : List α} {x : α} :
    x ∈ inOrder key xs ↔ x ∈ xs := (inOrder_perm key xs).mem_iff

theorem pairwise_inOrder (key : α → String) (xs : List α) :
    (inOrder key xs).Pairwise fun x y => key x ≤ key y := by
  have h := List.pairwise_mergeSort (key_trans key) (key_total key) xs
  exact h.imp fun hxy => of_decide_eq_true hxy

theorem inOrder_of_pairwise {key : α → String} {xs : List α}
    (h : xs.Pairwise fun x y => key x ≤ key y) : inOrder key xs = xs :=
  List.mergeSort_of_pairwise (h.imp fun hxy => decide_eq_true hxy)

@[simp] theorem inOrder_inOrder (key : α → String) (xs : List α) :
    inOrder key (inOrder key xs) = inOrder key xs :=
  inOrder_of_pairwise (pairwise_inOrder key xs)

theorem map_inOrder {key : α → String} {key' : β → String} {f : α → β}
    {xs : List α} (h : ∀ x ∈ xs, key' (f x) = key x) :
    (inOrder key xs).map f = inOrder key' (xs.map f) := by
  apply List.map_mergeSort
  intro a ha b hb
  rw [h a ha, h b hb]

/-- The elements with one key stand in the order in which they stood before. -/
theorem filter_key_inOrder (key : α → String) (xs : List α) (k : String) :
    (inOrder key xs).filter (key · = k) = xs.filter (key · = k) := by
  have hkeys : (xs.filter (key · = k)).Pairwise fun x y =>
      decide (key x ≤ key y) := by
    rw [List.pairwise_iff_forall_sublist]
    intro a b hab
    have ha : a ∈ xs.filter (key · = k) := hab.subset (by simp)
    have hb : b ∈ xs.filter (key · = k) := hab.subset (by simp)
    have hak : key a = k := of_decide_eq_true (List.mem_filter.mp ha).2
    have hbk : key b = k := of_decide_eq_true (List.mem_filter.mp hb).2
    simp [hak, hbk]
  have hsub := List.sublist_mergeSort (key_trans key) (key_total key) hkeys
    List.filter_sublist
  have hsub' : (xs.filter (key · = k)).Sublist
      ((inOrder key xs).filter (key · = k)) := by
    simpa [List.filter_filter, inOrder] using hsub.filter (key · = k)
  refine (hsub'.eq_of_length ?_).symm
  exact ((inOrder_perm key xs).filter _).length_eq.symm

/-- A list with rising keys is determined by the elements that it has for each
key. -/
theorem eq_of_filter_key {key : α → String} {xs ys : List α}
    (hx : xs.Pairwise fun x y => key x ≤ key y)
    (hy : ys.Pairwise fun x y => key x ≤ key y)
    (h : ∀ k, xs.filter (key · = k) = ys.filter (key · = k)) : xs = ys := by
  have hmem {z : α} : z ∈ xs ↔ z ∈ ys := by
    have hz : z ∈ xs.filter (key · = key z) ↔
        z ∈ ys.filter (key · = key z) := by rw [h]
    simpa [List.mem_filter] using hz
  induction xs generalizing ys with
  | nil =>
      cases ys with
      | nil => rfl
      | cons y ys => exact absurd (hmem.mpr List.mem_cons_self) List.not_mem_nil
  | cons x xs ih =>
      cases ys with
      | nil => exact absurd (hmem.mp List.mem_cons_self) List.not_mem_nil
      | cons y ys =>
          rw [List.pairwise_cons] at hx hy
          have hxy : key x ≤ key y := by
            rcases List.mem_cons.mp (hmem.mpr (List.mem_cons_self (a := y)))
              with rfl | hm
            · exact le_refl _
            · exact hx.1 y hm
          have hyx : key y ≤ key x := by
            rcases List.mem_cons.mp (hmem.mp (List.mem_cons_self (a := x)))
              with rfl | hm
            · exact le_refl _
            · exact hy.1 x hm
          have hkey : key x = key y := le_antisymm hxy hyx
          have hhead := h (key y)
          rw [List.filter_cons_of_pos (by simpa using hkey),
            List.filter_cons_of_pos (by simp)] at hhead
          have hxy' : x = y := (List.cons.inj hhead).1
          subst hxy'
          have htail (k : String) : xs.filter (key · = k) =
              ys.filter (key · = k) := by
            have hk := h k
            by_cases hxk : key x = k
            · rw [List.filter_cons_of_pos (by simpa using hxk),
                List.filter_cons_of_pos (by simpa using hxk)] at hk
              exact (List.cons.inj hk).2
            · rwa [List.filter_cons_of_neg (by simpa using hxk),
                List.filter_cons_of_neg (by simpa using hxk)] at hk
          refine congrArg (x :: ·) (ih hx.2 hy.2 htail fun {z} => ?_)
          have hz : z ∈ xs.filter (key · = key z) ↔
              z ∈ ys.filter (key · = key z) := by
            rw [htail]
          simpa [List.mem_filter] using hz

/-- The stable sort is the only list with rising keys and the same elements for
each key. -/
theorem eq_inOrder {key : α → String} {xs ys : List α}
    (hy : ys.Pairwise fun x y => key x ≤ key y)
    (h : ∀ k, ys.filter (key · = k) = xs.filter (key · = k)) :
    ys = inOrder key xs :=
  eq_of_filter_key hy (pairwise_inOrder key xs) fun k => by
    rw [h, filter_key_inOrder]

/-- Texts without repetition have one order. -/
theorem inOrder_id {ss : List String} (hss : ss.Nodup) :
    inOrder id ss = ss.toFinset.sort := by
  have hperm : ss.toFinset.sort.Perm (inOrder id ss) :=
    ((Finset.sort_perm_toList _ _).trans (List.toFinset_toList hss)).trans
      (inOrder_perm id ss).symm
  have heq : ss.toFinset.sort = inOrder id ss :=
    hperm.eq_of_pairwise' (Finset.pairwise_sort _ _) (pairwise_inOrder id ss)
  exact heq.symm

/-- Elements can be left out before or after sorting. -/
theorem filter_inOrder (key : α → String) (p : α → Bool) (xs : List α) :
    (inOrder key xs).filter p = inOrder key (xs.filter p) := by
  refine eq_inOrder ((pairwise_inOrder key xs).filter p) ?_
  intro k
  rw [List.filter_filter, List.filter_filter]
  have hswap (zs : List α) :
      zs.filter (fun x => decide (key x = k) && p x) =
        (zs.filter (key · = k)).filter p := by
    rw [List.filter_filter]
    exact List.filter_congr fun x _ => Bool.and_comm _ _
  rw [hswap, hswap, filter_key_inOrder]

end

namespace Json

theorem le_str_eq (s t : String) : le (.str s) (.str t) = decide (s ≤ t) := by
  rw [le_str, ← decide_not]
  exact decide_eq_decide.mpr not_lt

/-- With text keys, sorting never fails and is stable. -/
theorem sortedBy?_eq_inOrder {α : Type} {key : α → Json} {name : α → String}
    {xs : List α}
    (h : ∀ x ∈ xs, key x = .str (name x)) :
    sortedBy? key xs = some (inOrder name xs) := by
  have hstr : (xs.map key).all isStr = true := by
    rw [List.all_map, List.all_eq_true]
    intro x hx
    rw [Function.comp_apply, h x hx]
    rfl
  rw [sortedBy?_of_strings hstr, inOrder]
  have hmap := List.map_mergeSort (f := id) (l := xs)
    (r := fun x y => le (key x) (key y))
    (s := fun x y => decide (name x ≤ name y))
    fun a ha b hb => by rw [h a ha, h b hb, le_str_eq]; rfl
  simpa using hmap

/-- A list of texts without repetition is sorted into the one sorted form of its
set. -/
theorem sort_texts {ss : List String} (hss : ss.Nodup) :
    sort (ss.map .str) = .ok (ss.toFinset.sort.map .str) := by
  have hkey : ∀ x ∈ ss.map Json.str, id x = .str (x.text?.getD "") := by
    intro x hx
    obtain ⟨s, -, rfl⟩ := List.mem_map.mp hx
    rfl
  have hmap : (inOrder id ss).map Json.str =
      inOrder (fun x => x.text?.getD "") (ss.map Json.str) :=
        map_inOrder fun s _ => rfl
  rw [sort, sorted?, sortedBy?_eq_inOrder hkey, ← inOrder_id hss, hmap]

end Json

end GrantKeeper
