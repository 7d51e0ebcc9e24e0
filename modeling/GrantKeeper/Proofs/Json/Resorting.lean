import GrantKeeper.Json.Shape
import GrantKeeper.Proofs.Json.Sorting
import GrantKeeper.Proofs.Json.Texts
import Mathlib.Data.List.Chain

/-!
# Sorting what is sorted

Elements of a list need not fit into one order, and then the result of a sort
depends on which of them met. What is always known of a result is local: any two
neighbours met.  So no text stands next to a value that is none, and a set of
keys, in which any two elements that meet agree on their order, is left alone by
a second sort.

## Main results

* `Json.isChain_placedAll?` — neighbours in a sorted list have met.
* `Json.placedAll?_of_isChain` — a list in which no neighbour precedes the one
  before it is left alone.
* `Json.all_isStr_of_sortedBy?` — a list with one text that can be sorted has
  only texts.
* `Json.sort_of_sort` — sorting a set of keys twice is sorting it once.
-/

namespace GrantKeeper

namespace Json

/-! ## Neighbours -/

section

variable {α : Type} {precedes? : α → α → Option Bool}

/-- The two have met, and `v` does not have to stand in front of `u`. -/
def Abuts (precedes? : α → α → Option Bool) (u v : α) : Prop :=
  precedes? v u = some false ∨ precedes? u v = some true

/-- A new element has met its neighbours on both sides. -/
theorem exists_split_of_placed? {new : α} {sorted placed : List α}
    (h : placed? precedes? new sorted = some placed) :
    ∃ front back, sorted = front ++ back ∧ placed = front ++ new :: back ∧
      (∀ u ∈ front.getLast?, precedes? new u = some false) ∧
      ∀ v ∈ back.head?, precedes? new v = some true := by
  induction hn : sorted.length using Nat.strong_induction_on generalizing sorted
    placed with
  | _ n ih =>
      unfold placed? at h
      split at h
      · rename_i hdrop
        have hlen := congrArg List.length hdrop
        simp only [List.length_drop, List.length_nil] at hlen
        have hsorted : sorted = [] := List.eq_nil_of_length_eq_zero (by omega)
        cases h
        exact ⟨[], [], hsorted, rfl, by simp, by simp⟩
      · rename_i middle back hdrop
        have hlen := congrArg List.length hdrop
        simp only [List.length_drop, List.length_cons] at hlen
        have hsplit : sorted = sorted.take (sorted.length / 2) ++ middle ::
            back := by
          rw [← hdrop]
          exact (List.take_append_drop _ _).symm
        simp only [Option.bind_eq_bind, Option.bind_eq_some_iff,
          Option.pure_def] at h
        obtain ⟨isBefore, hmiddle, h⟩ := h
        cases isBefore with
        | true =>
            rw [if_pos rfl] at h
            obtain ⟨inner, hinner, hplaced⟩ := Option.bind_eq_some_iff.mp h
            have hshort : (sorted.take (sorted.length / 2)).length < n := by
              rw [List.length_take]
              omega
            obtain ⟨front, mid, htake, rfl, hfront, hmid⟩ :=
              ih _ hshort hinner rfl
            have hplaced := Option.some.inj hplaced
            refine ⟨front, mid ++ middle :: back, ?_, ?_, hfront, ?_⟩
            · rw [← List.append_assoc, ← htake]
              exact hsplit
            · rw [← hplaced, List.append_assoc, List.cons_append]
            · cases mid with
              | nil =>
                  intro v hv
                  cases hv
                  exact hmiddle
              | cons m ms => exact hmid
        | false =>
            rw [if_neg Bool.false_ne_true] at h
            obtain ⟨inner, hinner, hplaced⟩ := Option.bind_eq_some_iff.mp h
            have hshort : back.length < n := by omega
            obtain ⟨mid, rest, hback, rfl, hmid, hrest⟩ :=
              ih _ hshort hinner rfl
            have hplaced := Option.some.inj hplaced
            refine ⟨sorted.take (sorted.length / 2) ++ middle :: mid, rest, ?_,
              ?_, ?_, hrest⟩
            · rw [List.append_assoc, List.cons_append, ← hback]
              exact hsplit
            · rw [← hplaced, List.append_assoc, List.cons_append]
            · cases mid with
              | nil =>
                  intro u hu
                  rw [List.getLast?_append_cons] at hu
                  cases hu
                  exact hmiddle
              | cons m ms =>
                  intro u hu
                  rw [List.getLast?_append_cons, List.getLast?_cons_cons] at hu
                  exact hmid u hu

theorem isChain_placed? {new : α} {sorted placed : List α}
    (hsorted : sorted.IsChain (Abuts precedes?))
    (h : placed? precedes? new sorted = some placed) :
    placed.IsChain (Abuts precedes?) := by
  obtain ⟨front, back, rfl, rfl, hfront, hback⟩ := exists_split_of_placed? h
  have hnew : (new :: back).IsChain (Abuts precedes?) :=
    List.isChain_cons.mpr
      ⟨fun v hv => Or.inr (hback v hv), hsorted.right_of_append⟩
  refine hsorted.left_of_append.append hnew ?_
  intro u hu v hv
  cases hv
  exact Or.inl (hfront u hu)

theorem isChain_foldlM_placed? {xs start sorted : List α}
    (hstart : start.IsChain (Abuts precedes?))
    (h : xs.foldlM (fun sorted x => placed? precedes? x sorted) start =
      some sorted) :
    sorted.IsChain (Abuts precedes?) := by
  induction xs generalizing start with
  | nil =>
      cases h
      exact hstart
  | cons x xs ih =>
      rw [List.foldlM_cons] at h
      obtain ⟨next, hnext, htail⟩ := Option.bind_eq_some_iff.mp h
      exact ih (isChain_placed? hstart hnext) htail

/-- A run goes one way throughout. -/
theorem isChain_run? {falling : Bool} {last : α} {xs run rest : List α}
    (h : run? precedes? falling last xs = some (run, rest)) :
    (last :: run).IsChain fun u v => precedes? v u = some falling := by
  induction xs generalizing last run rest with
  | nil =>
      cases h
      exact .singleton _
  | cons x xs ih =>
      simp only [run?, Option.bind_eq_bind, Option.bind_eq_some_iff] at h
      obtain ⟨way, hway, h⟩ := h
      split at h
      · rename_i hsame
        obtain ⟨⟨run', rest'⟩, htail, heq⟩ := Option.bind_eq_some_iff.mp h
        cases heq
        rw [beq_iff_eq.mp hsame] at hway
        exact .cons_cons hway (ih htail)
      · cases h
        exact .singleton _

/-- **Neighbours in a sorted list have met.** -/
theorem isChain_placedAll? {xs sorted : List α}
    (h : placedAll? precedes? xs = some sorted) :
    sorted.IsChain (Abuts precedes?) := by
  unfold placedAll? at h
  split at h
  · rename_i first second rest
    simp only [Option.bind_eq_bind, Option.bind_eq_some_iff] at h
    obtain ⟨falling, -, ⟨run, others⟩, hrun, hfold⟩ := h
    have hway := isChain_run? hrun
    refine isChain_foldlM_placed? ?_ hfold
    cases falling with
    | true =>
        have hturned : (first :: run).reverse.IsChain fun u v =>
            precedes? u v = some true :=
          List.isChain_reverse.mpr hway
        exact hturned.imp fun _ _ => Or.inr
    | false => exact hway.imp fun _ _ => Or.inl
  · rename_i hshort
    obtain rfl := Option.some.inj h
    match xs, hshort with
    | [], _ => exact .nil
    | [x], _ => exact .singleton x
    | first :: second :: rest, hshort =>
        exact (hshort first second rest rfl).elim

theorem run?_of_isChain {last : α} {xs : List α}
    (h : (last :: xs).IsChain fun u v => precedes? v u = some false) :
    run? precedes? false last xs = some (xs, []) := by
  induction xs generalizing last with
  | nil => rfl
  | cons x xs ih =>
      obtain ⟨hx, hxs⟩ := List.isChain_cons_cons.mp h
      simp [run?, hx, ih hxs]

/-- **A list in which no neighbour precedes the one before it is left
alone.** -/
theorem placedAll?_of_isChain {xs : List α}
    (h : xs.IsChain fun u v => precedes? v u = some false) :
    placedAll? precedes? xs = some xs := by
  match xs, h with
  | [], _ => rfl
  | [x], _ => rfl
  | first :: second :: rest, h =>
      have hsecond := (List.isChain_cons_cons.mp h).1
      simp [placedAll?, hsecond, run?_of_isChain h]

end

/-! ## Texts -/

/-- A text is comparable with texts only. -/
theorem isStr_eq_of_lt? {x y : Json} {b : Bool} (h : lt? x y = some b) :
    x.isStr = y.isStr := by
  have hnumber {n : Json} (hn : numberLt? n y = some b) : y.isStr = false := by
    cases y with
    | str s =>
        unfold numberLt? number? at hn
        cases n <;> cases hn
    | _ => rfl
  cases x with
  | null => cases h
  | str s => cases y <;> first | rfl | cases h
  | arr xs => cases y <;> first | rfl | cases h
  | obj fields => cases h
  | bool a => exact (hnumber h).symm
  | int a => exact (hnumber h).symm
  | float a => exact (hnumber h).symm
  | nan a => exact (hnumber h).symm

/-- **A list with one text that can be sorted has only texts.** -/
theorem all_isStr_of_sortedBy? {α : Type} {key : α → Json} {xs sorted : List α}
    (h : sortedBy? key xs = some sorted) {x : α} (hx : x ∈ xs)
    (hstr : (key x).isStr = true) : ∀ y ∈ xs, (key y).isStr = true := by
  have hperm := sortedBy?_perm h
  unfold sortedBy? at h
  split at h
  · rename_i hall
    intro y hy
    exact List.all_eq_true.mp hall (key y) (List.mem_map_of_mem hy)
  · have hsame : sorted.IsChain fun u v => (key u).isStr = (key v).isStr := by
      refine (isChain_placedAll? h).imp fun u v habuts => ?_
      rcases habuts with hv | hu
      · exact (isStr_eq_of_lt? hv).symm
      · exact isStr_eq_of_lt? hu
    have hpairs : sorted.Pairwise fun u v => (key u).isStr = (key v).isStr :=
      have : IsTrans α fun u v =>
          (key u).isStr = (key v).isStr := ⟨fun _ _ _ => Eq.trans⟩
      List.isChain_iff_pairwise.mp hsame
    have : Std.Symm fun u v : α =>
        (key u).isStr = (key v).isStr := ⟨fun _ _ => Eq.symm⟩
    have hagree := List.Pairwise.forall_of_forall
      (R := fun u v : α => (key u).isStr = (key v).isStr)
      (fun _ _ => rfl) hpairs
    intro y hy
    rw [← hstr]
    exact hagree (hperm.mem_iff.mpr hy) (hperm.mem_iff.mpr hx)

/-! ## Keys -/

/-- Keys that have met agree on their order. -/
theorem lt?_asymm {x y : Json} (hx : x.isKey = true) (h : lt? x y = some true) :
    lt? y x = some false := by
  have hnumber {n : Json} (hn : numberLt? n y = some true) : numberLt? y n =
      some false := by
    unfold numberLt? at hn ⊢
    cases hx : n.number? with
    | none =>
        rw [hx] at hn
        cases hn
    | some a =>
        cases hy : y.number? with
        | none =>
            rw [hx, hy] at hn
            cases hn
        | some b =>
            rw [hx, hy] at hn
            have hlt := beq_iff_eq.mp (Option.some.inj hn)
            simp only
            rw [Decimal.Binary64.compare?_swap, hlt]
            rfl
  have hflip {n : Json} (hn : numberLt? n y = some true) : lt? y n =
      numberLt? y n := by
    unfold numberLt? at hn
    cases y with
    | bool b => rfl
    | int b => rfl
    | float b => rfl
    | nan b => rfl
    | _ =>
        cases hnumber : n.number? with
        | none =>
            rw [hnumber] at hn
            cases hn
        | some a =>
            rw [hnumber] at hn
            cases hn
  cases x with
  | null => cases h
  | arr xs => cases hx
  | obj fields => cases h
  | str s =>
      cases y with
      | str t =>
          rw [lt?_str, Option.some.injEq, decide_eq_true_eq] at h
          rw [lt?_str, decide_eq_false (lt_asymm h)]
      | _ => cases h
  | bool a => exact (hflip h).trans (hnumber h)
  | int a => exact (hflip h).trans (hnumber h)
  | float a => exact (hflip h).trans (hnumber h)
  | nan a => exact (hflip h).trans (hnumber h)

/-- **Sorting a set of keys twice is sorting it once.** -/
theorem sort_of_sort {xs sorted : List Json} (hkeys : ∀ x ∈ xs, x.isKey = true)
    (h : sort xs = .ok sorted) : sort sorted = .ok sorted := by
  have hperm := sort_perm h
  have hagain : sorted? sorted = some sorted := by
    unfold sort at h
    split at h
    case h_2 => cases h
    rename_i hsorted
    cases h
    unfold sorted? sortedBy? at hsorted ⊢
    have hall : (sorted.map id).all isStr = (xs.map id).all isStr := by
      rw [List.map_id, List.map_id]
      exact hperm.all_eq
    rw [hall]
    split at hsorted
    · rename_i hstr
      have hkey : ∀ x ∈ xs, id x = .str (x.text?.getD "") := by
        intro x hx
        have hx' : x.isStr = true :=
          List.all_eq_true.mp hstr x (List.mem_map.mpr ⟨x, hx, rfl⟩)
        cases x with
        | str s => rfl
        | _ => cases hx'
      have hfirst := sortedBy?_eq_inOrder hkey
      rw [sortedBy?_of_strings hstr, hsorted] at hfirst
      have hsecond :=
        sortedBy?_eq_inOrder fun x hx => hkey x (hperm.mem_iff.mp hx)
      rw [sortedBy?_of_strings (hall.trans hstr)] at hsecond
      rw [if_pos hstr, hsecond, Option.some.inj hfirst, inOrder_inOrder]
    · rename_i hmixed
      rw [if_neg hmixed]
      apply placedAll?_of_isChain
      refine (isChain_placedAll? hsorted).imp_of_mem_imp
        fun u v hu hv habuts => ?_
      rcases habuts with hbehind | hbefore
      · exact hbehind
      · exact lt?_asymm (hkeys u (hperm.mem_iff.mp hu)) hbefore
  rw [sort, hagain]

end Json

end GrantKeeper
