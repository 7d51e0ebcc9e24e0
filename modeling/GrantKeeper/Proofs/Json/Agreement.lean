import GrantKeeper.Proofs.Json.Fields
import GrantKeeper.Proofs.Json.Texts
import Mathlib.Data.List.Perm.Subperm

/-!
# Equality of values

Equality of values looks through the order of fields and through the ways to
write a number.  It is reflexive on values in which no object has two fields of
one name.  Arrays are equal element by element, and objects in which nothing is
null are equal exactly when they agree on every field, an absent one read as
null.

## Main results

* `Json.same_self` — a value equals itself.
* `Json.same_arr_iff`, `Json.same_obj_iff` — arrays and objects part by part.
* `Json.same_texts_iff` — lists of texts are equal only if they are the same
  list.
-/

namespace GrantKeeper

theorem Decimal.Binary64.compare?_self {x : Binary64} (h : x ≠ .nan) :
    compare? x x = some .eq := by
  cases x with
  | nan => exact absurd rfl h
  | infinite a => simp [compare?]
  | finite n s e => simp [compare?, Exact.compare]

namespace Json

/-! ## Every value equals itself -/

/-- No object in the value has two fields of one name. -/
def namesApart : Json → Bool
  | .arr items => itemsApart items
  | .obj fields => decide (fields.map Prod.fst).Nodup && fieldsApart fields
  | _ => true
where
  itemsApart : List Json → Bool
    | [] => true
    | x :: xs => namesApart x && itemsApart xs
  fieldsApart : Fields → Bool
    | [] => true
    | (_, x) :: xs => namesApart x && fieldsApart xs

theorem namesApart_arr_iff {items : List Json} :
    (arr items).namesApart = true ↔ ∀ x ∈ items, x.namesApart = true := by
  rw [namesApart]
  induction items with
  | nil => simp [namesApart.itemsApart]
  | cons x xs ih =>
      rw [namesApart.itemsApart, Bool.and_eq_true, ih, List.forall_mem_cons]

/-- The fields of such a value are such values. -/
theorem namesApart_get {fields : Fields} (h : (obj fields).namesApart = true)
    (name : String) : (Fields.get fields name).namesApart = true := by
  rw [namesApart, Bool.and_eq_true] at h
  obtain ⟨-, h⟩ := h
  induction fields with
  | nil => rfl
  | cons field rest ih =>
      obtain ⟨n, x⟩ := field
      rw [namesApart.fieldsApart, Bool.and_eq_true] at h
      by_cases hn : name = n
      · rw [hn, Fields.get_cons_self]
        exact h.1
      · rw [Fields.get_cons_of_ne hn]
        exact ih h.2

theorem namesApart_orElse {x y : Json} (hx : x.namesApart = true)
    (hy : y.namesApart = true) : (x.orElse y).namesApart = true := by
  unfold orElse
  split
  · exact hx
  · exact hy

/-- A number equals itself, and so does a not-a-number. -/
private theorem sameNumber_self {x : Json}
    (h : x.nanMark?.isSome ∨ x.number?.isSome) : sameNumber x x = true := by
  unfold sameNumber
  cases x with
  | bool b =>
      simp [nanMark?, number?, Decimal.Binary64.compare?_self,
        Decimal.Binary64.ofInt]
  | int n =>
      simp [nanMark?, number?, Decimal.Binary64.compare?_self,
        Decimal.Binary64.ofInt]
  | float y =>
      by_cases hnan : Decimal.Binary64.ofFloat y = .nan
      · simp [nanMark?, hnan]
      · simp [nanMark?, number?, hnan, Decimal.Binary64.compare?_self]
  | nan mark => simp [nanMark?]
  | _ => simp [nanMark?, number?] at h

theorem lookup_of_mem {fields : Fields} (h : (fields.map Prod.fst).Nodup)
    {name : String} {value : Json} (hin : (name, value) ∈ fields) :
    fields.lookup name = some value := by
  induction fields with
  | nil => cases hin
  | cons field rest ih =>
      obtain ⟨n, v⟩ := field
      rw [List.map_cons, List.nodup_cons] at h
      rcases List.mem_cons.mp hin with heq | hrest
      · cases heq
        exact List.lookup_cons_self
      · have hne : name ≠ n := by
          rintro rfl
          exact h.1 (List.mem_map.mpr ⟨(name, value), hrest, rfl⟩)
        rw [List.lookup_cons, beq_eq_false_iff_ne.mpr hne]
        exact ih h.2 hrest

theorem mem_of_lookup {fields : Fields} {name : String} {value : Json}
    (h : fields.lookup name = some value) : (name, value) ∈ fields := by
  obtain ⟨front, back, rfl, -⟩ := List.lookup_eq_some_iff.mp h
  simp

theorem exists_lookup_of_mem {fields : Fields} {name : String}
    (h : name ∈ fields.map Prod.fst) :
    ∃ value, fields.lookup name = some value := by
  rw [← Option.isSome_iff_exists, List.lookup_isSome_iff]
  obtain ⟨p, hp, rfl⟩ := List.mem_map.mp h
  exact ⟨p, hp, beq_self_eq_true _⟩

mutual

/-- **A value equals itself.** -/
theorem same_self {x : Json} (h : x.namesApart = true) : x.same x = true := by
  cases x with
  | null => rfl
  | str s => simp
  | arr items =>
      rw [namesApart] at h
      rw [same]
      exact sameItems_self h
  | obj fields =>
      rw [namesApart, Bool.and_eq_true, decide_eq_true_eq] at h
      rw [same, beq_self_eq_true, Bool.true_and]
      exact sameFields_self h.2 fun p hp => lookup_of_mem h.1 hp
  | _ =>
      rw [same]
      exact sameNumber_self (by simp [number?, nanMark?])

private theorem sameItems_self {xs : List Json}
    (h : namesApart.itemsApart xs = true) : same.sameItems xs xs = true := by
  cases xs with
  | nil => rfl
  | cons x xs =>
      rw [namesApart.itemsApart, Bool.and_eq_true] at h
      rw [same.sameItems, same_self h.1, sameItems_self h.2, Bool.and_self]

private theorem sameFields_self {xs ys : Fields}
    (h : namesApart.fieldsApart xs = true)
    (hin : ∀ p ∈ xs, ys.lookup p.1 = some p.2) :
    same.sameFields xs ys = true := by
  cases xs with
  | nil => rfl
  | cons p xs =>
      obtain ⟨name, x⟩ := p
      rw [namesApart.fieldsApart, Bool.and_eq_true] at h
      have hfound : ys.lookup name = some x := hin (name, x) List.mem_cons_self
      have hrest :=
        sameFields_self h.2 fun q hq => hin q (List.mem_cons_of_mem _ hq)
      rw [same.sameFields, hfound, hrest, Bool.and_true]
      exact same_self h.1

end

theorem same_self_of_isKey {x : Json} (h : x.isKey = true) :
    x.same x = true := by
  apply same_self
  cases x with
  | arr items => cases h
  | obj fields => cases h
  | _ => rfl

/-! ## Arrays -/

/-- Arrays are equal element by element. -/
theorem same_arr_iff {xs ys : List Json} :
    same (.arr xs) (.arr ys) = true ↔
      List.Forall₂ (fun x y => x.same y = true) xs ys := by
  rw [same]
  induction xs generalizing ys with
  | nil => cases ys <;> simp [same.sameItems]
  | cons x xs ih => cases ys <;> simp [same.sameItems, ih]

/-- Lists of texts are equal only if they are the same list. -/
theorem same_texts_iff {ss ts : List String} :
    same (.arr (ss.map .str)) (.arr (ts.map .str)) = true ↔ ss = ts := by
  rw [same_arr_iff]
  induction ss generalizing ts with
  | nil => cases ts <;> simp
  | cons s ss ih => cases ts <;> simp [ih]

/-! ## Objects -/

theorem sameFields_iff {xs ys : Fields} : same.sameFields xs ys = true ↔
    ∀ p ∈ xs, ∃ y, ys.lookup p.1 = some y ∧ p.2.same y = true := by
  induction xs with
  | nil => simp [same.sameFields]
  | cons p xs ih =>
      obtain ⟨name, x⟩ := p
      rw [same.sameFields, Bool.and_eq_true, ih, List.forall_mem_cons]
      cases ys.lookup name <;> simp

theorem same_null_left_iff {y : Json} : same .null y = true ↔ y = .null := by
  cases y <;> simp [same]

theorem same_null_right_iff {x : Json} : same x .null = true ↔ x = .null := by
  have number (x : Json) : sameNumber x .null = false := by
    unfold sameNumber
    cases x.nanMark? <;> cases x.number? <;> rfl
  cases x <;> simp [same, number]

/-- The names of the fields are those under which something is found. -/
private theorem mem_names_iff {fields : Fields}
    (hnull : ∀ p ∈ fields, p.2 ≠ .null)
    {name : String} : name ∈ fields.map Prod.fst ↔ fields.get name ≠ .null := by
  constructor
  · intro hname hget
    obtain ⟨value, hlookup⟩ := exists_lookup_of_mem hname
    rw [Fields.get_of_lookup hlookup] at hget
    exact hnull _ (mem_of_lookup hlookup) hget
  · intro hget
    exact List.mem_map_of_mem
      (mem_of_lookup (Fields.lookup_of_get_ne_null hget))

/-- Equal objects have the same names: as many on both sides, so there is none
on the right alone. -/
private theorem names_perm {xs ys : Fields} (hx : (xs.map Prod.fst).Nodup)
    (hlength : xs.length = ys.length)
    (hfields : ∀ p ∈ xs, ∃ y, ys.lookup p.1 = some y ∧ p.2.same y = true) :
    (xs.map Prod.fst).Perm (ys.map Prod.fst) := by
  have hsub : xs.map Prod.fst ⊆ ys.map Prod.fst := by
    intro n hn
    obtain ⟨p, hp, rfl⟩ := List.mem_map.mp hn
    obtain ⟨y, hlookup, -⟩ := hfields p hp
    exact List.mem_map.mpr ⟨(p.1, y), mem_of_lookup hlookup, rfl⟩
  exact (List.subperm_of_subset hx hsub).perm_of_length_le (by simp [hlength])

/-- **Objects without null agree field by field.** -/
theorem same_obj_iff {xs ys : Fields} (hx : (xs.map Prod.fst).Nodup)
    (hy : (ys.map Prod.fst).Nodup)
    (hx' : ∀ p ∈ xs, p.2 ≠ .null) (hy' : ∀ p ∈ ys, p.2 ≠ .null) :
    same (.obj xs) (.obj ys) = true ↔
      ∀ name, (xs.get name).same (ys.get name) = true := by
  rw [same, Bool.and_eq_true, beq_iff_eq, sameFields_iff]
  constructor
  · rintro ⟨hlength, hfields⟩ name
    by_cases hname : name ∈ xs.map Prod.fst
    · obtain ⟨p, hp, rfl⟩ := List.mem_map.mp hname
      obtain ⟨y, hlookup, hsame⟩ := hfields p hp
      rw [Fields.get_of_lookup (lookup_of_mem hx hp),
        Fields.get_of_lookup hlookup]
      exact hsame
    · have hnone : name ∉ ys.map Prod.fst := fun hin =>
        hname ((names_perm hx hlength hfields).mem_iff.mpr hin)
      rw [mem_names_iff hx', not_not] at hname
      rw [mem_names_iff hy', not_not] at hnone
      rw [hname, hnone]
      rfl
  · intro hget
    have hnames (name : String) : name ∈ xs.map Prod.fst ↔
        name ∈ ys.map Prod.fst := by
      have hsame := hget name
      rw [mem_names_iff hx', mem_names_iff hy', not_iff_not]
      constructor
      · intro hnull
        rw [hnull] at hsame
        exact same_null_left_iff.mp hsame
      · intro hnull
        rw [hnull] at hsame
        exact same_null_right_iff.mp hsame
    refine ⟨?_, ?_⟩
    · have hperm := (List.perm_ext_iff_of_nodup hx hy).mpr hnames
      simpa using hperm.length_eq
    · intro p hp
      have hsame := hget p.1
      obtain ⟨y, hlookup⟩ :=
        exists_lookup_of_mem ((hnames p.1).mp (List.mem_map_of_mem hp))
      rw [Fields.get_of_lookup (lookup_of_mem hx hp),
        Fields.get_of_lookup hlookup] at hsame
      exact ⟨y, hlookup, hsame⟩

end Json

end GrantKeeper
