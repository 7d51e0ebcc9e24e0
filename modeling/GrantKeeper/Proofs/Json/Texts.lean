import GrantKeeper.Json.Shape

/-!
# Texts among JSON values

Roles and members that matter are texts, but a policy may list anything.  Among
values, texts behave as one expects: a text only equals itself, and a set of
keys has a text exactly when it lists it.  What else a set lists does not touch
its texts, so the statements here need nothing about other values.

## Main results

* `Json.same_str_left_iff`, `Json.same_str_right_iff` — a text equals no other
  value.
* `Keys.str_mem_insertAll` — the texts of a set after a list was put into it.
* `Keys.insertAll_texts` — a list of texts always fits into a set of texts.
-/

namespace GrantKeeper

namespace Json

theorem same_str_left_iff {s : String} {x : Json} :
    same (.str s) x = true ↔ x = .str s := by
  cases x with
  | str t => rw [same_str, beq_iff_eq, Json.str.injEq, eq_comm]
  | _ => simp [same]

theorem same_str_right_iff {x : Json} {s : String} :
    same x (.str s) = true ↔ x = .str s := by
  have number (y : Json) : sameNumber y (.str s) = false := by
    unfold sameNumber
    cases hm : y.nanMark? <;> cases hn : y.number? <;> rfl
  cases x <;> simp [same, number]

/-- The elements of a value, none of one that cannot be walked through. -/
def listed (value : Json) : List Json := value.elements.toOption.getD []

@[simp] theorem listed_arr (items : List Json) : listed (.arr items) = items :=
  rfl

@[simp] theorem listed_null : listed .null = [] := rfl

theorem listed_of_elements {value : Json} {items : List Json}
    (h : value.elements = .ok items) : value.listed = items := by
  simp [listed, h, Except.toOption]

/-- A falsy value lists nothing, so reading it as an empty array changes
nothing. -/
theorem listed_orElse_arr (value : Json) :
    (value.orElse (.arr [])).listed = value.listed := by
  unfold orElse
  split
  · rfl
  · rename_i h
    cases value with
    | str s =>
        have hs : s = "" := by simpa using h
        subst hs
        rfl
    | arr items =>
        have hi : items = [] := by simpa using h
        rw [hi]
    | obj fields =>
        have hf : fields = [] := by simpa using h
        subst hf
        rfl
    | _ => rfl

theorem listed_eq_of_orElse {value : Json} {items : List Json}
    (h : (value.orElse (.arr [])).elements = .ok items) :
    value.listed = items := by
  rw [← listed_orElse_arr, listed_of_elements h]

@[simp] theorem orElse_obj (fields : Fields) :
    (obj fields).orElse (.obj []) = .obj fields := by
  cases fields <;> rfl

@[simp] theorem orElse_arr (items : List Json) :
    (arr items).orElse (.arr []) = .arr items := by
  cases items <;> rfl

/-- The text that a value is. -/
def text? : Json → Option String
  | .str s => some s
  | _ => none

@[simp] theorem text?_str (s : String) : text? (.str s) = some s := rfl

theorem text?_eq_some_iff {x : Json} {s : String} :
    x.text? = some s ↔ x = .str s := by
  cases x <;> simp [text?]

/-- The texts among values. -/
def texts (values : List Json) : List String := values.filterMap text?

@[simp] theorem mem_texts {values : List Json} {s : String} :
    s ∈ texts values ↔ .str s ∈ values := by
  simp [texts, List.mem_filterMap, text?_eq_some_iff]

@[simp] theorem texts_map_str (ss : List String) :
    texts (ss.map .str) = ss := by
  induction ss with
  | nil => rfl
  | cons s ss ih => simpa [texts] using ih

theorem str_injective :
    Function.Injective Json.str := fun _ _ h => Json.str.inj h

@[simp] theorem str_mem_map_str {s : String} {ss : List String} :
    Json.str s ∈ ss.map Json.str ↔ s ∈ ss := by
  simp

@[simp] theorem all_isStr_map_str (ss : List String) :
    (ss.map Json.str).all isStr = true := by
  rw [List.all_map]
  exact List.all_eq_true.mpr fun _ _ => rfl

/-- Values that are all texts are the texts among them. -/
theorem map_str_texts {values : List Json} (h : values.all isStr) :
    (texts values).map .str = values := by
  induction values with
  | nil => rfl
  | cons x xs ih =>
      rw [List.all_cons, Bool.and_eq_true] at h
      cases x with
      | str s => simpa [texts] using ih h.2
      | _ => simp [isStr] at h

end Json

namespace Keys

theorem has_str_iff {keys : Keys} {s : String} :
    keys.has (.str s) = true ↔ .str s ∈ keys := by
  simp [has, List.any_eq_true, Json.same_str_left_iff]

theorem str_mem_insert {keys : Keys} {key : Json} {s : String} :
    .str s ∈ keys.insert key ↔ .str s ∈ keys ∨ key = .str s := by
  unfold insert
  split
  · rename_i h
    constructor
    · exact Or.inl
    · rintro (hs | rfl)
      · exact hs
      · exact has_str_iff.mp h
  · simp [eq_comm]

theorem mem_insert_str {keys : Keys} {x : Json} {s : String} :
    x ∈ keys.insert (.str s) ↔ x ∈ keys ∨ x = .str s := by
  unfold insert
  split
  · rename_i h
    constructor
    · exact Or.inl
    · rintro (hx | rfl)
      · exact hx
      · exact has_str_iff.mp h
  · simp

theorem mem_remove_str {keys : Keys} {x : Json} {s : String} :
    x ∈ keys.remove (.str s) ↔ x ∈ keys ∧ x ≠ .str s := by
  rw [remove, List.mem_filter, Bool.not_eq_true', Bool.eq_false_iff, ne_eq,
    Json.same_str_left_iff]

/-- The texts of a set after a list of keys was put into it. -/
theorem str_mem_insertAll {keys new : Keys} {xs : List Json} {s : String}
    (h : insertAll keys xs = .ok new) :
    .str s ∈ new ↔ .str s ∈ keys ∨ .str s ∈ xs := by
  induction xs generalizing keys with
  | nil =>
      have hk : keys = new := by simpa [insertAll] using h
      simp [hk]
  | cons x xs ih =>
      unfold insertAll at h
      split at h
      · rw [ih h, str_mem_insert, List.mem_cons, or_assoc, eq_comm (a := x)]
      · cases h

/-- A list of texts always fits into a set of texts, which stays one without
repetition. -/
theorem insertAll_texts {ss : List String} (hss : ss.Nodup) (xs : List String) :
    ∃ new : List String,
      insertAll (ss.map .str) (xs.map .str) = .ok (new.map .str) ∧
        new.Nodup ∧ ∀ s, s ∈ new ↔ s ∈ ss ∨ s ∈ xs := by
  induction xs generalizing ss with
  | nil => exact ⟨ss, rfl, hss, by simp⟩
  | cons x xs ih =>
      by_cases hx : x ∈ ss
      · have hin : insert (ss.map .str) (.str x) = ss.map .str := by
          have hhas : has (ss.map .str) (.str x) = true :=
            has_str_iff.mpr (by simpa using hx)
          simp [insert, hhas]
        obtain ⟨new, hnew, hnodup, hmem⟩ := ih hss
        refine ⟨new, ?_, hnodup, fun s => ?_⟩
        · simpa [insertAll, hin] using hnew
        · rw [hmem, List.mem_cons]
          constructor
          · rintro (h | h)
            · exact Or.inl h
            · exact Or.inr (Or.inr h)
          · rintro (h | rfl | h)
            · exact Or.inl h
            · exact Or.inl hx
            · exact Or.inr h
      · have hin : insert (ss.map .str) (.str x) = (ss ++ [x]).map .str := by
          have hhas : has (ss.map .str) (.str x) = false := by
            rw [Bool.eq_false_iff]
            exact fun h => hx (by simpa using has_str_iff.mp h)
          simp [insert, hhas]
        have happ : (ss ++ [x]).Nodup := by
          rw [List.nodup_append]
          refine ⟨hss, List.pairwise_singleton _ _, ?_⟩
          intro a ha b hb
          rw [List.mem_singleton] at hb
          rintro rfl
          exact hx (hb ▸ ha)
        obtain ⟨new, hnew, hnodup, hmem⟩ := ih happ
        refine ⟨new, ?_, hnodup, fun s => ?_⟩
        · simpa [insertAll, hin] using hnew
        · rw [hmem, List.mem_append, List.mem_singleton,
            List.mem_cons, or_assoc]

end Keys

end GrantKeeper
