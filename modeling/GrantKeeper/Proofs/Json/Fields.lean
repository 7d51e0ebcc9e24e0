import GrantKeeper.Json.Basic

/-!
# Fields of an object

Looking up a field after one was written, taken away or left out.  The
statements are about `List.lookup` and not about `Fields.get`, because a reader
may tell an absent field from one that is null.
-/

namespace GrantKeeper.Fields

theorem get_of_lookup {fields : Fields} {name : String} {value : Json}
    (h : fields.lookup name = some value) : fields.get name = value := by
  simp [get, h]

theorem get_of_lookup_none {fields : Fields} {name : String}
    (h : fields.lookup name = none) : fields.get name = .null := by
  simp [get, h]

theorem lookup_of_get_ne_null {fields : Fields} {name : String}
    (h : fields.get name ≠ .null) :
    fields.lookup name = some (fields.get name) := by
  rw [get] at h ⊢
  cases hlookup : fields.lookup name with
  | none =>
      rw [hlookup] at h
      exact absurd rfl h
  | some value => rfl

theorem lookup_put_self (fields : Fields) (name : String) (value : Json) :
    (put fields name value).lookup name = some value := by
  induction fields with
  | nil => simp [put]
  | cons head rest ih =>
      obtain ⟨n, v⟩ := head
      by_cases h : n = name
      · simp [put, h]
      · have hn : (name == n) = false := beq_eq_false_iff_ne.mpr (Ne.symm h)
        simp [put, h, List.lookup_cons, hn, ih]

theorem lookup_put_of_ne {n name : String} (h : name ≠ n) (fields : Fields)
    (value : Json) : (put fields n value).lookup name = fields.lookup name := by
  have hn : (name == n) = false := beq_eq_false_iff_ne.mpr h
  induction fields with
  | nil => simp [put, List.lookup_cons, hn]
  | cons head rest ih =>
      obtain ⟨m, v⟩ := head
      by_cases hm : m = n
      · subst hm
        simp [put, List.lookup_cons, hn]
      · by_cases hk : name = m
        · subst hk
          simp [put, hm]
        · have hk' : (name == m) = false := beq_eq_false_iff_ne.mpr hk
          simp [put, hm, List.lookup_cons, hk', ih]

/-- If nothing is picked from a field of a name, to write one does not change
what is picked. -/
theorem filterMap_put {α : Type} {name : String}
    {pick : String × Json → Option α}
    (hpick : ∀ value, pick (name, value) = none) (fields : Fields)
    (value : Json) :
    (put fields name value).filterMap pick = fields.filterMap pick := by
  induction fields with
  | nil => simp [put, hpick]
  | cons head rest ih =>
      obtain ⟨n, v⟩ := head
      by_cases hn : n = name
      · subst hn
        simp [put, hpick]
      · simp [put, hn, List.filterMap_cons, ih]

theorem lookup_erase_self (fields : Fields) (name : String) :
    (erase fields name).lookup name = none := by
  induction fields with
  | nil => rfl
  | cons head rest ih =>
      obtain ⟨n, v⟩ := head
      by_cases h : n = name
      · simpa [erase, h] using ih
      · have hn : (name == n) = false := beq_eq_false_iff_ne.mpr (Ne.symm h)
        simpa [erase, h, List.lookup_cons, hn] using ih

theorem erase_put_self (fields : Fields) (name : String) (value : Json) :
    erase (put fields name value) name = erase fields name := by
  induction fields with
  | nil => simp [put, erase]
  | cons head rest ih =>
      obtain ⟨n, v⟩ := head
      by_cases h : n = name
      · simp [put, erase, h]
      · simpa [put, erase, h] using ih

theorem lookup_filter_of_ne {α : Type} {n name : String} (h : name ≠ n)
    (entries : List (String × α)) :
    (entries.filter fun (m, _) => m != n).lookup name =
      entries.lookup name := by
  induction entries with
  | nil => rfl
  | cons head rest ih =>
      obtain ⟨m, v⟩ := head
      by_cases hm : m = n
      · subst hm
        have hn : (name == m) = false := beq_eq_false_iff_ne.mpr h
        simpa [List.lookup_cons, hn] using ih
      · by_cases hk : name = m
        · subst hk
          simp [hm]
        · have hk' : (name == m) = false := beq_eq_false_iff_ne.mpr hk
          simpa [hm, List.lookup_cons, hk'] using ih

theorem lookup_erase_of_ne {n name : String} (h : name ≠ n) (fields : Fields) :
    (erase fields n).lookup name = fields.lookup name :=
  lookup_filter_of_ne h fields

end GrantKeeper.Fields
