import GrantKeeper.Proofs.Fault.Steps
import GrantKeeper.Proofs.Json.Fields

/-!
# What passes a check

For every kind of check, the values that pass it and what is made of them.  A
check of several parts passes if all of them do, so what passes the check of a
model is said field by field.

## Main results

* `Check.required_eq_ok_iff` — a field that has to be there.
* `Check.noOthers_eq_ok_iff` — no fields but the known ones.
* `Check.nonemptyText_eq_ok_iff` — a text that is not empty.
-/

namespace GrantKeeper

namespace Check

variable {α : Type} {fields : Fields} {name : String}
  {check : Json → Checked α} {a : α}

theorem required_of_lookup {value : Json}
    (h : fields.lookup name = some value) :
    required fields name check = (check value).within (.name name) := by
  rw [required, h]

/-- **A field that has to be there.** -/
theorem required_eq_ok_iff :
    required fields name check = .ok a ↔
      ∃ value, fields.lookup name = some value ∧ check value = .ok a := by
  cases hlookup : fields.lookup name with
  | none =>
      rw [required, hlookup]
      exact iff_of_false nofun fun ⟨_, hvalue, _⟩ => nomatch hvalue
  | some value =>
      rw [required_of_lookup hlookup, Checked.within_eq_ok_iff]
      exact ⟨fun h => ⟨value, rfl, h⟩,
        fun ⟨_, hvalue, h⟩ => Option.some.inj hvalue ▸ h⟩

/-- A field that is fine is left out or was there. -/
theorem cases_of_optional {default : α}
    (h : optional fields name default check = .ok a) :
    fields.lookup name = none ∧ a = default ∨
      ∃ value, fields.lookup name = some value ∧ check value = .ok a := by
  unfold optional at h
  split at h
  · rename_i value hvalue
    exact Or.inr ⟨value, hvalue, Checked.within_eq_ok_iff.mp h⟩
  · rename_i hmissing
    cases h
    exact Or.inl ⟨hmissing, rfl⟩

theorem object_eq_ok_iff {model : String} {check : Fields → Checked α}
    {value : Json} :
    object model check value = .ok a ↔
      ∃ fields, value = .obj fields ∧ check fields = .ok a := by
  cases value with
  | obj fields =>
      exact ⟨fun h => ⟨fields, rfl, h⟩,
        fun ⟨_, hfields, h⟩ => Json.obj.inj hfields ▸ h⟩
  | _ => exact iff_of_false nofun fun ⟨_, hfields, _⟩ => nomatch hfields

/-- **A text that is not empty.** -/
theorem nonemptyText_eq_ok_iff {value : Json} {s : String} :
    nonemptyText value = .ok s ↔ value = .str s ∧ s ≠ "" := by
  cases value with
  | str t =>
      rw [nonemptyText]
      split
      · rename_i hempty
        refine iff_of_false nofun ?_
        rintro ⟨hs, hne⟩
        exact hne (Json.str.inj hs ▸ String.isEmpty_iff.mp hempty)
      · rename_i hne
        constructor
        · intro h
          cases h
          exact ⟨rfl, fun h => hne (String.isEmpty_iff.mpr h)⟩
        · rintro ⟨hs, -⟩
          rw [Json.str.inj hs]
  | _ => exact iff_of_false nofun fun ⟨hs, _⟩ => nomatch hs

variable {known : List String}

/-- **No fields but the known ones.** -/
theorem noOthers_eq_ok_iff :
    noOthers known fields = .ok () ↔ ∀ e ∈ fields, e.1 ∈ known := by
  rw [noOthers]
  split
  · rename_i hnone
    refine iff_of_true rfl fun e he => ?_
    have hknown := List.filterMap_eq_nil_iff.mp hnone e he
    dsimp only at hknown
    split at hknown
    · rename_i hcontains
      exact List.contains_iff_mem.mp hcontains
    · cases hknown
  · rename_i issues hsome
    refine iff_of_false nofun fun hall => hsome ?_
    refine List.filterMap_eq_nil_iff.mpr fun e he => if_pos ?_
    exact List.contains_iff_mem.mpr (hall e he)

/-- To write a field that is known does not change which ones are unknown. -/
theorem noOthers_put (h : name ∈ known) (fields : Fields) (value : Json) :
    noOthers known (fields.put name value) = noOthers known fields := by
  unfold noOthers
  rw [Fields.filterMap_put fun _ => if_pos (List.contains_iff_mem.mpr h)]

end Check

end GrantKeeper
