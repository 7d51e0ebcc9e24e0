import GrantKeeper.Fault.Basic

/-!
# Steps that may fail

What follows if a computation gave a value: the steps that it is put together
from gave values as well, and whatever is made of their faults on the way does
not touch a value.

## Main results

* `exists_of_bind_eq_ok`, `exists_of_map_eq_ok` — the steps of a computation
  that gave a value.
* `mapError_eq_ok_iff` — nothing is made of a value where something is made of
  faults.
-/

namespace GrantKeeper

variable {ε ε' α β : Type} {x : Except ε α}

theorem exists_of_bind_eq_ok {f : α → Except ε β} {b : β}
    (h : (x >>= f) = .ok b) : ∃ a, x = .ok a ∧ f a = .ok b := by
  cases x with
  | error e => cases h
  | ok a => exact ⟨a, rfl, h⟩

theorem exists_of_map_eq_ok {f : α → β} {b : β} (h : x.map f = .ok b) :
    ∃ a, x = .ok a ∧ f a = b := by
  cases x with
  | error e => cases h
  | ok a => exact ⟨a, rfl, Except.ok.inj h⟩

/-- Whatever is made of a fault, a value is left as it is. -/
theorem mapError_eq_ok_iff {f : ε → ε'} {a : α} :
    x.mapError f = .ok a ↔ x = .ok a := by
  cases x with
  | error e => exact iff_of_false nofun nofun
  | ok b =>
      exact ⟨fun h => congrArg Except.ok (Except.ok.inj h),
        fun h => congrArg Except.ok (Except.ok.inj h)⟩

theorem Checked.within_eq_ok_iff {step : Step} {x : Checked α} {a : α} :
    x.within step = .ok a ↔ x = .ok a :=
  mapError_eq_ok_iff

namespace Outcome

theorem ofShape_eq_ok_iff {x : Except Malformed α} {a : α} :
    ofShape x = .ok a ↔ x = .ok a :=
  mapError_eq_ok_iff

/-- What is reported of a model is what was found wrong with it. -/
theorem ofModel_report_eq_ok_iff {x : Checked α} {model : String} {a : α} :
    ofModel (x.report model) = .ok a ↔ x = .ok a :=
  mapError_eq_ok_iff.trans mapError_eq_ok_iff

end Outcome

end GrantKeeper
