import ClosureLint.Ty.Basic

/-!
# Replacing `Self`

Inside a trait, `Self` is a type parameter. A use of the trait's item replaces it by the type the
item is used at.

* `Ty.substSelf` — the type with every `Self` replaced.
-/

namespace ClosureLint

namespace Ty

mutual

/-- The type with `Self` replaced by `s`, at every depth. -/
def substSelf : (t s : Ty) → Ty
  | ⟨k, name, ps, isMut, length, isUnsafe⟩, s =>
    if k = .param ∧ name = "Self" then s
    else ⟨k, name, substSelfAll ps s, isMut, length, isUnsafe⟩

/-- Several types with `Self` replaced by `s`. -/
def substSelfAll : (ts : List Ty) → (s : Ty) → List Ty
  | [], _ => []
  | t :: ts, s => substSelf t s :: substSelfAll ts s

end

theorem substSelfAll_eq_map (ts : List Ty) (s : Ty) :
    substSelfAll ts s = ts.map fun t => t.substSelf s := by
  induction ts with
  | nil => rfl
  | cons t ts ih => rw [substSelfAll, ih, List.map_cons]

end Ty

end ClosureLint
