import ClosureLint.Ty.Text

/-!
# Dereferencing

A reference derefs to what it points to, and a struct to its declared target. Following that rule
from a type gives the chain of types on which a method is looked for.

* `DerefTable` — the declared targets.
* `Ty.deref?` — one step.
* `Ty.derefChain` — all steps, which end at the first repeated type and after `maxDerefs` of them.
-/

namespace ClosureLint

/-- The declared deref targets of structs, latest first. -/
abbrev DerefTable := List (String × Ty)

/-- Chains stop after this many steps. -/
def maxDerefs : Nat := 16

namespace Ty

/-- What `t` dereferences to, if it does. -/
def deref? (targets : DerefTable) (t : Ty) : Except Fault (Option Ty) :=
  match t.kind with
  | .ref => do return some (← firstPart t.params)
  | .nominal => return targets.lookup t.name
  | _ => return none

/-- The chain behind `seen`, whose last type is `cur`: at most `fuel` more steps, none of them to a
type already seen. -/
def derefFrom (targets : DerefTable) : Nat → List Ty → Ty → Except Fault (List Ty)
  | 0, seen, _ => return seen
  | fuel + 1, seen, cur => do
    match ← deref? targets cur with
    | none => return seen
    | some next =>
      if next ∈ seen then return seen else derefFrom targets fuel (seen ++ [next]) next

/-- The types that `t` derefs to, `t` itself first. -/
def derefChain (targets : DerefTable) (t : Ty) : Except Fault (List Ty) :=
  derefFrom targets maxDerefs [t] t

end Ty

end ClosureLint
