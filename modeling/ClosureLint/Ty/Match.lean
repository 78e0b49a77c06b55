import ClosureLint.Ty.Text

/-!
# Structural matchers

Two questions about a pair of types, both weaker than equality. They decide whether a method may
be named by a path instead of being called on a receiver.

* `Ty.sameBorrowDepth` — do both types have equally many leading references?
* `Ty.sameShape` — do both have the same primitive, container or struct at every step down?
-/

namespace ClosureLint

/-- Primitive kinds that match themselves, whatever the width. Floats are not among them. -/
def Kind.isPlain : Kind → Bool
  | .bool | .char | .int | .uint | .str => true
  | _ => false

/-- Kinds that hold one inner type. -/
def Kind.isContainer : Kind → Bool
  | .ref | .array | .slice => true
  | _ => false

namespace Ty

mutual

/-- Whether two types have equally many leading references. -/
def sameBorrowDepth : Ty → Ty → Except Fault Bool
  | ⟨k, _, ps, _, _, _⟩, b =>
    if k = .ref ∧ b.kind = .ref then sameBorrowDepthFirst ps b.params
    else return !(k == .ref) && !(b.kind == .ref)

/-- The same question about the first of `as` and the first of `bs`. -/
def sameBorrowDepthFirst : List Ty → List Ty → Except Fault Bool
  | a :: _, b :: _ => sameBorrowDepth a b
  | _, _ => throw .missingPart

end

mutual

/-- Whether two types have the same shape. Array lengths, mutability and generic arguments do not
count, struct paths do; tuples, functions, floats and parameters never match. -/
def sameShape : Ty → Ty → Except Fault Bool
  | ⟨k, name, ps, _, _, _⟩, b =>
    if k ≠ b.kind then return false
    else if k.isPlain then return true
    else if k.isContainer then sameShapeFirst ps b.params
    else if k = .nominal then return name == b.name
    else return false

/-- The same question about the first of `as` and the first of `bs`. -/
def sameShapeFirst : List Ty → List Ty → Except Fault Bool
  | a :: _, b :: _ => sameShape a b
  | _, _ => throw .missingPart

end

end Ty

end ClosureLint
