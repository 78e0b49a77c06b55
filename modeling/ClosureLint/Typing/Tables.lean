import ClosureLint.Core.Basic
import ClosureLint.Registry.Resolve
import ClosureLint.Source.Slice

/-!
# What checking found out

The checker files its results under the identities of nodes. Lints read them through a `Query`,
which also knows the source text.

* `Table` — results by node; the latest entry for a node counts.
* `Tables` — types, adjustments, and what method calls and paths mean.
* `Query` — the questions a lint may ask.
-/

namespace ClosureLint

open ClosureLint.Core (NodeId Expr)

/-- Results by node, latest first. -/
abbrev Table (α : Type) := List (NodeId × α)

/-- The results of checking. `adjusted` holds the expressions whose value is coerced where it is
used. -/
structure Tables where
  types : Table Ty := []
  adjusted : List NodeId := []
  methods : Table Resolution := []
  paths : Table Decl := []
deriving Repr, Inhabited

/-- The results of checking together with the source text, if there is one. -/
structure Query where
  tables : Tables
  source : Option String
deriving Repr, Inhabited

namespace Query

/-- The type of an expression, before any coercion. -/
def typeOf (q : Query) (e : Expr) : Ty := (q.tables.types.lookup e.id).getD .unknown

/-- Whether the value of an expression is coerced where it is used. -/
def isAdjusted (q : Query) (e : Expr) : Bool := q.tables.adjusted.contains e.id

/-- The method that a call means. -/
def method? (q : Query) (e : Expr) : Option Decl :=
  (q.tables.methods.lookup e.id).map Resolution.decl

/-- The declaration that a path means. -/
def path? (q : Query) (e : Expr) : Option Decl := q.tables.paths.lookup e.id

/-- The declared receiver type of the method that a call means, and whether the method is
unsafe. -/
def signature? (q : Query) (e : Expr) : Except Fault (Option (Ty × Bool)) :=
  match q.method? e with
  | none => return none
  | some d => do
    match ← d.selfType? with
    | none => return none
    | some t => return some (t, d.isUnsafe)

/-- The source text of an expression. -/
def text? (q : Query) (e : Expr) : Option String := e.span.textIn q.source

end Query

end ClosureLint
