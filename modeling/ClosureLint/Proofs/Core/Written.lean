import ClosureLint.Proofs.Core.Paths
import ClosureLint.Core.Walk

/-!
# The types in a tree

Types are written in the heads of functions, at the parameters and the results of closures, and at
`let`s. Those in a body are found again when it is lowered and numbered: at the closures of its
walk, and at its statements.

* `TypeExpr.within` — a written type and those that it is built from.
* `Expr.annotations`, `Stmt.annotations`, `FunctionDef.annotations` — the types in trees as they are
  read.
* `Core.Expr.ownTypes`, `Core.Stmt.declared` — the types that a core node is written with itself.
* `annotations_lowerFunction` — lowering and numbering keep them.
-/

namespace ClosureLint

namespace Syntax

mutual

/-- A written type and all written types that it is built from. -/
def TypeExpr.within : TypeExpr → List TypeExpr
  | .named l path args => .named l path args :: TypeExpr.withinAll args
  | .ref l isMut inner => .ref l isMut inner :: inner.within
  | .array l elem length => .array l elem length :: elem.within
  | .slice l elem => .slice l elem :: elem.within
  | .tuple l elems => .tuple l elems :: TypeExpr.withinAll elems
  | .fnPtr l isUnsafe params none => .fnPtr l isUnsafe params none :: TypeExpr.withinAll params
  | .fnPtr l isUnsafe params (some ret) =>
    .fnPtr l isUnsafe params (some ret) :: (TypeExpr.withinAll params ++ ret.within)

/-- The same for several written types. -/
def TypeExpr.withinAll : List TypeExpr → List TypeExpr
  | [] => []
  | t :: ts => t.within ++ TypeExpr.withinAll ts

end

theorem TypeExpr.mem_within_self (t : TypeExpr) : t ∈ t.within := by
  cases t with
  | named | ref | array | slice | tuple => exact List.mem_cons_self
  | fnPtr _ _ _ ret => cases ret <;> exact List.mem_cons_self

mutual

/-- The types that are written at the closures in an expression. -/
def Expr.annotations : Expr → List TypeExpr
  | .path .. | .int .. | .str .. => []
  | .borrow _ _ e | .deref _ e | .field _ e _ | .macroCall _ _ e => e.annotations
  | .call _ callee args => callee.annotations ++ Expr.annotationsAll args
  | .methodCall _ receiver _ args => receiver.annotations ++ Expr.annotationsAll args
  | .closure _ params ret body =>
    params.filterMap ClosureParam.declared ++ ret.toList ++ body.annotations

/-- The same for several expressions. -/
def Expr.annotationsAll : List Expr → List TypeExpr
  | [] => []
  | e :: es => e.annotations ++ Expr.annotationsAll es

end

/-- The types that are written in a statement. -/
def Stmt.annotations : Stmt → List TypeExpr
  | .letStmt _ _ _ declared value => declared.toList ++ value.annotations
  | .exprStmt _ e => e.annotations

/-- The types that are written in the body of a function. -/
def FunctionDef.annotations (f : FunctionDef) : List TypeExpr :=
  (f.body.getD []).flatMap Stmt.annotations

end Syntax

namespace Core

open ClosureLint.Syntax (TypeExpr)

/-- The types that an expression is written with, those inside it apart. -/
def Expr.ownTypes : Expr → List TypeExpr
  | .closure _ params ret _ => params.filterMap Param.declared ++ ret.toList
  | .path .. | .int .. | .str .. | .borrow .. | .deref .. | .field .. | .call .. | .methodCall .. =>
    []

/-- The type that a statement is written with, if there is one. -/
def Stmt.declared : Stmt → Option TypeExpr
  | .letStmt _ _ declared _ => declared
  | .exprStmt .. => none

/-- The types in a statement: its own, and those of the expressions in it. -/
def Stmt.annotations (st : Stmt) : List TypeExpr :=
  st.declared.toList ++ st.expr.walk.flatMap Expr.ownTypes

theorem declared_numberAll (ps : List Param) (a : NodeId) :
    (Param.numberAll a ps).1.filterMap Param.declared = ps.filterMap Param.declared := by
  induction ps generalizing a with
  | nil => rfl
  | cons p ps ih =>
    rw [Param.numberAll, List.filterMap_cons, List.filterMap_cons, ih]
    rfl

mutual

theorem annotations_lowerExpr : (c : Lowering) → (e : Syntax.Expr) → (a : NodeId) →
    ((lowerExpr c e).number a).1.walk.flatMap Expr.ownTypes = e.annotations
  | _, .path .., _ | _, .int .., _ | _, .str .., _ => rfl
  | c, .borrow _ _ e, a | c, .deref _ e, a | c, .field _ e _, a => annotations_lowerExpr c e (a + 1)
  | c, .macroCall _ _ e, a => annotations_lowerExpr c.inside e a
  | c, .call _ callee args, a | c, .methodCall _ callee _ args, a => by
    rw [lowerExpr, Expr.number, Expr.walk, List.flatMap_cons, List.flatMap_append,
      annotations_lowerExpr c callee, annotationsAll_lowerExprs c args, Expr.ownTypes,
      Syntax.Expr.annotations, List.nil_append]
  | c, .closure _ params ret body, a => by
    rw [lowerExpr, Expr.number, Expr.walk, List.flatMap_cons, annotations_lowerExpr c body,
      Expr.ownTypes, declared_numberAll, List.filterMap_map, Syntax.Expr.annotations]
    rfl

theorem annotationsAll_lowerExprs : (c : Lowering) → (es : List Syntax.Expr) → (a : NodeId) →
    (Expr.walkAll (Expr.numberAll a (lowerExprs c es)).1).flatMap Expr.ownTypes
      = Syntax.Expr.annotationsAll es
  | _, [], _ => rfl
  | c, e :: es, a => by
    rw [lowerExprs, Expr.numberAll, Expr.walkAll, List.flatMap_append, annotations_lowerExpr c e,
      annotationsAll_lowerExprs c es, Syntax.Expr.annotationsAll]

end

variable {c : Lowering}

theorem annotations_lowerStmt (s : Syntax.Stmt) (a : NodeId) :
    ((lowerStmt c s).number a).1.annotations = s.annotations := by
  cases s with
  | letStmt _ _ _ declared value =>
    exact congrArg (declared.toList ++ ·) (annotations_lowerExpr c value _)
  | exprStmt _ e => exact annotations_lowerExpr c e _

/-- **The types in a body** that is lowered and numbered are those that it was written with. -/
theorem annotations_lowerFunction (f : Syntax.FunctionDef) (stmts : List Syntax.Stmt) (a : NodeId) :
    ((lowerFunction c f stmts).number a).1.body.stmts.flatMap Stmt.annotations
      = stmts.flatMap Syntax.Stmt.annotations := by
  have hstmts (b : NodeId) : (Stmt.numberAll b (stmts.map (lowerStmt c))).1.flatMap Stmt.annotations
      = stmts.flatMap Syntax.Stmt.annotations := by
    induction stmts generalizing b with
    | nil => rfl
    | cons s ss ih =>
      rw [List.map_cons, Stmt.numberAll, List.flatMap_cons, annotations_lowerStmt, ih,
        List.flatMap_cons]
  exact hstmts _

end Core

end ClosureLint
