import ClosureLint.Core.Lower

/-!
# The paths in a tree

Names are used by writing paths: in types, in expressions, and in front of items. A method's name, a
field and a local that is bound are no paths.

* `TypeExpr.paths`, `Expr.paths`, `FunctionDef.paths`, `Program.paths` — the paths in trees as they are
  read.
* `Core.Expr.paths`, `Core.Stmt.paths` — the paths in core trees.
* `paths_lowerStmt`, `Stmt.paths_number` — lowering and numbering keep them.
-/

namespace ClosureLint

namespace Syntax

mutual

/-- The paths in a written type. -/
def TypeExpr.paths : TypeExpr → List Path
  | .named _ path args => path :: TypeExpr.pathsAll args
  | .ref _ _ inner => inner.paths
  | .array _ elem _ | .slice _ elem => elem.paths
  | .tuple _ elems => TypeExpr.pathsAll elems
  | .fnPtr _ _ params none => TypeExpr.pathsAll params
  | .fnPtr _ _ params (some ret) => TypeExpr.pathsAll params ++ ret.paths

/-- The paths in written types. -/
def TypeExpr.pathsAll : List TypeExpr → List Path
  | [] => []
  | t :: ts => t.paths ++ TypeExpr.pathsAll ts

end

/-- The paths in a type that may be left out. -/
def optionalPaths (t : Option TypeExpr) : List Path := t.toList.flatMap TypeExpr.paths

theorem optionalPaths_some (t : TypeExpr) : optionalPaths (some t) = t.paths := by
  rw [optionalPaths, Option.toList_some, List.flatMap_singleton]

mutual

/-- The paths in an expression. -/
def Expr.paths : Expr → List Path
  | .path _ segments => [segments]
  | .int .. | .str .. => []
  | .borrow _ _ e | .deref _ e | .field _ e _ | .macroCall _ _ e => e.paths
  | .call _ callee args => callee.paths ++ Expr.pathsAll args
  | .methodCall _ receiver _ args => receiver.paths ++ Expr.pathsAll args
  | .closure _ params ret body =>
    params.flatMap (fun p => optionalPaths p.declared) ++ (optionalPaths ret ++ body.paths)

/-- The paths in expressions. -/
def Expr.pathsAll : List Expr → List Path
  | [] => []
  | e :: es => e.paths ++ Expr.pathsAll es

end

/-- The paths in a statement. -/
def Stmt.paths : Stmt → List Path
  | .letStmt _ _ _ declared value => optionalPaths declared ++ value.paths
  | .exprStmt _ e => e.paths

/-- The type written for a receiver, if there is one. -/
def Receiver.declared (r : Receiver) : Option TypeExpr :=
  match r.form with
  | .typed t => some t
  | _ => none

/-- The types written in the head of a function: for its receiver, its parameters and its result. -/
def FunctionDef.writtenTypes (f : FunctionDef) : List TypeExpr :=
  (f.receiver.bind Receiver.declared).toList ++ (f.params.map (·.type) ++ f.ret.toList)

/-- The paths in the types and in the body of a function. -/
def FunctionDef.paths (f : FunctionDef) : List Path :=
  f.writtenTypes.flatMap TypeExpr.paths ++ (f.body.getD []).flatMap Stmt.paths

/-- The paths in a struct. -/
def StructDef.paths (d : StructDef) : List Path := d.path :: optionalPaths d.derefTarget

/-- The paths in a trait. -/
def TraitDef.paths (d : TraitDef) : List Path := d.path :: d.methods.flatMap FunctionDef.paths

/-- The paths in an impl. -/
def ImplDef.paths (d : ImplDef) : List Path :=
  d.target.paths ++ (d.traitPath.toList ++ d.methods.flatMap FunctionDef.paths)

/-- The paths in a program. -/
def Program.paths (p : Program) : List Path :=
  p.structs.flatMap StructDef.paths ++ (p.traits.flatMap TraitDef.paths ++
    (p.impls.flatMap ImplDef.paths ++ p.functions.flatMap fun f => f.path :: f.paths))

end Syntax

namespace Core

open ClosureLint.Syntax (Path optionalPaths)

/-! ### Core trees -/

/-- The paths in the types of parameters. -/
def paramPaths (ps : List Param) : List Path := ps.flatMap fun p => optionalPaths p.declared

theorem paramPaths_cons (p : Param) (ps : List Param) :
    paramPaths (p :: ps) = optionalPaths p.declared ++ paramPaths ps := List.flatMap_cons ..

mutual

/-- The paths in an expression. -/
def Expr.paths : Expr → List Path
  | .path _ segments => [segments]
  | .int .. | .str .. => []
  | .borrow _ _ e | .deref _ e | .field _ e _ => e.paths
  | .call _ callee args => callee.paths ++ Expr.pathsAll args
  | .methodCall _ receiver _ args => receiver.paths ++ Expr.pathsAll args
  | .closure _ params ret body => paramPaths params ++ (optionalPaths ret ++ body.paths)

/-- The paths in expressions. -/
def Expr.pathsAll : List Expr → List Path
  | [] => []
  | e :: es => e.paths ++ Expr.pathsAll es

end

/-- The paths in a statement. -/
def Stmt.paths : Stmt → List Path
  | .letStmt _ _ declared value => optionalPaths declared ++ value.paths
  | .exprStmt _ e => e.paths

/-! ### Lowering -/

variable {c : Lowering}

mutual

theorem paths_lowerExpr : (c : Lowering) → (e : Syntax.Expr) → (lowerExpr c e).paths = e.paths
  | _, .path .. | _, .int .. | _, .str .. => rfl
  | c, .borrow _ _ e | c, .deref _ e | c, .field _ e _ => paths_lowerExpr c e
  | c, .macroCall _ _ e => paths_lowerExpr c.inside e
  | c, .call _ callee args | c, .methodCall _ callee _ args => by
    rw [lowerExpr, Expr.paths, paths_lowerExpr c callee, pathsAll_lowerExprs c args,
      Syntax.Expr.paths]
  | c, .closure _ params ret body => by
    rw [lowerExpr, Expr.paths, paths_lowerExpr c body, Syntax.Expr.paths, paramPaths, List.flatMap_map]
    rfl

theorem pathsAll_lowerExprs : (c : Lowering) → (es : List Syntax.Expr) →
    Expr.pathsAll (lowerExprs c es) = Syntax.Expr.pathsAll es
  | _, [] => rfl
  | c, e :: es => by
    rw [lowerExprs, Expr.pathsAll, paths_lowerExpr c e, pathsAll_lowerExprs c es,
      Syntax.Expr.pathsAll]

end

theorem paths_lowerStmt (s : Syntax.Stmt) : (lowerStmt c s).paths = s.paths := by
  cases s with
  | letStmt => rw [lowerStmt, Stmt.paths, paths_lowerExpr, Syntax.Stmt.paths]
  | exprStmt => exact paths_lowerExpr c _

/-! ### Numbering -/

theorem paramPaths_number (ps : List Param) (a : NodeId) :
    paramPaths (Param.numberAll a ps).1 = paramPaths ps := by
  induction ps generalizing a with
  | nil => rfl
  | cons p ps ih =>
    rw [Param.numberAll, paramPaths_cons, paramPaths_cons, ih]
    rfl

mutual

theorem Expr.paths_number : (e : Expr) → (a : NodeId) → (e.number a).1.paths = e.paths
  | .path .., _ | .int .., _ | .str .., _ => rfl
  | .borrow _ _ e, a | .deref _ e, a | .field _ e _, a => e.paths_number (a + 1)
  | .call _ callee args, a | .methodCall _ callee _ args, a => by
    rw [Expr.number, Expr.paths, callee.paths_number, Expr.pathsAll_numberAll args, Expr.paths]
  | .closure _ params ret body, a => by
    rw [Expr.number, Expr.paths, paramPaths_number, body.paths_number, Expr.paths]

theorem Expr.pathsAll_numberAll : (es : List Expr) → (a : NodeId) →
    Expr.pathsAll (Expr.numberAll a es).1 = Expr.pathsAll es
  | [], _ => rfl
  | e :: es, a => by
    rw [Expr.numberAll, Expr.pathsAll, e.paths_number, Expr.pathsAll_numberAll es, Expr.pathsAll]

end

theorem Stmt.paths_number (s : Stmt) (a : NodeId) : (s.number a).1.paths = s.paths := by
  cases s with
  | letStmt => rw [Stmt.number, Stmt.paths, Expr.paths_number, Stmt.paths]
  | exprStmt => exact Expr.paths_number _ _

theorem Stmt.paths_numberAll (ss : List Stmt) (a : NodeId) :
    (Stmt.numberAll a ss).1.flatMap Stmt.paths = ss.flatMap Stmt.paths := by
  induction ss generalizing a with
  | nil => rfl
  | cons s ss ih =>
    rw [Stmt.numberAll, List.flatMap_cons, ih, s.paths_number, List.flatMap_cons]

/-- **The paths in a body** that is lowered and numbered are those that it was written with. -/
theorem paths_lowerFunction (f : Syntax.FunctionDef) (stmts : List Syntax.Stmt) (a : NodeId) :
    ((lowerFunction c f stmts).number a).1.body.stmts.flatMap Stmt.paths
      = stmts.flatMap Syntax.Stmt.paths := by
  rw [Function.number]
  dsimp only
  rw [Stmt.paths_numberAll]
  simp only [lowerFunction, List.flatMap_map, paths_lowerStmt]

end Core

end ClosureLint
