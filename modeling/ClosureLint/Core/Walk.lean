import ClosureLint.Core.Basic

/-!
# Walking over expressions

* `Expr.walk` — an expression and all expressions inside it, outermost first, left to right.
* `Function.walk` — the expressions of a body. Those inside closures are among them.
-/

namespace ClosureLint.Core

mutual

/-- The expression, then those inside it. -/
def Expr.walk (e : Expr) : List Expr :=
  e :: match e with
    | .path .. | .int .. | .str .. => []
    | .borrow _ _ subject | .deref _ subject | .field _ subject _ => subject.walk
    | .call _ callee args => callee.walk ++ Expr.walkAll args
    | .methodCall _ receiver _ args => receiver.walk ++ Expr.walkAll args
    | .closure _ _ _ body => body.walk

/-- Several expressions, each followed by those inside it. -/
def Expr.walkAll : List Expr → List Expr
  | [] => []
  | e :: es => e.walk ++ Expr.walkAll es

end

/-- The one expression that a statement holds directly. -/
def Stmt.expr : Stmt → Expr
  | .letStmt _ _ _ value => value
  | .exprStmt _ e => e

/-- All expressions of a function's body, in the order in which they stand. -/
def Function.walk (f : Function) : List Expr :=
  f.body.stmts.flatMap fun s => s.expr.walk

end ClosureLint.Core
