import ClosureLint.Syntax.Basic

/-!
# The core tree

Checking and linting work on a smaller tree than reading gives: macro invocations are gone, their
expansions stand in their place and are marked as such, and a method's receiver is a parameter like
any other. Every node has an identity, under which the checker files what it finds out.

* `Node` — identity and span of a node.
* `Pattern`, `Param`, `Expr`, `Stmt`, `Block`, `Function` — the tree. Written types are carried
  along as they are.
-/

namespace ClosureLint.Core

open ClosureLint.Syntax (Path TypeExpr)

/-- The identity of a node. -/
abbrev NodeId := Int

/-- Identity and span of a node. -/
structure Node where
  id : NodeId := 0
  span : Span := {}
deriving DecidableEq, Repr, Inhabited

/-- A binding pattern. -/
inductive Pattern where
  | binding (node : Node) (isMut : Bool) (name : String)
  | tuple (node : Node) (elems : List Pattern)
  | ref (node : Node) (inner : Pattern)
  | wildcard (node : Node)
deriving Repr, Inhabited

/-- Identity and span of a pattern. -/
def Pattern.node : Pattern → Node
  | binding n .. | tuple n .. | ref n .. | wildcard n => n

/-- A parameter of a closure or function. -/
structure Param where
  node : Node
  pattern : Pattern
  declared : Option TypeExpr
deriving Repr, Inhabited

/-- An expression. -/
inductive Expr where
  | path (node : Node) (segments : Path)
  | int (node : Node) (value : Int)
  | str (node : Node) (value : List Nat)
  | borrow (node : Node) (isMut : Bool) (subject : Expr)
  | deref (node : Node) (subject : Expr)
  | field (node : Node) (subject : Expr) (name : String)
  | call (node : Node) (callee : Expr) (args : List Expr)
  | methodCall (node : Node) (receiver : Expr) (method : String) (args : List Expr)
  | closure (node : Node) (params : List Param) (ret : Option TypeExpr) (body : Expr)
deriving Repr, Inhabited

/-- Identity and span of an expression. -/
def Expr.node : Expr → Node
  | path n .. | int n .. | str n .. | borrow n .. | deref n .. | field n .. | call n ..
  | methodCall n .. | closure n .. => n

/-- Identity of an expression. -/
def Expr.id (e : Expr) : NodeId := e.node.id

/-- Span of an expression. -/
def Expr.span (e : Expr) : Span := e.node.span

/-- A statement. -/
inductive Stmt where
  | letStmt (node : Node) (pattern : Pattern) (declared : Option TypeExpr) (value : Expr)
  | exprStmt (node : Node) (expr : Expr)
deriving Repr, Inhabited

/-- The statements of a body. -/
structure Block where
  id : NodeId := 0
  stmts : List Stmt
deriving Repr, Inhabited

/-- A function with a body. -/
structure Function where
  node : Node
  name : String
  params : List Param
  body : Block
  ret : Option TypeExpr
  isUnsafe : Bool
deriving Repr, Inhabited

end ClosureLint.Core
