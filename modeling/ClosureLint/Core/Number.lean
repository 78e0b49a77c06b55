import ClosureLint.Core.Basic

/-!
# Numbering nodes

Every node of a tree gets an identity: consecutive numbers, a node before its parts, its parts from
left to right. Numbering takes the next free number and returns the one after the last it gave.

* `Function.number` — a function with all its nodes numbered.
-/

namespace ClosureLint.Core

/-- The same node under another identity. -/
def Node.withId (n : Node) (id : NodeId) : Node := { n with id := id }

mutual

/-- A pattern numbered from `next` on. -/
def Pattern.number (next : NodeId) : Pattern → Pattern × NodeId
  | .binding node isMut name => (.binding (node.withId next) isMut name, next + 1)
  | .tuple node elems =>
    let (elems, after) := Pattern.numberAll (next + 1) elems
    (.tuple (node.withId next) elems, after)
  | .ref node inner =>
    let (inner, after) := inner.number (next + 1)
    (.ref (node.withId next) inner, after)
  | .wildcard node => (.wildcard (node.withId next), next + 1)

/-- Patterns numbered from `next` on. -/
def Pattern.numberAll (next : NodeId) : List Pattern → List Pattern × NodeId
  | [] => ([], next)
  | p :: ps =>
    let (p, between) := p.number next
    let (ps, after) := Pattern.numberAll between ps
    (p :: ps, after)

end

/-- A parameter numbered from `next` on. -/
def Param.number (next : NodeId) (p : Param) : Param × NodeId :=
  let (pattern, after) := p.pattern.number (next + 1)
  ({ p with node := p.node.withId next, pattern := pattern }, after)

/-- Parameters numbered from `next` on. -/
def Param.numberAll (next : NodeId) : List Param → List Param × NodeId
  | [] => ([], next)
  | p :: ps =>
    let (p, between) := p.number next
    let (ps, after) := Param.numberAll between ps
    (p :: ps, after)

mutual

/-- An expression numbered from `next` on. -/
def Expr.number (next : NodeId) : Expr → Expr × NodeId
  | .path node segments => (.path (node.withId next) segments, next + 1)
  | .int node value => (.int (node.withId next) value, next + 1)
  | .str node value => (.str (node.withId next) value, next + 1)
  | .borrow node isMut subject =>
    let (subject, after) := subject.number (next + 1)
    (.borrow (node.withId next) isMut subject, after)
  | .deref node subject =>
    let (subject, after) := subject.number (next + 1)
    (.deref (node.withId next) subject, after)
  | .field node subject name =>
    let (subject, after) := subject.number (next + 1)
    (.field (node.withId next) subject name, after)
  | .call node callee args =>
    let (callee, between) := callee.number (next + 1)
    let (args, after) := Expr.numberAll between args
    (.call (node.withId next) callee args, after)
  | .methodCall node receiver method args =>
    let (receiver, between) := receiver.number (next + 1)
    let (args, after) := Expr.numberAll between args
    (.methodCall (node.withId next) receiver method args, after)
  | .closure node params ret body =>
    let (params, between) := Param.numberAll (next + 1) params
    let (body, after) := body.number between
    (.closure (node.withId next) params ret body, after)

/-- Expressions numbered from `next` on. -/
def Expr.numberAll (next : NodeId) : List Expr → List Expr × NodeId
  | [] => ([], next)
  | e :: es =>
    let (e, between) := e.number next
    let (es, after) := Expr.numberAll between es
    (e :: es, after)

end

/-- A statement numbered from `next` on. -/
def Stmt.number (next : NodeId) : Stmt → Stmt × NodeId
  | .letStmt node pattern declared value =>
    let (pattern, between) := pattern.number (next + 1)
    let (value, after) := value.number between
    (.letStmt (node.withId next) pattern declared value, after)
  | .exprStmt node expr =>
    let (expr, after) := expr.number (next + 1)
    (.exprStmt (node.withId next) expr, after)

/-- Statements numbered from `next` on. -/
def Stmt.numberAll (next : NodeId) : List Stmt → List Stmt × NodeId
  | [] => ([], next)
  | s :: ss =>
    let (s, between) := s.number next
    let (ss, after) := Stmt.numberAll between ss
    (s :: ss, after)

/-- A function numbered from `next` on: itself, its parameters, its body. -/
def Function.number (next : NodeId) (f : Function) : Function × NodeId :=
  let (params, between) := Param.numberAll (next + 1) f.params
  let (stmts, after) := Stmt.numberAll (between + 1) f.body.stmts
  ({ f with node := f.node.withId next, params := params, body := ⟨between, stmts⟩ }, after)

end ClosureLint.Core
