import ClosureLint.Syntax.Reading.Patterns

/-!
# Reading expressions and statements

From loose to tight: closures, the operators `&` and `*`, then calls, method calls and fields
behind an atom. A parenthesis behind `.name` always opens the arguments of a method call.

* `readExpr`, `readUnary`, `readAtom`, `readTail` — the levels of an expression.
* `readArgs` — arguments up to and with a closing parenthesis; a comma may stand behind the last.
* `readStmts` — statements up to and with a closing brace.
-/

namespace ClosureLint.Syntax

/-- A result type, if an arrow comes next. The position is where the token before it stopped. -/
def readRet (before : Pos) (ts : List Token) :
    Attempt (Read (ts.length + 1) (Option TypeExpr)) := do
  if nextIs .arrow ts then
    let arrow ← expect .arrow ts
    let type ← readType arrow.rest
    return (arrow.seq type (some type.value)).loosen
  else return .nothing before ts none

mutual

/-- An expression: a closure, or something tighter. -/
def readExpr : (ts : List Token) → Attempt (Read ts.length Expr)
  | [] => throw []
  | t :: ts =>
    if t.kind = .bar then do
      let params ← readClosureParams ts
      have := params.shorter
      let ret ← readRet params.stop params.rest
      have := ret.shorter
      let body ← readExpr ret.rest
      let expr := Expr.closure (.between t.start body.stop) params.value ret.value body.value
      return ((params.seqOpt ret ()).seq body ()).behind t expr
    else readUnary (t :: ts)
termination_by ts => 5 * ts.length + 3

/-- A borrow, a dereference, or something tighter. -/
def readUnary : (ts : List Token) → Attempt (Read ts.length Expr)
  | [] => throw []
  | t :: ts =>
    match t.kind with
    | .ampersand => do
      let mutable := dropIf .mutWord ts
      have := length_dropIf_le .mutWord ts
      let operand ← readUnary mutable.2
      let expr := Expr.borrow (.between t.start operand.stop) mutable.1 operand.value
      return (operand.behindOpt .mutWord ts).behind t expr
    | .star => do
      let operand ← readUnary ts
      return operand.behind t (.deref (.between t.start operand.stop) operand.value)
    | _ => do
      let atom ← readAtom (t :: ts)
      have : atom.rest.length < ts.length + 1 := atom.shorter
      let whole ← readTail t.start atom.value atom.stop atom.rest
      return atom.seqOpt whole whole.value
termination_by ts => 5 * ts.length + 2

/-- A path, `self`, a literal, a macro invocation, or an expression in parentheses. -/
def readAtom : (ts : List Token) → Attempt (Read ts.length Expr)
  | [] => throw []
  | t :: ts =>
    match t.kind with
    | .selfWord => return .token t ts (.path t.loc ["self"])
    | .int => do
      let value ← readInt (t :: ts)
      return value.giving (.int t.loc value.value)
    | .string => do
      let value ← readString (t :: ts)
      return value.giving (.str t.loc value.value)
    | .leftParen => do
      let inner ← readExpr ts
      let close ← expect .rightParen inner.rest
      return (inner.seq close ()).behind t inner.value
    | _ =>
      -- with a mark behind it, a name begins an invocation
      if t.kind = .name ∧ nextIs .bang ts then do
        let bang ← expect .bang ts
        let open_ ← expect .leftParen bang.rest
        have := bang.shorter
        have := open_.shorter
        let inner ← readExpr open_.rest
        let close ← expect .rightParen inner.rest
        let expr := Expr.macroCall (.between t.start close.stop) t.text inner.value
        return (((bang.seq open_ ()).seq inner ()).seq close ()).behind t expr
      else do
        let path ← readPath (t :: ts)
        return path.giving (.path (.between t.start path.stop) path.value)
termination_by ts => 5 * ts.length + 1

/-- What follows the expression `head`, which starts at `start` and stops at `stop`: calls, method
calls and fields, as many as there are. -/
def readTail (start : Pos) (head : Expr) (stop : Pos) (ts : List Token) :
    Attempt (Read (ts.length + 1) Expr) := do
  if nextIs .leftParen ts then
    let open_ ← expect .leftParen ts
    have := open_.shorter
    let args ← readArgs open_.rest
    have := args.shorter
    let expr := Expr.call (.between start args.stop) head args.value
    let whole ← readTail start expr args.stop args.rest
    return ((open_.seq args ()).seqOpt whole whole.value).loosen
  else if nextIs .dot ts then
    let dot ← expect .dot ts
    have := dot.shorter
    let name ← expect .name dot.rest
    have := name.shorter
    -- a field that is called at once is a method call
    if nextIs .leftParen name.rest then
      let open_ ← expect .leftParen name.rest
      have := open_.shorter
      let args ← readArgs open_.rest
      have := args.shorter
      let expr := Expr.methodCall (.between start args.stop) head name.value.text args.value
      let whole ← readTail start expr args.stop args.rest
      let call := ((dot.seq name ()).seq open_ ()).seq args ()
      return (call.seqOpt whole whole.value).loosen
    else
      let expr := Expr.field (.between start name.stop) head name.value.text
      let whole ← readTail start expr name.stop name.rest
      return ((dot.seq name ()).seqOpt whole whole.value).loosen
  else return .nothing stop ts head
termination_by 5 * ts.length

/-- Arguments up to and with a closing parenthesis. -/
def readArgs (ts : List Token) : Attempt (Read ts.length (List Expr)) := do
  if nextIs .rightParen ts then
    let close ← expect .rightParen ts
    return close.giving []
  else
    let first ← readExpr ts
    have := first.shorter
    if nextIs .comma first.rest then
      let comma ← expect .comma first.rest
      have := comma.shorter
      -- the list may close behind the comma
      let others ← readArgs comma.rest
      return (first.seq comma ()).seq others (first.value :: others.value)
    else
      let close ← expect .rightParen first.rest
      return first.seq close [first.value]
termination_by 5 * ts.length + 4

end

/-! ### Statements -/

/-- A declared type, if a colon comes next. The position is where the token before it stopped. -/
def readDeclared (before : Pos) (ts : List Token) :
    Attempt (Read (ts.length + 1) (Option TypeExpr)) := do
  if nextIs .colon ts then
    let colon ← expect .colon ts
    let type ← readType colon.rest
    return (colon.seq type (some type.value)).loosen
  else return .nothing before ts none

/-- A `let`, behind that word, which starts at `start`. -/
def readLet (start : Pos) (ts : List Token) : Attempt (Read ts.length Stmt) := do
  let mutable := dropIf .mutWord ts
  let name ← expect .name mutable.2
  let declared ← readDeclared name.stop name.rest
  let equal ← expect .equal declared.rest
  let value ← readExpr equal.rest
  let close ← expect .semicolon value.rest
  let stmt :=
    Stmt.letStmt (.between start close.stop) mutable.1 name.value.text declared.value value.value
  let whole := (((name.seqOpt declared ()).seq equal ()).seq value ()).seq close stmt
  return whole.behindOpt .mutWord ts

/-- A statement. -/
def readStmt : (ts : List Token) → Attempt (Read ts.length Stmt)
  | [] => throw []
  | t :: ts =>
    if t.kind = .letWord then do
      let stmt ← readLet t.start ts
      return stmt.behind t stmt.value
    else do
      let expr ← readExpr (t :: ts)
      let close ← expect .semicolon expr.rest
      return expr.seq close (.exprStmt (.between t.start close.stop) expr.value)

/-- Statements up to and with a closing brace. -/
def readStmts (ts : List Token) : Attempt (Read ts.length (List Stmt)) := do
  if nextIs .rightBrace ts then
    let close ← expect .rightBrace ts
    return close.giving []
  else
    let first ← readStmt ts
    have := first.shorter
    let others ← readStmts first.rest
    return first.seq others (first.value :: others.value)
termination_by ts.length

end ClosureLint.Syntax
