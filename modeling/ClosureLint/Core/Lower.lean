import ClosureLint.Core.Number

/-!
# Lowering

* `Lowering` — the file that spans name, and how many macro invocations surround the place.
* `lowerExpr`, `lowerFunction` — the core tree. A macro invocation becomes its expansion, and
  every span inside is marked; a receiver becomes a parameter named `self` without a written type.
* `lowerFunctions` — several functions with bodies, numbered one after the other.
-/

namespace ClosureLint.Core

/-- Where lowering takes place. -/
structure Lowering where
  file : Option String := none
  macroDepth : Nat := 0
deriving Repr, Inhabited

/-- The node, not yet numbered, of a piece of source. -/
def Lowering.node (c : Lowering) (l : Loc) : Node :=
  let span := (Span.ofLoc l).withFile c.file
  { span := if c.macroDepth = 0 then span else span.inMacro }

/-- The inside of a macro invocation. -/
def Lowering.inside (c : Lowering) : Lowering := { c with macroDepth := c.macroDepth + 1 }

mutual

/-- A closure pattern. -/
def lowerPattern (c : Lowering) : Syntax.Pattern → Pattern
  | .binding l isMut name => .binding (c.node l) isMut name
  | .tuple l elems => .tuple (c.node l) (lowerPatterns c elems)
  | .ref l inner => .ref (c.node l) (lowerPattern c inner)
  | .wildcard l => .wildcard (c.node l)

/-- Closure patterns. -/
def lowerPatterns (c : Lowering) : List Syntax.Pattern → List Pattern
  | [] => []
  | p :: ps => lowerPattern c p :: lowerPatterns c ps

end

/-- A closure parameter. -/
def lowerClosureParam (c : Lowering) (p : Syntax.ClosureParam) : Param :=
  ⟨c.node p.loc, lowerPattern c p.pattern, p.declared⟩

mutual

/-- An expression. -/
def lowerExpr (c : Lowering) : Syntax.Expr → Expr
  | .path l segments => .path (c.node l) segments
  | .int l value => .int (c.node l) value
  | .str l value => .str (c.node l) value
  | .borrow l isMut operand => .borrow (c.node l) isMut (lowerExpr c operand)
  | .deref l operand => .deref (c.node l) (lowerExpr c operand)
  | .field l subject name => .field (c.node l) (lowerExpr c subject) name
  | .call l callee args => .call (c.node l) (lowerExpr c callee) (lowerExprs c args)
  | .methodCall l receiver method args =>
    .methodCall (c.node l) (lowerExpr c receiver) method (lowerExprs c args)
  | .closure l params ret body =>
    .closure (c.node l) (params.map (lowerClosureParam c)) ret (lowerExpr c body)
  | .macroCall _ _ expansion => lowerExpr c.inside expansion

/-- Expressions. -/
def lowerExprs (c : Lowering) : List Syntax.Expr → List Expr
  | [] => []
  | e :: es => lowerExpr c e :: lowerExprs c es

end

/-- A statement. -/
def lowerStmt (c : Lowering) : Syntax.Stmt → Stmt
  | .letStmt l isMut name declared value =>
    .letStmt (c.node l) (.binding (c.node l) isMut name) declared (lowerExpr c value)
  | .exprStmt l expr => .exprStmt (c.node l) (lowerExpr c expr)

/-- A parameter that binds `name`. -/
def lowerParam (c : Lowering) (l : Loc) (name : String) (declared : Option Syntax.TypeExpr) :
    Param :=
  ⟨c.node l, .binding (c.node l) false name, declared⟩

/-- The parameters of a function, its receiver first. -/
def lowerParams (c : Lowering) (f : Syntax.FunctionDef) : List Param :=
  (f.receiver.map fun r => lowerParam c r.loc "self" none).toList
    ++ f.params.map fun p => lowerParam c p.loc p.name (some p.type)

/-- A function whose body is `body`, not yet numbered. -/
def lowerFunction (c : Lowering) (f : Syntax.FunctionDef) (body : List Syntax.Stmt) : Function where
  node := c.node f.loc
  name := f.path.text
  params := lowerParams c f
  body := { stmts := body.map (lowerStmt c) }
  ret := f.ret
  isUnsafe := f.isUnsafe

/-- A function that is only declared cannot be lowered. -/
structure NoBody where
  path : Syntax.Path
deriving DecidableEq, Repr, Inhabited

/-- The wording for a function that is only declared. -/
def NoBody.message (e : NoBody) : String :=
  "function '" ++ e.path.text ++ "' has no body to lower"

/-- Each of `fs` that has a body, lowered and numbered from `next` on; the numbers of one function
follow those of the one before. -/
def lowerFunctions (file : Option String) (next : NodeId) :
    (fs : List Syntax.FunctionDef) → List (Except NoBody Function)
  | [] => []
  | f :: fs =>
    match f.body with
    | none => .error ⟨f.path⟩ :: lowerFunctions file next fs
    | some body =>
      let (function, after) := (lowerFunction { file := file } f body).number next
      .ok function :: lowerFunctions file after fs

/-- Every function of a program that may have a body: trait methods, impl methods, functions. -/
def allFunctions (p : Syntax.Program) : List Syntax.FunctionDef :=
  p.traits.flatMap (·.methods) ++ p.impls.flatMap (·.methods) ++ p.functions

end ClosureLint.Core
