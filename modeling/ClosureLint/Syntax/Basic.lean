import ClosureLint.Source.Position

/-!
# Syntax trees

The trees that reading a source text gives. Every node knows its extent. Parentheses leave no node:
what they enclose keeps the extent it has without them.

* `TypeExpr`, `Pattern`, `Expr`, `Stmt` — written types, closure patterns, expressions, statements.
* `FunctionDef`, `StructDef`, `TraitDef`, `ImplDef` — items.
* `Program` — all items of a source text, by sort, and the text itself.
-/

namespace ClosureLint.Syntax

/-- The segments of a path such as `std::vec::Vec`. -/
abbrev Path := List String

/-- A path with its segments joined. -/
def Path.text (p : Path) : String := "::".intercalate p

/-- The last segment of a path. -/
def Path.last (p : Path) : String := p.getLastD ""

/-- A written type. -/
inductive TypeExpr where
  | named (loc : Loc) (path : Path) (args : List TypeExpr)
  | ref (loc : Loc) (isMut : Bool) (inner : TypeExpr)
  | array (loc : Loc) (elem : TypeExpr) (length : Int)
  | slice (loc : Loc) (elem : TypeExpr)
  | tuple (loc : Loc) (elems : List TypeExpr)
  | fnPtr (loc : Loc) (isUnsafe : Bool) (params : List TypeExpr) (ret : Option TypeExpr)
deriving Repr, Inhabited

/-- The extent of a written type. -/
def TypeExpr.loc : TypeExpr → Loc
  | named l .. | ref l .. | array l .. | slice l .. | tuple l .. | fnPtr l .. => l

/-- The pattern of a closure parameter. -/
inductive Pattern where
  | binding (loc : Loc) (isMut : Bool) (name : String)
  | tuple (loc : Loc) (elems : List Pattern)
  | ref (loc : Loc) (inner : Pattern)
  | wildcard (loc : Loc)
deriving Repr, Inhabited

/-- The extent of a pattern. -/
def Pattern.loc : Pattern → Loc
  | binding l .. | tuple l .. | ref l .. | wildcard l => l

/-- A closure parameter with the type it declares. -/
structure ClosureParam where
  loc : Loc
  pattern : Pattern
  declared : Option TypeExpr
deriving Repr, Inhabited

/-- An expression. A string's value is a list of code points, because escapes can denote code
points that are no characters. `macroCall` is an invocation `name!(expansion)`. -/
inductive Expr where
  | path (loc : Loc) (segments : Path)
  | int (loc : Loc) (value : Int)
  | str (loc : Loc) (value : List Nat)
  | borrow (loc : Loc) (isMut : Bool) (operand : Expr)
  | deref (loc : Loc) (operand : Expr)
  | field (loc : Loc) (subject : Expr) (name : String)
  | call (loc : Loc) (callee : Expr) (args : List Expr)
  | methodCall (loc : Loc) (receiver : Expr) (method : String) (args : List Expr)
  | closure (loc : Loc) (params : List ClosureParam) (ret : Option TypeExpr) (body : Expr)
  | macroCall (loc : Loc) (name : String) (expansion : Expr)
deriving Repr, Inhabited

/-- The extent of an expression. -/
def Expr.loc : Expr → Loc
  | path l .. | int l .. | str l .. | borrow l .. | deref l .. | field l .. | call l ..
  | methodCall l .. | closure l .. | macroCall l .. => l

/-- A statement. -/
inductive Stmt where
  | letStmt (loc : Loc) (isMut : Bool) (name : String) (declared : Option TypeExpr) (value : Expr)
  | exprStmt (loc : Loc) (expr : Expr)
deriving Repr, Inhabited

/-- A named parameter of a function. -/
structure Param where
  loc : Loc
  name : String
  type : TypeExpr
deriving Repr, Inhabited

/-- How a method takes its receiver: `self`, `&self`, `&mut self` or `self: T`. Trees that were
not read from a text can hold other forms, which no method may have. -/
inductive ReceiverForm where
  | value
  | ref
  | refMut
  | typed (type : TypeExpr)
  | unsupported (form : String)
deriving Repr, Inhabited

/-- The receiver of a method. -/
structure Receiver where
  loc : Loc
  form : ReceiverForm
deriving Repr, Inhabited

/-- A function, or a method of a trait or impl. Without a body it is only declared. -/
structure FunctionDef where
  loc : Loc
  path : Path
  isUnsafe : Bool
  receiver : Option Receiver
  params : List Param
  ret : Option TypeExpr
  body : Option (List Stmt)
deriving Repr, Inhabited

/-- The last segment of a function's path. -/
def FunctionDef.name (f : FunctionDef) : String := f.path.last

/-- `struct P;` or `struct P -> T;`, which declares that `P` dereferences to `T`. -/
structure StructDef where
  loc : Loc
  path : Path
  derefTarget : Option TypeExpr
deriving Repr, Inhabited

/-- A trait with its methods. -/
structure TraitDef where
  loc : Loc
  path : Path
  methods : List FunctionDef
deriving Repr, Inhabited

/-- `impl T { … }`, or `impl P for T { … }` when `traitPath` is set. -/
structure ImplDef where
  loc : Loc
  target : TypeExpr
  traitPath : Option Path
  methods : List FunctionDef
deriving Repr, Inhabited

/-- An item at the top of a source text. -/
inductive Item where
  | structDef (d : StructDef)
  | traitDef (d : TraitDef)
  | implDef (d : ImplDef)
  | function (d : FunctionDef)
deriving Repr, Inhabited

/-- A source text as read: its items of each sort in order, and the text. -/
structure Program where
  structs : List StructDef := []
  traits : List TraitDef := []
  impls : List ImplDef := []
  functions : List FunctionDef := []
  source : String := ""
deriving Repr, Inhabited

/-- The program with the given items. -/
def Program.ofItems (source : String) (items : List Item) : Program where
  structs := items.filterMap fun | .structDef d => some d | _ => none
  traits := items.filterMap fun | .traitDef d => some d | _ => none
  impls := items.filterMap fun | .implDef d => some d | _ => none
  functions := items.filterMap fun | .function d => some d | _ => none
  source := source

end ClosureLint.Syntax
