import ClosureLint.Core.Lower
import ClosureLint.Proofs.Core.Walking

/-!
# Trees without places

Where a tree stands in its text, and how its nodes are numbered, does not matter to what it says.

* `Expr.bare`, `Function.bare` — a tree that has forgotten spans, identities and the places of
  written types.
* `Expr.bare_number`, `bare_lowerExpr` — the bare tree depends neither on the numbering nor on the
  file and the macros around it.
* `lowerFunctions_bare` — so it is with all functions of a program.
-/

namespace ClosureLint

open ClosureLint.Syntax (TypeExpr)

/-! ### Written types -/

mutual

/-- A written type that has forgotten where it stands. -/
def Syntax.TypeExpr.bare : TypeExpr → TypeExpr
  | .named _ path args => .named {} path (TypeExpr.bareAll args)
  | .ref _ isMut inner => .ref {} isMut inner.bare
  | .array _ elem length => .array {} elem.bare length
  | .slice _ elem => .slice {} elem.bare
  | .tuple _ elems => .tuple {} (TypeExpr.bareAll elems)
  | .fnPtr _ isUnsafe params none => .fnPtr {} isUnsafe (TypeExpr.bareAll params) none
  | .fnPtr _ isUnsafe params (some ret) =>
    .fnPtr {} isUnsafe (TypeExpr.bareAll params) (some ret.bare)

/-- Written types that have forgotten where they stand. -/
def Syntax.TypeExpr.bareAll : List TypeExpr → List TypeExpr
  | [] => []
  | t :: ts => t.bare :: TypeExpr.bareAll ts

end

/-- Function types are the same without places if their parts are. -/
theorem Syntax.TypeExpr.bare_fnPtr {l l' : Loc} {isUnsafe : Bool} {params params' : List TypeExpr}
    {ret ret' : Option TypeExpr} (hps : TypeExpr.bareAll params' = TypeExpr.bareAll params)
    (hr : ret'.map TypeExpr.bare = ret.map TypeExpr.bare) :
    (TypeExpr.fnPtr l' isUnsafe params' ret').bare = (TypeExpr.fnPtr l isUnsafe params ret).bare := by
  cases ret with
  | none =>
    obtain rfl := Option.map_eq_none_iff.mp hr
    rw [bare, bare, hps]
  | some t =>
    obtain ⟨t', rfl, ht⟩ := Option.map_eq_some_iff.mp hr
    rw [bare, bare, hps, ht]

namespace Core

/-! ### Trees -/

mutual

/-- A pattern without places and identities. -/
def Pattern.bare : Pattern → Pattern
  | .binding _ isMut name => .binding {} isMut name
  | .tuple _ elems => .tuple {} (Pattern.bareAll elems)
  | .ref _ inner => .ref {} inner.bare
  | .wildcard _ => .wildcard {}

/-- Patterns without places and identities. -/
def Pattern.bareAll : List Pattern → List Pattern
  | [] => []
  | p :: ps => p.bare :: Pattern.bareAll ps

end

/-- A parameter without places and identities. -/
def Param.bare (p : Param) : Param := ⟨{}, p.pattern.bare, p.declared.map TypeExpr.bare⟩

mutual

/-- An expression without places and identities. -/
def Expr.bare : Expr → Expr
  | .path _ segments => .path {} segments
  | .int _ value => .int {} value
  | .str _ value => .str {} value
  | .borrow _ isMut subject => .borrow {} isMut subject.bare
  | .deref _ subject => .deref {} subject.bare
  | .field _ subject name => .field {} subject.bare name
  | .call _ callee args => .call {} callee.bare (Expr.bareAll args)
  | .methodCall _ receiver method args => .methodCall {} receiver.bare method (Expr.bareAll args)
  | .closure _ params ret body =>
    .closure {} (params.map Param.bare) (ret.map TypeExpr.bare) body.bare

/-- Expressions without places and identities. -/
def Expr.bareAll : List Expr → List Expr
  | [] => []
  | e :: es => e.bare :: Expr.bareAll es

end

/-- A statement without places and identities. -/
def Stmt.bare : Stmt → Stmt
  | .letStmt _ pattern declared value =>
    .letStmt {} pattern.bare (declared.map TypeExpr.bare) value.bare
  | .exprStmt _ e => .exprStmt {} e.bare

/-- A function without places and identities. -/
def Function.bare (f : Function) : Function where
  node := {}
  name := f.name
  params := f.params.map Param.bare
  body := ⟨0, f.body.stmts.map Stmt.bare⟩
  ret := f.ret.map TypeExpr.bare
  isUnsafe := f.isUnsafe

/-! ### The numbering does not matter -/

mutual

/-- The identities of a pattern are forgotten. -/
theorem Pattern.bare_number : (p : Pattern) → (next : NodeId) → (p.number next).1.bare = p.bare
  | .binding .., _ | .wildcard _, _ => rfl
  | .tuple _ elems, next => congrArg (Pattern.tuple {}) (Pattern.bareAll_number elems (next + 1))
  | .ref _ inner, next => congrArg (Pattern.ref {}) (Pattern.bare_number inner (next + 1))

/-- So are those in a list of patterns, -/
theorem Pattern.bareAll_number : (ps : List Pattern) → (next : NodeId) →
    Pattern.bareAll (Pattern.numberAll next ps).1 = Pattern.bareAll ps
  | [], _ => rfl
  | p :: ps, next => by
    rw [numberAll, bareAll, bareAll, bare_number p, bareAll_number ps]

end

/-- and those of parameters. -/
theorem Param.bare_numberAll (ps : List Param) (next : NodeId) :
    (Param.numberAll next ps).1.map Param.bare = ps.map Param.bare := by
  induction ps generalizing next with
  | nil => rfl
  | cons p ps ih =>
    simp only [Param.numberAll, List.map_cons, ih, Param.number, Param.bare, Pattern.bare_number]

mutual

/-- **A bare expression has no numbers.** -/
theorem Expr.bare_number : (e : Expr) → (next : NodeId) → (e.number next).1.bare = e.bare
  | .path .., _ | .int .., _ | .str .., _ => rfl
  | .borrow _ _ subject, next | .deref _ subject, next | .field _ subject _, next => by
    rw [number, bare, bare, bare_number subject]
  | .call _ callee args, next | .methodCall _ callee _ args, next => by
    rw [number, bare, bare, bare_number callee, bareAll_number args]
  | .closure _ params _ body, next => by
    rw [number, bare, bare, Param.bare_numberAll params, bare_number body]

/-- The same for lists of expressions. -/
theorem Expr.bareAll_number : (es : List Expr) → (next : NodeId) →
    Expr.bareAll (Expr.numberAll next es).1 = Expr.bareAll es
  | [], _ => rfl
  | e :: es, next => by
    rw [numberAll, bareAll, bareAll, bare_number e, bareAll_number es]

end

/-- The identities in a statement are forgotten. -/
theorem Stmt.bare_number (s : Stmt) (next : NodeId) : (s.number next).1.bare = s.bare := by
  cases s with
  | letStmt node pattern declared value =>
    rw [number, bare, bare, Pattern.bare_number, Expr.bare_number]
  | exprStmt node e => rw [number, bare, bare, Expr.bare_number]

/-- So are those in a body, -/
theorem Stmt.bare_numberAll (ss : List Stmt) (next : NodeId) :
    (Stmt.numberAll next ss).1.map Stmt.bare = ss.map Stmt.bare := by
  induction ss generalizing next with
  | nil => rfl
  | cons s ss ih => rw [numberAll, List.map_cons, List.map_cons, ih, bare_number]

/-- and those of a function. -/
theorem Function.bare_number (f : Function) (next : NodeId) : (f.number next).1.bare = f.bare := by
  rw [number, bare, bare, Param.bare_numberAll, Stmt.bare_numberAll]

/-! ### File and macros do not matter -/

section

variable (c : Lowering)

mutual

/-- A pattern is lowered to the same in any file. -/
theorem bare_lowerPattern : (p : Syntax.Pattern) →
    (lowerPattern c p).bare = (lowerPattern {} p).bare
  | .binding .. | .wildcard _ => rfl
  | .tuple _ elems => congrArg (Pattern.tuple {}) (bare_lowerPatterns elems)
  | .ref _ inner => congrArg (Pattern.ref {}) (bare_lowerPattern inner)

/-- So are lists of patterns. -/
theorem bare_lowerPatterns : (ps : List Syntax.Pattern) →
    Pattern.bareAll (lowerPatterns c ps) = Pattern.bareAll (lowerPatterns {} ps)
  | [] => rfl
  | p :: ps => by
    rw [lowerPatterns, lowerPatterns, Pattern.bareAll, Pattern.bareAll, bare_lowerPattern p,
      bare_lowerPatterns ps]

end

/-- So are the parameters of a closure, whose types have no file. -/
theorem bare_lowerClosureParams (ps : List Syntax.ClosureParam) :
    (ps.map (lowerClosureParam c)).map Param.bare
      = (ps.map (lowerClosureParam {})).map Param.bare := by
  rw [List.map_map, List.map_map]
  refine List.map_congr_left fun p _ => ?_
  show Param.bare _ = Param.bare _
  rw [lowerClosureParam, lowerClosureParam, Param.bare, Param.bare, bare_lowerPattern c]

/-- What an expression of the source says, apart from places and macros. -/
def plainExpr (e : Syntax.Expr) : Expr := (lowerExpr {} e).bare

/-- What several expressions of the source say. -/
def plainExprs (es : List Syntax.Expr) : List Expr := Expr.bareAll (lowerExprs {} es)

end

mutual

/-- **A bare expression knows neither file nor macros.** -/
theorem bare_lowerExpr : (e : Syntax.Expr) → (c : Lowering) → (lowerExpr c e).bare = plainExpr e
  | .path .., _ | .int .., _ | .str .., _ => rfl
  | .borrow _ isMut operand, c => congrArg (Expr.borrow {} isMut) (bare_lowerExpr operand c)
  | .deref _ operand, c => congrArg (Expr.deref {}) (bare_lowerExpr operand c)
  | .field _ subject name, c => congrArg (Expr.field {} · name) (bare_lowerExpr subject c)
  | .call _ callee args, c | .methodCall _ callee _ args, c => by
    rw [lowerExpr, Expr.bare, bare_lowerExpr callee, bareAll_lowerExprs args]
    rfl
  | .closure _ params ret body, c => by
    rw [lowerExpr, Expr.bare, bare_lowerClosureParams, bare_lowerExpr body]
    rfl
  -- one more macro around the argument makes no difference either
  | .macroCall _ _ expansion, c =>
    (bare_lowerExpr expansion c.inside).trans
      (bare_lowerExpr expansion ({} : Lowering).inside).symm

/-- The same for lists of expressions. -/
theorem bareAll_lowerExprs : (es : List Syntax.Expr) → (c : Lowering) →
    Expr.bareAll (lowerExprs c es) = plainExprs es
  | [], _ => rfl
  | e :: es, c => by
    rw [lowerExprs, Expr.bareAll, bare_lowerExpr e, bareAll_lowerExprs es]
    rfl

end

/-- An invocation says what its expansion says. -/
theorem plainExpr_macroCall (l : Loc) (name : String) (e : Syntax.Expr) :
    plainExpr (.macroCall l name e) = plainExpr e := bare_lowerExpr e _

/-- What a statement of the source says. -/
def plainStmt (s : Syntax.Stmt) : Stmt := (lowerStmt {} s).bare

/-- A statement knows neither file nor macros. -/
theorem bare_lowerStmt (c : Lowering) (s : Syntax.Stmt) :
    (lowerStmt c s).bare = plainStmt s := by
  cases s with
  | letStmt l isMut name declared value =>
    rw [lowerStmt, Stmt.bare, bare_lowerExpr]
    rfl
  | exprStmt l e =>
    rw [lowerStmt, Stmt.bare, bare_lowerExpr]
    rfl

/-- The statements of a body. -/
theorem bare_lowerStmts (c : Lowering) (ss : List Syntax.Stmt) :
    (ss.map (lowerStmt c)).map Stmt.bare = ss.map plainStmt := by
  rw [List.map_map]
  exact List.map_congr_left fun s _ => bare_lowerStmt c s

/-- The parameters of a function, its receiver among them. -/
theorem bare_lowerParams (c : Lowering) (f : Syntax.FunctionDef) :
    (lowerParams c f).map Param.bare = (lowerParams {} f).map Param.bare := by
  rw [lowerParams, lowerParams, List.map_append, List.map_append, List.map_map, List.map_map]
  cases f.receiver <;> rfl

/-- What a function of the source says. One without a body says its name only. -/
def plainFunction (f : Syntax.FunctionDef) : Except NoBody Function :=
  match f.body with
  | none => .error ⟨f.path⟩
  | some body => .ok (lowerFunction {} f body).bare

/-- A function with its body. -/
theorem bare_lowerFunction (c : Lowering) (f : Syntax.FunctionDef) (body : List Syntax.Stmt) :
    (lowerFunction c f body).bare = (lowerFunction {} f body).bare := by
  rw [lowerFunction, lowerFunction, Function.bare, Function.bare, bare_lowerParams,
    bare_lowerStmts, bare_lowerStmts]

/-- **Bare functions** know neither the file nor the other functions in front of them. -/
theorem lowerFunctions_bare (file : Option String) (next : NodeId)
    (fs : List Syntax.FunctionDef) :
    (lowerFunctions file next fs).map (Except.map Function.bare) = fs.map plainFunction := by
  -- where the numbering goes on from differs from function to function
  induction fs generalizing next with
  | nil => rfl
  | cons f fs ih =>
    rw [lowerFunctions, List.map_cons, plainFunction]
    cases f.body with
    | none =>
      rw [List.map_cons, ih]
      rfl
    | some body =>
      rw [List.map_cons, ih, Except.map, Function.bare_number, bare_lowerFunction]

end Core

end ClosureLint
