import ClosureLint.Core.Lower
import ClosureLint.Core.Walk
import ClosureLint.Diagnostic
import ClosureLint.Proofs.Core.AlikeBodies

/-!
# Trees that stand elsewhere

A map `g` of extents carries a tree to another place of the text. Lowering, numbering and walking do
not look at places, so they can be done before or after.

* `TypeExpr.relocate`, `Expr.relocate`, `FunctionDef.relocate`, `Program.relocate` — trees as they are
  read, with their extents changed.
* `Core.Expr.relocate`, `Core.Function.relocate`, `Diagnostic.relocate` — core trees and diagnostics,
  with their spans changed.
* `lowerFunction_relocate`, `Function.number_relocate`, `Expr.walk_relocate` — lowering, numbering and
  walking a tree that stands elsewhere.
* `Function.relocate_id` — a tree that stays in its place.
-/

namespace ClosureLint

/-! ### Spans and diagnostics -/

/-- The same span with another extent. -/
def Span.relocate (g : Loc → Loc) (s : Span) : Span := { s with toLoc := g s.toLoc }

/-- The same suggestion elsewhere. -/
def Suggestion.relocate (g : Loc → Loc) (s : Suggestion) : Suggestion :=
  { s with span := s.span.relocate g }

/-- The same diagnostic elsewhere. -/
def Diagnostic.relocate (g : Loc → Loc) (d : Diagnostic) : Diagnostic :=
  { d with span := d.span.relocate g, suggestions := d.suggestions.map (Suggestion.relocate g) }

variable (g : Loc → Loc)

namespace Syntax

/-! ### Trees as they are read -/

mutual

/-- The same written type elsewhere. -/
def TypeExpr.relocate : TypeExpr → TypeExpr
  | .named l path args => .named (g l) path (TypeExpr.relocateAll args)
  | .ref l isMut inner => .ref (g l) isMut inner.relocate
  | .array l elem length => .array (g l) elem.relocate length
  | .slice l elem => .slice (g l) elem.relocate
  | .tuple l elems => .tuple (g l) (TypeExpr.relocateAll elems)
  | .fnPtr l isUnsafe params none => .fnPtr (g l) isUnsafe (TypeExpr.relocateAll params) none
  | .fnPtr l isUnsafe params (some ret) =>
    .fnPtr (g l) isUnsafe (TypeExpr.relocateAll params) (some ret.relocate)

/-- The same written types elsewhere. -/
def TypeExpr.relocateAll : List TypeExpr → List TypeExpr
  | [] => []
  | t :: ts => t.relocate :: TypeExpr.relocateAll ts

end

mutual

/-- The same pattern elsewhere. -/
def Pattern.relocate : Pattern → Pattern
  | .binding l isMut name => .binding (g l) isMut name
  | .tuple l elems => .tuple (g l) (Pattern.relocateAll elems)
  | .ref l inner => .ref (g l) inner.relocate
  | .wildcard l => .wildcard (g l)

/-- The same patterns elsewhere. -/
def Pattern.relocateAll : List Pattern → List Pattern
  | [] => []
  | p :: ps => p.relocate :: Pattern.relocateAll ps

end

/-- The same closure parameter elsewhere. -/
def ClosureParam.relocate (p : ClosureParam) : ClosureParam :=
  ⟨g p.loc, p.pattern.relocate g, p.declared.map (TypeExpr.relocate g)⟩

mutual

/-- The same expression elsewhere. -/
def Expr.relocate : Expr → Expr
  | .path l segments => .path (g l) segments
  | .int l value => .int (g l) value
  | .str l value => .str (g l) value
  | .borrow l isMut operand => .borrow (g l) isMut operand.relocate
  | .deref l operand => .deref (g l) operand.relocate
  | .field l subject name => .field (g l) subject.relocate name
  | .call l callee args => .call (g l) callee.relocate (Expr.relocateAll args)
  | .methodCall l receiver method args =>
    .methodCall (g l) receiver.relocate method (Expr.relocateAll args)
  | .closure l params ret body =>
    .closure (g l) (params.map (ClosureParam.relocate g)) (ret.map (TypeExpr.relocate g))
      body.relocate
  | .macroCall l name expansion => .macroCall (g l) name expansion.relocate

/-- The same expressions elsewhere. -/
def Expr.relocateAll : List Expr → List Expr
  | [] => []
  | e :: es => e.relocate :: Expr.relocateAll es

end

/-- The same statement elsewhere. -/
def Stmt.relocate : Stmt → Stmt
  | .letStmt l isMut name declared value =>
    .letStmt (g l) isMut name (declared.map (TypeExpr.relocate g)) (value.relocate g)
  | .exprStmt l e => .exprStmt (g l) (e.relocate g)

/-- The same parameter elsewhere. -/
def Param.relocate (p : Param) : Param := ⟨g p.loc, p.name, p.type.relocate g⟩

/-- The same form of a receiver elsewhere. -/
def ReceiverForm.relocate : ReceiverForm → ReceiverForm
  | .typed t => .typed (t.relocate g)
  | .value => .value
  | .ref => .ref
  | .refMut => .refMut
  | .unsupported form => .unsupported form

/-- The same receiver elsewhere. -/
def Receiver.relocate (r : Receiver) : Receiver := ⟨g r.loc, r.form.relocate g⟩

/-- The same function elsewhere. -/
def FunctionDef.relocate (f : FunctionDef) : FunctionDef where
  loc := g f.loc
  path := f.path
  isUnsafe := f.isUnsafe
  receiver := f.receiver.map (Receiver.relocate g)
  params := f.params.map (Param.relocate g)
  ret := f.ret.map (TypeExpr.relocate g)
  body := f.body.map fun stmts => stmts.map (Stmt.relocate g)

/-- The same struct elsewhere. -/
def StructDef.relocate (d : StructDef) : StructDef :=
  ⟨g d.loc, d.path, d.derefTarget.map (TypeExpr.relocate g)⟩

/-- The same trait elsewhere. -/
def TraitDef.relocate (d : TraitDef) : TraitDef :=
  ⟨g d.loc, d.path, d.methods.map (FunctionDef.relocate g)⟩

/-- The same impl elsewhere. -/
def ImplDef.relocate (d : ImplDef) : ImplDef :=
  ⟨g d.loc, d.target.relocate g, d.traitPath, d.methods.map (FunctionDef.relocate g)⟩

/-- The same item elsewhere. -/
def Item.relocate : Item → Item
  | .structDef d => .structDef (d.relocate g)
  | .traitDef d => .traitDef (d.relocate g)
  | .implDef d => .implDef (d.relocate g)
  | .function f => .function (f.relocate g)

/-- The same program elsewhere, with another text. -/
def Program.relocate (source : String) (p : Program) : Program where
  structs := p.structs.map (StructDef.relocate g)
  traits := p.traits.map (TraitDef.relocate g)
  impls := p.impls.map (ImplDef.relocate g)
  functions := p.functions.map (FunctionDef.relocate g)
  source := source

variable {g}

/-- A function type elsewhere has its parameters and its result elsewhere. -/
theorem TypeExpr.relocate_fnPtr (l : Loc) (isUnsafe : Bool) (params : List TypeExpr)
    (ret : Option TypeExpr) : (TypeExpr.fnPtr l isUnsafe params ret).relocate g
      = .fnPtr (g l) isUnsafe (TypeExpr.relocateAll g params) (ret.map (TypeExpr.relocate g)) := by
  cases ret <;> rfl

/-- There are no types elsewhere if there are none. -/
theorem TypeExpr.isEmpty_relocateAll (ts : List TypeExpr) :
    (TypeExpr.relocateAll g ts).isEmpty = ts.isEmpty := by
  cases ts <;> rfl

mutual

/-- A type that stays in its place. -/
theorem TypeExpr.relocate_id : (t : TypeExpr) → t.relocate (fun l => l) = t
  | .named l path args => congrArg (TypeExpr.named l path) (relocateAll_id args)
  | .ref l isMut inner => congrArg (TypeExpr.ref l isMut) (relocate_id inner)
  | .array l elem length => congrArg (TypeExpr.array l · length) (relocate_id elem)
  | .slice l elem => congrArg (TypeExpr.slice l) (relocate_id elem)
  | .tuple l elems => congrArg (TypeExpr.tuple l) (relocateAll_id elems)
  | .fnPtr l isUnsafe params none => congrArg (TypeExpr.fnPtr l isUnsafe · none) (relocateAll_id params)
  | .fnPtr l isUnsafe params (some ret) => by
    rw [relocate, relocateAll_id params, relocate_id ret]

/-- Types that stay in their places. -/
theorem TypeExpr.relocateAll_id : (ts : List TypeExpr) → TypeExpr.relocateAll (fun l => l) ts = ts
  | [] => rfl
  | t :: ts => by rw [relocateAll, relocate_id t, relocateAll_id ts]

end

/-- A type that stays in its place, if there is one. -/
theorem TypeExpr.map_relocate_id (t : Option TypeExpr) : t.map (TypeExpr.relocate fun l => l) = t := by
  cases t with
  | none => rfl
  | some t => exact congrArg some t.relocate_id

/-- A parameter that stays in its place. -/
theorem Param.relocate_id (p : Param) : p.relocate (fun l => l) = p := by
  rw [relocate, TypeExpr.relocate_id]

/-- A receiver that stays in its place. -/
theorem Receiver.relocate_id (r : Receiver) : r.relocate (fun l => l) = r := by
  obtain ⟨l, form⟩ := r
  cases form with
  | typed t => exact congrArg (fun t => Receiver.mk l (.typed t)) t.relocate_id
  | value | ref | refMut | unsupported => rfl

/-- The items of a program that stands elsewhere. -/
theorem Program.ofItems_relocate (source source' : String) (items : List Item) :
    Program.ofItems source' (items.map (Item.relocate g))
      = (Program.ofItems source items).relocate g source' := by
  -- items are picked by their form, which stays
  have hfilter {α : Type} {pick : Item → Option α} {move : α → α}
      (h : ∀ i, pick (i.relocate g) = (pick i).map move) :
      (items.map (Item.relocate g)).filterMap pick = (items.filterMap pick).map move := by
    rw [List.filterMap_map, List.map_filterMap]
    exact List.filterMap_congr fun i _ => h i
  unfold Program.ofItems Program.relocate
  congr 1
  · exact hfilter fun i => by cases i <;> rfl
  · exact hfilter fun i => by cases i <;> rfl
  · exact hfilter fun i => by cases i <;> rfl
  · exact hfilter fun i => by cases i <;> rfl

end Syntax

namespace Core

open ClosureLint.Syntax (TypeExpr)

/-! ### Core trees -/

/-- The same node elsewhere. -/
def Node.relocate (n : Node) : Node := { n with span := n.span.relocate g }

mutual

/-- The same pattern elsewhere. -/
def Pattern.relocate : Pattern → Pattern
  | .binding n isMut name => .binding (n.relocate g) isMut name
  | .tuple n elems => .tuple (n.relocate g) (Pattern.relocateAll elems)
  | .ref n inner => .ref (n.relocate g) inner.relocate
  | .wildcard n => .wildcard (n.relocate g)

/-- The same patterns elsewhere. -/
def Pattern.relocateAll : List Pattern → List Pattern
  | [] => []
  | p :: ps => p.relocate :: Pattern.relocateAll ps

end

/-- The same parameter elsewhere. -/
def Param.relocate (p : Param) : Param :=
  ⟨p.node.relocate g, p.pattern.relocate g, p.declared.map (TypeExpr.relocate g)⟩

mutual

/-- The same expression elsewhere. -/
def Expr.relocate : Expr → Expr
  | .path n segments => .path (n.relocate g) segments
  | .int n value => .int (n.relocate g) value
  | .str n value => .str (n.relocate g) value
  | .borrow n isMut subject => .borrow (n.relocate g) isMut subject.relocate
  | .deref n subject => .deref (n.relocate g) subject.relocate
  | .field n subject name => .field (n.relocate g) subject.relocate name
  | .call n callee args => .call (n.relocate g) callee.relocate (Expr.relocateAll args)
  | .methodCall n receiver method args =>
    .methodCall (n.relocate g) receiver.relocate method (Expr.relocateAll args)
  | .closure n params ret body =>
    .closure (n.relocate g) (params.map (Param.relocate g)) (ret.map (TypeExpr.relocate g))
      body.relocate

/-- The same expressions elsewhere. -/
def Expr.relocateAll : List Expr → List Expr
  | [] => []
  | e :: es => e.relocate :: Expr.relocateAll es

end

/-- The same statement elsewhere. -/
def Stmt.relocate : Stmt → Stmt
  | .letStmt n pattern declared value =>
    .letStmt (n.relocate g) (pattern.relocate g) (declared.map (TypeExpr.relocate g))
      (value.relocate g)
  | .exprStmt n e => .exprStmt (n.relocate g) (e.relocate g)

/-- The same function elsewhere. -/
def Function.relocate (f : Function) : Function where
  node := f.node.relocate g
  name := f.name
  params := f.params.map (Param.relocate g)
  body := ⟨f.body.id, f.body.stmts.map (Stmt.relocate g)⟩
  ret := f.ret.map (TypeExpr.relocate g)
  isUnsafe := f.isUnsafe

variable {g}

/-- Expressions elsewhere, one by one. -/
theorem Expr.relocateAll_eq_map (es : List Expr) :
    Expr.relocateAll g es = es.map (Expr.relocate g) := by
  induction es with
  | nil => rfl
  | cons e es ih => rw [relocateAll, ih, List.map_cons]

/-- There are as many patterns elsewhere. -/
theorem Pattern.length_relocateAll (ps : List Pattern) :
    (Pattern.relocateAll g ps).length = ps.length := by
  induction ps with
  | nil => rfl
  | cons p ps ih => rw [relocateAll, List.length_cons, List.length_cons, ih]

/-- The node of an expression that stands elsewhere. -/
theorem Expr.node_relocate (e : Expr) : (e.relocate g).node = e.node.relocate g := by
  cases e <;> rfl

/-- Its identity is the same. -/
theorem Expr.id_relocate (e : Expr) : (e.relocate g).id = e.id := by
  rw [Expr.id, node_relocate]
  rfl

/-- Its span stands elsewhere. -/
theorem Expr.span_relocate (e : Expr) : (e.relocate g).span = e.span.relocate g := by
  rw [Expr.span, node_relocate]
  rfl

/-! ### Lowering -/

section

variable (c : Lowering)

/-- A node that is made for another place stands there. -/
theorem Lowering.node_relocate (l : Loc) : c.node (g l) = (c.node l).relocate g := by
  unfold Lowering.node
  dsimp only
  split <;> rfl

mutual

/-- A pattern that stands elsewhere is lowered to one that does. -/
theorem lowerPattern_relocate : (p : Syntax.Pattern) →
    lowerPattern c (p.relocate g) = (lowerPattern c p).relocate g
  | .binding .. | .wildcard _ => by
    rw [Syntax.Pattern.relocate, lowerPattern, lowerPattern, Pattern.relocate, c.node_relocate]
  | .tuple _ elems => by
    rw [Syntax.Pattern.relocate, lowerPattern, lowerPattern, Pattern.relocate, c.node_relocate,
      lowerPatterns_relocate elems]
  | .ref _ inner => by
    rw [Syntax.Pattern.relocate, lowerPattern, lowerPattern, Pattern.relocate, c.node_relocate,
      lowerPattern_relocate inner]

/-- So are patterns. -/
theorem lowerPatterns_relocate : (ps : List Syntax.Pattern) →
    lowerPatterns c (Syntax.Pattern.relocateAll g ps) = Pattern.relocateAll g (lowerPatterns c ps)
  | [] => rfl
  | p :: ps => by
    rw [Syntax.Pattern.relocateAll, lowerPatterns, lowerPatterns, Pattern.relocateAll,
      lowerPattern_relocate p, lowerPatterns_relocate ps]

end

/-- So is the parameter of a closure. -/
theorem lowerClosureParam_relocate (p : Syntax.ClosureParam) :
    lowerClosureParam c (p.relocate g) = (lowerClosureParam c p).relocate g := by
  rw [Syntax.ClosureParam.relocate, lowerClosureParam, lowerClosureParam, Param.relocate,
    c.node_relocate, lowerPattern_relocate]

end

mutual

/-- **An expression that stands elsewhere** is lowered to the same, which stands there too. -/
theorem lowerExpr_relocate : (c : Lowering) → (e : Syntax.Expr) →
    lowerExpr c (e.relocate g) = (lowerExpr c e).relocate g
  | c, .path .. | c, .int .. | c, .str .. => by
    rw [Syntax.Expr.relocate, lowerExpr, lowerExpr, Expr.relocate, c.node_relocate]
  | c, .borrow _ _ operand | c, .deref _ operand | c, .field _ operand _ => by
    rw [Syntax.Expr.relocate, lowerExpr, lowerExpr, Expr.relocate, c.node_relocate,
      lowerExpr_relocate c operand]
  | c, .call _ callee args | c, .methodCall _ callee _ args => by
    rw [Syntax.Expr.relocate, lowerExpr, lowerExpr, Expr.relocate, c.node_relocate,
      lowerExpr_relocate c callee, lowerExprs_relocate c args]
  | c, .closure _ params _ body => by
    rw [Syntax.Expr.relocate, lowerExpr, lowerExpr, Expr.relocate, c.node_relocate,
      lowerExpr_relocate c body, List.map_map, List.map_map]
    congr 1
    exact List.map_congr_left fun p _ => lowerClosureParam_relocate c p
  -- a macro call leaves its expansion, marked by where it stands
  | c, .macroCall _ _ expansion => by
    rw [Syntax.Expr.relocate, lowerExpr, lowerExpr, lowerExpr_relocate c.inside expansion]

/-- So are expressions. -/
theorem lowerExprs_relocate : (c : Lowering) → (es : List Syntax.Expr) →
    lowerExprs c (Syntax.Expr.relocateAll g es) = Expr.relocateAll g (lowerExprs c es)
  | _, [] => rfl
  | c, e :: es => by
    rw [Syntax.Expr.relocateAll, lowerExprs, lowerExprs, Expr.relocateAll, lowerExpr_relocate c e,
      lowerExprs_relocate c es]

end

section

variable (c : Lowering)

/-- So is a statement. -/
theorem lowerStmt_relocate (s : Syntax.Stmt) :
    lowerStmt c (s.relocate g) = (lowerStmt c s).relocate g := by
  cases s with
  | letStmt =>
    rw [Syntax.Stmt.relocate, lowerStmt, lowerStmt, Stmt.relocate, Pattern.relocate, c.node_relocate,
      lowerExpr_relocate]
  | exprStmt =>
    rw [Syntax.Stmt.relocate, lowerStmt, lowerStmt, Stmt.relocate, c.node_relocate,
      lowerExpr_relocate]

/-- So is a parameter. -/
theorem lowerParam_relocate (l : Loc) (name : String) (declared : Option TypeExpr) :
    lowerParam c (g l) name (declared.map (TypeExpr.relocate g))
      = (lowerParam c l name declared).relocate g := by
  rw [lowerParam, lowerParam, Param.relocate, Pattern.relocate, c.node_relocate]

/-- So are the parameters of a function, with the receiver among them. -/
theorem lowerParams_relocate (f : Syntax.FunctionDef) :
    lowerParams c (f.relocate g) = (lowerParams c f).map (Param.relocate g) := by
  -- the receiver is the first parameter
  have hreceiver : ((f.relocate g).receiver.map fun r => lowerParam c r.loc "self" none).toList
      = ((f.receiver.map fun r => lowerParam c r.loc "self" none).toList).map (Param.relocate g) := by
    cases hr : f.receiver with
    | none => simp only [Syntax.FunctionDef.relocate, hr]; rfl
    | some r =>
      simp only [Syntax.FunctionDef.relocate, hr]
      exact congrArg ([·]) (lowerParam_relocate c r.loc "self" none)
  have hparams : ((f.relocate g).params.map fun p => lowerParam c p.loc p.name (some p.type))
      = (f.params.map fun p => lowerParam c p.loc p.name (some p.type)).map (Param.relocate g) := by
    rw [Syntax.FunctionDef.relocate, List.map_map, List.map_map]
    exact List.map_congr_left fun p _ => lowerParam_relocate c p.loc p.name (some p.type)
  rw [lowerParams, lowerParams, List.map_append, hreceiver, hparams]

/-- **A function that stands elsewhere** is lowered to the same, which stands there too. -/
theorem lowerFunction_relocate (f : Syntax.FunctionDef) (body : List Syntax.Stmt) :
    lowerFunction c (f.relocate g) (body.map (Syntax.Stmt.relocate g))
      = (lowerFunction c f body).relocate g := by
  have hbody : (body.map (Syntax.Stmt.relocate g)).map (lowerStmt c)
      = (body.map (lowerStmt c)).map (Stmt.relocate g) := by
    rw [List.map_map, List.map_map]
    exact List.map_congr_left fun s _ => lowerStmt_relocate c s
  rw [lowerFunction, lowerFunction, Function.relocate, lowerParams_relocate, hbody]
  show Function.mk (c.node (g f.loc)) _ _ _ _ _ = _
  rw [c.node_relocate]
  rfl

end

/-! ### Numbering -/

mutual

/-- A pattern that stands elsewhere gets the same numbers. -/
theorem Pattern.number_relocate : (p : Pattern) → (next : NodeId) →
    (p.relocate g).number next = ((p.number next).1.relocate g, (p.number next).2)
  | .binding .., _ | .wildcard _, _ => rfl
  | .tuple _ elems, next => by
    rw [relocate, number, number, numberAll_relocate elems]
    rfl
  | .ref _ inner, next => by
    rw [relocate, number, number, number_relocate inner]
    rfl

/-- So do patterns. -/
theorem Pattern.numberAll_relocate : (ps : List Pattern) → (next : NodeId) →
    Pattern.numberAll next (Pattern.relocateAll g ps)
      = (Pattern.relocateAll g (Pattern.numberAll next ps).1, (Pattern.numberAll next ps).2)
  | [], _ => rfl
  | p :: ps, next => by
    rw [relocateAll, numberAll, number_relocate p]
    dsimp only
    rw [numberAll_relocate ps]
    rfl

end

/-- So do parameters. -/
theorem Param.numberAll_relocate (ps : List Param) (next : NodeId) :
    Param.numberAll next (ps.map (Param.relocate g))
      = ((Param.numberAll next ps).1.map (Param.relocate g), (Param.numberAll next ps).2) := by
  induction ps generalizing next with
  | nil => rfl
  | cons p ps ih =>
    have hone : (p.relocate g).number next = ((p.number next).1.relocate g, (p.number next).2) := by
      simp only [Param.number, Param.relocate, Pattern.number_relocate]
      rfl
    rw [List.map_cons, numberAll, hone]
    dsimp only
    rw [ih]
    rfl

mutual

/-- **An expression that stands elsewhere** gets the same numbers. -/
theorem Expr.number_relocate : (e : Expr) → (next : NodeId) →
    (e.relocate g).number next = ((e.number next).1.relocate g, (e.number next).2)
  | .path .., _ | .int .., _ | .str .., _ => rfl
  | .borrow _ _ subject, next | .deref _ subject, next | .field _ subject _, next => by
    rw [relocate, number, number, number_relocate subject]
    rfl
  | .call _ callee args, next | .methodCall _ callee _ args, next => by
    rw [relocate, number, number, number_relocate callee]
    dsimp only
    rw [numberAll_relocate args]
    rfl
  | .closure _ params _ body, next => by
    rw [relocate, number, number, Param.numberAll_relocate params]
    dsimp only
    rw [number_relocate body]
    rfl

/-- So do expressions. -/
theorem Expr.numberAll_relocate : (es : List Expr) → (next : NodeId) →
    Expr.numberAll next (Expr.relocateAll g es)
      = (Expr.relocateAll g (Expr.numberAll next es).1, (Expr.numberAll next es).2)
  | [], _ => rfl
  | e :: es, next => by
    rw [relocateAll, numberAll, number_relocate e]
    dsimp only
    rw [numberAll_relocate es]
    rfl

end

/-- So does a statement. -/
theorem Stmt.number_relocate (s : Stmt) (next : NodeId) :
    (s.relocate g).number next = ((s.number next).1.relocate g, (s.number next).2) := by
  cases s with
  | letStmt node pattern declared value =>
    rw [relocate, number, number, Pattern.number_relocate]
    dsimp only
    rw [Expr.number_relocate]
    rfl
  | exprStmt node e =>
    rw [relocate, number, number, Expr.number_relocate]
    rfl

/-- So do statements. -/
theorem Stmt.numberAll_relocate (ss : List Stmt) (next : NodeId) :
    Stmt.numberAll next (ss.map (Stmt.relocate g))
      = ((Stmt.numberAll next ss).1.map (Stmt.relocate g), (Stmt.numberAll next ss).2) := by
  induction ss generalizing next with
  | nil => rfl
  | cons s ss ih =>
    rw [List.map_cons, numberAll, number_relocate]
    dsimp only
    rw [ih]
    rfl

/-- **A function that stands elsewhere** gets the same numbers. -/
theorem Function.number_relocate (f : Function) (next : NodeId) :
    (f.relocate g).number next = ((f.number next).1.relocate g, (f.number next).2) := by
  simp only [number, relocate, Param.numberAll_relocate, Stmt.numberAll_relocate]
  rfl

/-- So do functions. -/
theorem Function.numberAll_relocate (fs : List Function) (next : NodeId) :
    Function.numberAll next (fs.map (Function.relocate g))
      = (Function.numberAll next fs).map (Function.relocate g) := by
  induction fs generalizing next with
  | nil => rfl
  | cons f fs ih => rw [List.map_cons, numberAll, number_relocate, ih, numberAll, List.map_cons]

/-! ### Walking -/

mutual

/-- **The expressions inside of one that stands elsewhere** stand there too. -/
theorem Expr.walk_relocate : (e : Expr) → (e.relocate g).walk = e.walk.map (Expr.relocate g)
  | .path .. | .int .. | .str .. => rfl
  | .borrow _ _ subject | .deref _ subject | .field _ subject _ => by
    rw [walk, List.map_cons, ← walk_relocate subject]
    rfl
  | .call _ callee args | .methodCall _ callee _ args => by
    rw [walk, List.map_cons, List.map_append, ← walk_relocate callee, ← walkAll_relocate args]
    rfl
  | .closure _ _ _ body => by
    rw [walk, List.map_cons, ← walk_relocate body]
    rfl

/-- So is the walk of expressions. -/
theorem Expr.walkAll_relocate : (es : List Expr) →
    Expr.walkAll (Expr.relocateAll g es) = (Expr.walkAll es).map (Expr.relocate g)
  | [] => rfl
  | e :: es => by
    rw [relocateAll, walkAll, walkAll, List.map_append, walk_relocate e, walkAll_relocate es]

end

/-- So is the walk of a function. -/
theorem Function.walk_relocate (f : Function) :
    (f.relocate g).walk = f.walk.map (Expr.relocate g) := by
  have hone (s : Stmt) : (s.relocate g).expr = s.expr.relocate g := by cases s <;> rfl
  rw [walk, walk, List.map_flatMap, relocate, List.flatMap_map]
  exact List.flatMap_congr fun s _ => by rw [hone, Expr.walk_relocate]

/-! ### Trees that stay in their places -/

mutual

/-- A core pattern that stays in its place. -/
theorem Pattern.relocate_id : (p : Pattern) → p.relocate (fun l => l) = p
  | .binding .. | .wildcard _ => rfl
  | .tuple n elems => congrArg (Pattern.tuple n) (relocateAll_id elems)
  | .ref n inner => congrArg (Pattern.ref n) (relocate_id inner)

/-- Core patterns that stay in their places. -/
theorem Pattern.relocateAll_id : (ps : List Pattern) → Pattern.relocateAll (fun l => l) ps = ps
  | [] => rfl
  | p :: ps => by rw [relocateAll, relocate_id p, relocateAll_id ps]

end

/-- Core parameters that stay in their places. -/
theorem Param.map_relocate_id (ps : List Param) : ps.map (Param.relocate fun l => l) = ps := by
  have hone (p : Param) : p.relocate (fun l => l) = p := by
    rw [relocate, Pattern.relocate_id, TypeExpr.map_relocate_id]
    rfl
  rw [List.map_congr_left fun p _ => hone p, List.map_id']

mutual

/-- A core expression that stays in its place. -/
theorem Expr.relocate_id : (e : Expr) → e.relocate (fun l => l) = e
  | .path .. | .int .. | .str .. => rfl
  | .borrow n isMut subject => congrArg (Expr.borrow n isMut) (relocate_id subject)
  | .deref n subject => congrArg (Expr.deref n) (relocate_id subject)
  | .field n subject name => congrArg (Expr.field n · name) (relocate_id subject)
  | .call n callee args => congr (congrArg (Expr.call n) (relocate_id callee)) (relocateAll_id args)
  | .methodCall n receiver method args =>
    congr (congrArg (Expr.methodCall n · method) (relocate_id receiver)) (relocateAll_id args)
  | .closure n params ret body => by
    rw [relocate, Param.map_relocate_id, TypeExpr.map_relocate_id, relocate_id body]
    rfl

/-- Core expressions that stay in their places. -/
theorem Expr.relocateAll_id : (es : List Expr) → Expr.relocateAll (fun l => l) es = es
  | [] => rfl
  | e :: es => by rw [relocateAll, relocate_id e, relocateAll_id es]

end

/-- A function that stays in its place. -/
theorem Function.relocate_id (f : Function) : f.relocate (fun l => l) = f := by
  have hone (s : Stmt) : s.relocate (fun l => l) = s := by
    cases s with
    | letStmt =>
      rw [Stmt.relocate, Pattern.relocate_id, TypeExpr.map_relocate_id, Expr.relocate_id]
      rfl
    | exprStmt => rw [Stmt.relocate, Expr.relocate_id]; rfl
  rw [relocate, Param.map_relocate_id, TypeExpr.map_relocate_id,
    List.map_congr_left fun s _ => hone s, List.map_id']
  rfl

end Core

/-- A diagnostic that stays in its place. -/
theorem Diagnostic.relocate_id (d : Diagnostic) : d.relocate (fun l => l) = d := by
  have hone (s : Suggestion) : s.relocate (fun l => l) = s := rfl
  rw [relocate, List.map_congr_left fun s _ => hone s, List.map_id']
  rfl

end ClosureLint
