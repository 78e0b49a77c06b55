import ClosureLint.Core.Number
import ClosureLint.Core.Walk

/-!
# All nodes of a core tree

A tree has nodes of several sorts, and not only expressions have an identity. Here they are listed
without looking at their sort: a node, then what lies below each of its children.

* `TreePart`, `TreePart.children` — the nodes of core trees, and what is right below one.
* `TreePart.preorder`, `Function.parts` — a node and all nodes below it, in the order in which they
  are written.
* `Counted` — identities that count up by one along a list of nodes.
* `Function.counted_number` — numbering gives such identities to all nodes of a function.
* `Function.walk_eq_parts` — the walk comes past the expressions among them, once past each.
-/

namespace ClosureLint.Core

/-- A node of a core tree. -/
inductive TreePart where
  | function (f : Function)
  | param (p : Param)
  | pattern (p : Pattern)
  | block (b : Block)
  | stmt (s : Stmt)
  | expr (e : Expr)

namespace TreePart

/-- Identity of a node. -/
def id : TreePart → NodeId
  | function f => f.node.id
  | param p => p.node.id
  | pattern p => p.node.id
  | block b => b.id
  | stmt (.letStmt n ..) | stmt (.exprStmt n _) => n.id
  | expr e => e.id

/-- Span of a node. The statements of a body have one each, the body as a whole has none. -/
def span? : TreePart → Option Span
  | function f => some f.node.span
  | param p => some p.node.span
  | pattern p => some p.node.span
  | block _ => none
  | stmt (.letStmt n ..) | stmt (.exprStmt n _) => some n.span
  | expr e => some e.span

/-- The node as an expression, if it is one. -/
def expr? : TreePart → Option Expr
  | expr e => some e
  | _ => none

/-- The nodes right below one, in the order in which they are written. -/
def children : TreePart → List TreePart
  | function f => f.params.map param ++ [block f.body]
  | param p => [pattern p.pattern]
  | pattern (.tuple _ elems) => elems.map pattern
  | pattern (.ref _ inner) => [pattern inner]
  | pattern (.binding ..) | pattern (.wildcard _) => []
  | block b => b.stmts.map stmt
  | stmt (.letStmt _ bound _ value) => [pattern bound, expr value]
  | stmt (.exprStmt _ e) => [expr e]
  | expr (.path ..) | expr (.int ..) | expr (.str ..) => []
  | expr (.borrow _ _ subject) | expr (.deref _ subject) | expr (.field _ subject _) => [expr subject]
  | expr (.call _ callee args) => expr callee :: args.map expr
  | expr (.methodCall _ receiver _ args) => expr receiver :: args.map expr
  | expr (.closure _ params _ body) => params.map param ++ [expr body]

/-- A node is no larger than the list it comes from, whatever sort of node it is made. -/
private theorem sizeOf_mapped {α : Type} [SizeOf α] {sort : α → TreePart}
    (hsort : ∀ a, sizeOf (sort a) = 1 + sizeOf a) {l : List α} {m : TreePart} (h : m ∈ l.map sort) :
    sizeOf m ≤ sizeOf l := by
  obtain ⟨a, ha, rfl⟩ := List.mem_map.mp h
  have hsmall := List.sizeOf_lt_of_mem ha
  rw [hsort]
  omega

/-- A child is smaller than the node that it is right below. -/
theorem sizeOf_child {m n : TreePart} (h : m ∈ n.children) : sizeOf m < sizeOf n := by
  have hparam {ps : List Param} : m ∈ ps.map param → sizeOf m ≤ sizeOf ps :=
    sizeOf_mapped param.sizeOf_spec
  have hpattern {ps : List Pattern} : m ∈ ps.map pattern → sizeOf m ≤ sizeOf ps :=
    sizeOf_mapped pattern.sizeOf_spec
  have hstmt {ss : List Stmt} : m ∈ ss.map stmt → sizeOf m ≤ sizeOf ss :=
    sizeOf_mapped stmt.sizeOf_spec
  have hexpr {es : List Expr} : m ∈ es.map expr → sizeOf m ≤ sizeOf es :=
    sizeOf_mapped expr.sizeOf_spec
  -- a child is a field of the node, or it is in a list that is one
  cases n with
  | function f => cases f; grind [children]
  | param p => cases p; grind [children]
  | pattern p => cases p <;> grind [children]
  | block b => cases b; grind [children]
  | stmt s => cases s <;> grind [children]
  | expr e => cases e <;> grind [children]

/-- A node and all nodes below it: the node itself, then what lies below its children, one behind the
other. -/
def preorder (n : TreePart) : List TreePart :=
  n :: n.children.attach.flatMap fun m => m.1.preorder
termination_by n
decreasing_by exact sizeOf_child m.2

/-- What lies below several nodes, themselves included. -/
def preorderAll (ns : List TreePart) : List TreePart := ns.flatMap preorder

/-- A node comes before what lies below it. -/
theorem preorder_eq (n : TreePart) : n.preorder = n :: preorderAll n.children := by
  have hvals : n.children.attach.flatMap (fun m => m.1.preorder) = preorderAll n.children := by
    rw [← List.flatMap_map Subtype.val preorder, List.attach_map_subtype_val]
    rfl
  rw [preorder, hvals]

/-- Nothing lies below no nodes, -/
@[simp] theorem preorderAll_nil : preorderAll [] = [] := rfl

/-- what lies below the first node comes before the rest, -/
@[simp] theorem preorderAll_cons (n : TreePart) (ns : List TreePart) :
    preorderAll (n :: ns) = n.preorder ++ preorderAll ns := List.flatMap_cons

/-- and below one list of nodes before the other. -/
@[simp] theorem preorderAll_append (ms ns : List TreePart) :
    preorderAll (ms ++ ns) = preorderAll ms ++ preorderAll ns := List.flatMap_append

end TreePart

/-- All nodes of a function, in the order in which they are written. -/
def Function.parts (f : Function) : List TreePart := (TreePart.function f).preorder

open TreePart

/-! ### The expressions among them -/

/-- The expressions among the nodes. -/
def exprsOf (ns : List TreePart) : List Expr := ns.filterMap expr?

/-- The expressions of one list of nodes come before those of the other. -/
@[simp] theorem exprsOf_append (ms ns : List TreePart) :
    exprsOf (ms ++ ns) = exprsOf ms ++ exprsOf ns := List.filterMap_append

mutual

/-- No expression stands in a pattern. -/
theorem exprsOf_pattern : (p : Pattern) → exprsOf (pattern p).preorder = []
  | .binding .. | .wildcard _ => by
    rw [preorder_eq]
    rfl
  | .ref _ inner => by
    rw [preorder_eq, children, preorderAll_cons, preorderAll_nil, List.append_nil]
    exact exprsOf_pattern inner
  | .tuple _ elems => by
    rw [preorder_eq]
    exact exprsOf_patterns elems

/-- Nor in a list of patterns, -/
theorem exprsOf_patterns : (ps : List Pattern) → exprsOf (preorderAll (ps.map pattern)) = []
  | [] => rfl
  | p :: ps => by
    rw [List.map_cons, preorderAll_cons, exprsOf_append, exprsOf_pattern p, exprsOf_patterns ps,
      List.append_nil]

end

/-- nor in the parameters of a function or a closure. -/
theorem exprsOf_params (ps : List Param) : exprsOf (preorderAll (ps.map param)) = [] := by
  induction ps with
  | nil => rfl
  | cons p ps ih =>
    have hone : exprsOf (param p).preorder = [] := by
      rw [preorder_eq, children, preorderAll_cons, preorderAll_nil, List.append_nil]
      exact exprsOf_pattern p.pattern
    rw [List.map_cons, preorderAll_cons, exprsOf_append, hone, ih, List.append_nil]

mutual

/-- **The walk from an expression** comes past the expressions among all nodes below it. -/
theorem exprsOf_expr : (e : Expr) → exprsOf (expr e).preorder = e.walk
  | .path .. | .int .. | .str .. => by
    rw [preorder_eq]
    rfl
  | .borrow _ _ subject | .deref _ subject | .field _ subject _ => by
    have hbelow := exprsOf_expr subject
    rw [preorder_eq, children, preorderAll_cons, preorderAll_nil, List.append_nil, Expr.walk]
    exact congrArg (_ :: ·) hbelow
  | .call _ callee args | .methodCall _ callee _ args => by
    have hbelow : exprsOf (preorderAll (expr callee :: args.map expr))
        = callee.walk ++ Expr.walkAll args := by
      rw [preorderAll_cons, exprsOf_append, exprsOf_expr callee, exprsOf_exprs args]
    rw [preorder_eq, children, Expr.walk]
    exact congrArg (_ :: ·) hbelow
  -- the walk passes the parameters by, but there is no expression in them
  | .closure _ params _ body => by
    have hbelow : exprsOf (preorderAll (params.map param ++ [expr body])) = body.walk := by
      rw [preorderAll_append, exprsOf_append, exprsOf_params, preorderAll_cons, preorderAll_nil,
        List.append_nil, List.nil_append, exprsOf_expr body]
    rw [preorder_eq, children, Expr.walk]
    exact congrArg (_ :: ·) hbelow

/-- The same for a list of expressions, one walk after the other. -/
theorem exprsOf_exprs (es : List Expr) :
    exprsOf (preorderAll (es.map expr)) = Expr.walkAll es := by
  cases es with
  | nil => rfl
  | cons e es =>
    rw [List.map_cons, preorderAll_cons, exprsOf_append, exprsOf_expr e, exprsOf_exprs es,
      Expr.walkAll]

end

/-- The walk from a statement starts at its expression: the pattern has none. -/
theorem exprsOf_stmt (s : Stmt) : exprsOf (stmt s).preorder = s.expr.walk := by
  cases s with
  | letStmt node bound declared value =>
    have hbelow : exprsOf (preorderAll [pattern bound, expr value]) = value.walk := by
      rw [preorderAll_cons, preorderAll_cons, preorderAll_nil, List.append_nil, exprsOf_append,
        exprsOf_pattern, List.nil_append, exprsOf_expr]
    rw [preorder_eq]
    exact hbelow
  | exprStmt node e =>
    rw [preorder_eq, children, preorderAll_cons, preorderAll_nil, List.append_nil]
    exact exprsOf_expr e

/-- The walk from statements, one after the other. -/
theorem exprsOf_stmts (ss : List Stmt) :
    exprsOf (preorderAll (ss.map stmt)) = ss.flatMap fun s => s.expr.walk := by
  induction ss with
  | nil => rfl
  | cons s ss ih =>
    rw [List.map_cons, preorderAll_cons, exprsOf_append, exprsOf_stmt, ih, List.flatMap_cons]

/-- **The walk over a function** comes past the expressions among its nodes, once past each, in the
order in which they are written. -/
theorem Function.walk_eq_parts (f : Function) : f.walk = exprsOf f.parts := by
  have hblock : exprsOf (block f.body).preorder = f.walk := by
    rw [preorder_eq]
    exact exprsOf_stmts f.body.stmts
  have hbelow : exprsOf (preorderAll (f.params.map param ++ [block f.body])) = f.walk := by
    rw [preorderAll_append, exprsOf_append, exprsOf_params, preorderAll_cons, preorderAll_nil,
      List.append_nil, List.nil_append, hblock]
  rw [parts, preorder_eq]
  exact hbelow.symm

/-! ### Identities that count up -/

/-- The identities of the nodes count up by one, from `first` up to before `after`. -/
inductive Counted : (first after : NodeId) → List TreePart → Prop
  | nil {a : NodeId} : Counted a a []
  | cons {a b : NodeId} {n : TreePart} {ns : List TreePart} :
    n.id = a → Counted (a + 1) b ns → Counted a b (n :: ns)

namespace Counted

variable {a b c : NodeId} {n : TreePart} {ms ns : List TreePart}

/-- Two lists, the second of which counts on from the first. -/
theorem append (h : Counted a b ms) (h' : Counted b c ns) : Counted a c (ms ++ ns) := by
  induction h with
  | nil => exact h'
  | cons hid _ ih => exact .cons hid (ih h')

/-- A node takes the next identity, and what lies below it those behind. -/
theorem of_children (hid : n.id = a) (h : Counted (a + 1) b (preorderAll n.children)) :
    Counted a b n.preorder := by
  rw [preorder_eq]
  exact .cons hid h

/-- There are as many identities as nodes. -/
theorem after_eq (h : Counted a b ns) : b = a + (ns.length : Int) := by
  induction h with
  | nil => exact (Int.add_zero _).symm
  | @cons a b n ns _ _ ih =>
    calc b = a + 1 + (ns.length : Int) := ih
      _ = a + ((ns.length : Int) + 1) := by rw [Int.add_assoc, Int.add_comm 1]
      _ = a + ((n :: ns).length : Int) := rfl

/-- **The identities** are consecutive, in the order of the nodes. -/
theorem ids_eq (h : Counted a b ns) :
    ns.map TreePart.id = (List.range ns.length).map fun i : Nat => a + (i : Int) := by
  induction h with
  | nil => rfl
  -- the first has the identity that counting starts from
  | @cons a b n ns hid _ ih =>
    -- the identities behind the first count from one more, by indices that are one less
    have hshift (i : Nat) : a + 1 + (i : Int) = a + ((i + 1 : Nat) : Int) := by
      rw [Int.add_assoc, Int.add_comm 1]
      rfl
    rw [List.map_cons, ih, hid, List.length_cons, List.range_succ_eq_map, List.map_cons,
      List.map_map]
    exact List.cons_eq_cons.mpr
      ⟨(Int.add_zero a).symm, List.map_congr_left fun i _ => hshift i⟩

end Counted

mutual

/-- A pattern with all its nodes numbered from `next` on. -/
theorem Pattern.counted_number : (p : Pattern) → (next : NodeId) →
    Counted next (p.number next).2 (pattern (p.number next).1).preorder
  | .binding .., _ | .wildcard _, _ => .of_children rfl .nil
  | .ref _ inner, next => by
    have hinner := inner.counted_number (next + 1)
    refine .of_children rfl ?_
    rw [Pattern.number, children, preorderAll_cons, preorderAll_nil, List.append_nil]
    exact hinner
  | .tuple _ elems, next => .of_children rfl (Pattern.counted_numberAll elems (next + 1))

/-- Patterns, one after the other. -/
theorem Pattern.counted_numberAll : (ps : List Pattern) → (next : NodeId) →
    Counted next (Pattern.numberAll next ps).2
      (preorderAll ((Pattern.numberAll next ps).1.map pattern))
  | [], _ => .nil
  | p :: ps, next => by
    rw [Pattern.numberAll, List.map_cons, preorderAll_cons]
    exact (p.counted_number next).append (Pattern.counted_numberAll ps _)

end

/-- A parameter: its own identity comes before that of its pattern. -/
theorem Param.counted_number (p : Param) (next : NodeId) :
    Counted next (p.number next).2 (param (p.number next).1).preorder := by
  have hpattern := p.pattern.counted_number (next + 1)
  refine .of_children rfl ?_
  rw [Param.number, children, preorderAll_cons, preorderAll_nil, List.append_nil]
  exact hpattern

/-- Parameters, one after the other. -/
theorem Param.counted_numberAll (ps : List Param) (next : NodeId) :
    Counted next (Param.numberAll next ps).2
      (preorderAll ((Param.numberAll next ps).1.map param)) := by
  induction ps generalizing next with
  | nil => exact .nil
  | cons p ps ih =>
    rw [Param.numberAll, List.map_cons, preorderAll_cons]
    exact (p.counted_number next).append (ih _)

mutual

/-- An expression with all its nodes numbered from `next` on. -/
theorem Expr.counted_number : (e : Expr) → (next : NodeId) →
    Counted next (e.number next).2 (expr (e.number next).1).preorder
  | .path .., _ | .int .., _ | .str .., _ => .of_children rfl .nil
  | .borrow _ _ subject, next | .deref _ subject, next | .field _ subject _, next => by
    have hsubject := subject.counted_number (next + 1)
    refine .of_children rfl ?_
    rw [Expr.number, children, preorderAll_cons, preorderAll_nil, List.append_nil]
    exact hsubject
  -- the arguments count on from where the callee ends
  | .call _ callee args, next | .methodCall _ callee _ args, next => by
    have hcallee := callee.counted_number (next + 1)
    have hargs := Expr.counted_numberAll args (callee.number (next + 1)).2
    refine .of_children rfl ?_
    rw [Expr.number, children, preorderAll_cons]
    exact hcallee.append hargs
  -- and the body from where the parameters end
  | .closure _ params _ body, next => by
    have hparams := Param.counted_numberAll params (next + 1)
    have hbody := body.counted_number (Param.numberAll (next + 1) params).2
    refine .of_children rfl ?_
    rw [Expr.number, children, preorderAll_append, preorderAll_cons, preorderAll_nil,
      List.append_nil]
    exact hparams.append hbody

/-- Expressions, one after the other. -/
theorem Expr.counted_numberAll : (es : List Expr) → (next : NodeId) →
    Counted next (Expr.numberAll next es).2
      (preorderAll ((Expr.numberAll next es).1.map expr))
  | [], _ => .nil
  | e :: es, next => by
    rw [Expr.numberAll, List.map_cons, preorderAll_cons]
    exact (e.counted_number next).append (Expr.counted_numberAll es _)

end

/-- A statement: its own identity, then those of the pattern, then those of the value. -/
theorem Stmt.counted_number (s : Stmt) (next : NodeId) :
    Counted next (s.number next).2 (stmt (s.number next).1).preorder := by
  cases s with
  | letStmt _ bound _ value =>
    have hbound := bound.counted_number (next + 1)
    have hvalue := value.counted_number (bound.number (next + 1)).2
    refine .of_children rfl ?_
    rw [Stmt.number, children, preorderAll_cons, preorderAll_cons, preorderAll_nil, List.append_nil]
    exact hbound.append hvalue
  | exprStmt _ e =>
    have hexpr := e.counted_number (next + 1)
    refine .of_children rfl ?_
    rw [Stmt.number, children, preorderAll_cons, preorderAll_nil, List.append_nil]
    exact hexpr

/-- Statements, one after the other. -/
theorem Stmt.counted_numberAll (ss : List Stmt) (next : NodeId) :
    Counted next (Stmt.numberAll next ss).2
      (preorderAll ((Stmt.numberAll next ss).1.map stmt)) := by
  induction ss generalizing next with
  | nil => exact .nil
  | cons s ss ih =>
    rw [Stmt.numberAll, List.map_cons, preorderAll_cons]
    exact (s.counted_number next).append (ih _)

/-- **Numbering a function** counts its nodes up from `next`, whatever their sort. -/
theorem Function.counted_number (f : Function) (next : NodeId) :
    Counted next (f.number next).2 (f.number next).1.parts := by
  let between := (Param.numberAll (next + 1) f.params).2
  have hparams := Param.counted_numberAll f.params (next + 1)
  have hstmts := Stmt.counted_numberAll f.body.stmts (between + 1)
  -- the body takes an identity of its own between the parameters and the statements
  have hblock : Counted between (f.number next).2 (block (f.number next).1.body).preorder :=
    .of_children rfl hstmts
  refine .of_children rfl ?_
  rw [Function.number, children, preorderAll_append, preorderAll_cons, preorderAll_nil,
    List.append_nil]
  exact hparams.append hblock

end ClosureLint.Core
