import ClosureLint.Proofs.Core.Preorder
import ClosureLint.Proofs.Grammar.Invocations

/-!
# Lowering without a trace of macros

A macro invocation is lowered as if its argument stood in its place. All that remains of it is a mark
on the spans of what stood inside, and whether there is one is a matter of how many invocations there
are around a node. That number is a parameter of lowering here; a counter that every invocation raises
for as long as its argument is lowered does the same, as it is always back where it was.

* `Expr.unmarked` — a core tree without marks.
* `unmarked_lowerExpr` — which is that of the expression without invocations.
* `spans_lowerExpr` — the spans of a core tree, marks and all.
* `Counting.lowerExpr`, `Counting.run_lowerExpr` — lowering with a counter.
* `macros_erased` — all of this for one expression.
-/

namespace ClosureLint.Core

open ClosureLint.Syntax (TreeNode)

/-! ### Core trees without marks -/

/-- The node without a mark. -/
def Node.unmarked (n : Node) : Node := { n with span := { n.span with fromMacro := false } }

mutual

/-- The pattern without marks. -/
def Pattern.unmarked : Pattern → Pattern
  | .binding node isMut name => .binding node.unmarked isMut name
  | .tuple node elems => .tuple node.unmarked (Pattern.unmarkedAll elems)
  | .ref node inner => .ref node.unmarked inner.unmarked
  | .wildcard node => .wildcard node.unmarked

/-- Patterns without marks. -/
def Pattern.unmarkedAll : List Pattern → List Pattern
  | [] => []
  | p :: ps => p.unmarked :: Pattern.unmarkedAll ps

end

/-- The parameter without marks. -/
def Param.unmarked (p : Param) : Param := ⟨p.node.unmarked, p.pattern.unmarked, p.declared⟩

mutual

/-- The expression without marks. -/
def Expr.unmarked : Expr → Expr
  | .path node segments => .path node.unmarked segments
  | .int node value => .int node.unmarked value
  | .str node value => .str node.unmarked value
  | .borrow node isMut subject => .borrow node.unmarked isMut subject.unmarked
  | .deref node subject => .deref node.unmarked subject.unmarked
  | .field node subject name => .field node.unmarked subject.unmarked name
  | .call node callee args => .call node.unmarked callee.unmarked (Expr.unmarkedAll args)
  | .methodCall node receiver method args =>
    .methodCall node.unmarked receiver.unmarked method (Expr.unmarkedAll args)
  | .closure node params ret body =>
    .closure node.unmarked (params.map Param.unmarked) ret body.unmarked

/-- Expressions without marks. -/
def Expr.unmarkedAll : List Expr → List Expr
  | [] => []
  | e :: es => e.unmarked :: Expr.unmarkedAll es

end

/-- Without the mark, a node is what it would be outside of all invocations. -/
theorem Lowering.unmarked_node (c : Lowering) (l : Loc) :
    (c.node l).unmarked = ({ file := c.file } : Lowering).node l := by
  unfold Lowering.node
  split <;> rfl

mutual

/-- A pattern is lowered to the same, up to marks. -/
theorem unmarked_lowerPattern (c : Lowering) : (p : Syntax.Pattern) →
    (lowerPattern c p).unmarked = lowerPattern { file := c.file } p
  | .binding l isMut name => congrArg (Pattern.binding · isMut name) (c.unmarked_node l)
  | .wildcard l => congrArg Pattern.wildcard (c.unmarked_node l)
  | .ref l inner => by
    rw [lowerPattern, lowerPattern, Pattern.unmarked, c.unmarked_node, unmarked_lowerPattern c inner]
  | .tuple l elems => by
    rw [lowerPattern, lowerPattern, Pattern.unmarked, c.unmarked_node, unmarked_lowerPatterns c elems]

/-- So is a list of patterns, -/
theorem unmarked_lowerPatterns (c : Lowering) : (ps : List Syntax.Pattern) →
    Pattern.unmarkedAll (lowerPatterns c ps) = lowerPatterns { file := c.file } ps
  | [] => rfl
  | p :: ps => List.cons_eq_cons.mpr ⟨unmarked_lowerPattern c p, unmarked_lowerPatterns c ps⟩

end

/-- and so is a parameter. -/
theorem unmarked_lowerClosureParam (c : Lowering) (q : Syntax.ClosureParam) :
    (lowerClosureParam c q).unmarked = lowerClosureParam { file := c.file } q := by
  rw [lowerClosureParam, lowerClosureParam, Param.unmarked, c.unmarked_node, unmarked_lowerPattern]

mutual

/-- **Up to marks**, an expression is lowered as if there were no invocations in it or around it. -/
theorem unmarked_lowerExpr : (e : Syntax.Expr) → (c : Lowering) →
    (lowerExpr c e).unmarked = lowerExpr { file := c.file } e.withoutMacros
  | .path l segments, c => congrArg (Expr.path · segments) (c.unmarked_node l)
  | .int l value, c => congrArg (Expr.int · value) (c.unmarked_node l)
  | .str l value, c => congrArg (Expr.str · value) (c.unmarked_node l)
  | .borrow l _ operand, c | .deref l operand, c | .field l operand _, c => by
    have hoperand := unmarked_lowerExpr operand c
    rw [lowerExpr, Expr.unmarked, c.unmarked_node, hoperand]
    rfl
  | .call l callee args, c | .methodCall l callee _ args, c => by
    have hcallee := unmarked_lowerExpr callee c
    have hargs := unmarked_lowerExprs args c
    rw [lowerExpr, Expr.unmarked, c.unmarked_node, hcallee, hargs]
    rfl
  | .closure l params ret body, c => by
    have hparams : (params.map (lowerClosureParam c)).map Param.unmarked
        = params.map (lowerClosureParam { file := c.file }) := by
      rw [List.map_map]
      exact List.map_congr_left fun q _ => unmarked_lowerClosureParam c q
    have hbody := unmarked_lowerExpr body c
    rw [lowerExpr, Expr.unmarked, c.unmarked_node, hparams, hbody]
    rfl
  -- the invocation is gone on both sides
  | .macroCall _ _ expansion, c => unmarked_lowerExpr expansion c.inside

/-- The same for lists of expressions. -/
theorem unmarked_lowerExprs : (es : List Syntax.Expr) → (c : Lowering) →
    Expr.unmarkedAll (lowerExprs c es)
      = lowerExprs { file := c.file } (Syntax.Expr.withoutMacrosAll es)
  | [], _ => rfl
  | e :: es, c => List.cons_eq_cons.mpr ⟨unmarked_lowerExpr e c, unmarked_lowerExprs es c⟩

end

/-! ### Spans -/

/-- Lowering with `k` more invocations around. -/
def Lowering.deeper (c : Lowering) (k : Nat) : Lowering := { c with macroDepth := c.macroDepth + k }

/-- The spans of the nodes that are lowered: each where the node was read, in the file that is lowered,
and marked if there are invocations around it. -/
def loweredSpans (c : Lowering) (ns : List (TreeNode × Nat)) : List (Option Span) :=
  (ns.filter fun n => n.1.isLowered).map fun n =>
    some ⟨n.1.loc, c.file, decide (0 < c.macroDepth + n.2)⟩

/-- The spans of some nodes come before those of others. -/
theorem loweredSpans_append (c : Lowering) (ms ns : List (TreeNode × Nat)) :
    loweredSpans c (ms ++ ns) = loweredSpans c ms ++ loweredSpans c ns := by
  rw [loweredSpans, List.filter_append, List.map_append]
  rfl

/-- A span is marked if there is any invocation around it, outside or inside. -/
theorem Lowering.span_deeper (c : Lowering) (k : Nat) (l : Loc) :
    ((c.deeper k).node l).span = ⟨l, c.file, decide (0 < c.macroDepth + k)⟩ := by
  have hmark := (c.deeper k).fromMacro_node l
  have hdepth : (c.deeper k).macroDepth ≠ 0 ↔ 0 < c.macroDepth + k := Nat.pos_iff_ne_zero.symm
  calc ((c.deeper k).node l).span
      = ⟨l, c.file, ((c.deeper k).node l).span.fromMacro⟩ := by unfold Lowering.node; split <;> rfl
    _ = ⟨l, c.file, decide (0 < c.macroDepth + k)⟩ := by
      rw [Bool.eq_iff_iff.mpr ((hmark.trans hdepth).trans decide_eq_true_iff.symm)]

/-- The spans below a node that is lowered: its own, then those below its children. -/
theorem loweredSpans_nested (c : Lowering) (k : Nat) {n : TreeNode} {node : Node}
    (hnode : node = (c.deeper k).node n.loc) (hlowered : n.isLowered = true) :
    loweredSpans c (n.nested k)
      = some node.span :: loweredSpans c (TreeNode.nestedAll k n.children) := by
  have hno : n.isInvocation = false := by
    cases n with
    | expr e => exact (Bool.not_eq_true' _).mp hlowered
    | _ => rfl
  rw [TreeNode.nested_eq, hno, hnode, c.span_deeper, loweredSpans, List.filter_cons, if_pos hlowered]
  rfl

/-- Types leave no spans. -/
theorem loweredSpans_types (c : Lowering) (k : Nat) (ts : List Syntax.TypeExpr) :
    loweredSpans c (TreeNode.nestedAll k (ts.map TreeNode.type)) = [] := by
  have hnone : (TreeNode.nestedAll k (ts.map TreeNode.type)).filter (fun n => n.1.isLowered) = [] := by
    refine List.filter_eq_nil_iff.mpr fun x hx => ?_
    obtain ⟨n, hn, hx⟩ := List.mem_flatMap.mp hx
    obtain ⟨t, -, rfl⟩ := List.mem_map.mp hn
    rw [TreeNode.isLowered_type k t x hx]
    exact Bool.false_ne_true
  rw [loweredSpans, hnone, List.map_nil]

mutual

/-- The spans of a pattern are those of its nodes. -/
theorem spans_lowerPattern (c : Lowering) (k : Nat) : (p : Syntax.Pattern) →
    (TreePart.pattern (lowerPattern (c.deeper k) p)).preorder.map TreePart.span?
      = loweredSpans c ((TreeNode.pattern p).nested k)
  | .binding l .. | .wildcard l => by
    rw [loweredSpans_nested c k (n := TreeNode.pattern _) rfl rfl, TreePart.preorder_eq]
    rfl
  | .ref l inner => by
    have hinner := spans_lowerPattern c k inner
    rw [loweredSpans_nested c k (n := TreeNode.pattern _) rfl rfl, TreePart.preorder_eq,
      TreeNode.children, TreeNode.nestedAll_cons, TreeNode.nestedAll_nil, List.append_nil, ← hinner]
    -- the lowered pattern has one child, as the written one has
    rw [lowerPattern, TreePart.children, TreePart.preorderAll_cons, TreePart.preorderAll_nil,
      List.append_nil]
    rfl
  | .tuple l elems => by
    have helems := spans_lowerPatterns c k elems
    rw [loweredSpans_nested c k (n := TreeNode.pattern _) rfl rfl, TreePart.preorder_eq,
      TreeNode.children, ← helems]
    rfl

/-- The same for a list of patterns. -/
theorem spans_lowerPatterns (c : Lowering) (k : Nat) : (ps : List Syntax.Pattern) →
    (TreePart.preorderAll ((lowerPatterns (c.deeper k) ps).map TreePart.pattern)).map TreePart.span?
      = loweredSpans c (TreeNode.nestedAll k (ps.map TreeNode.pattern))
  | [] => rfl
  | p :: ps => by
    have hhead := spans_lowerPattern c k p
    have htail := spans_lowerPatterns c k ps
    rw [List.map_cons, TreeNode.nestedAll_cons, loweredSpans_append, ← hhead, ← htail]
    rw [lowerPatterns, List.map_cons, TreePart.preorderAll_cons, List.map_append]

end

/-- The spans of parameters: their types leave none. -/
theorem spans_lowerClosureParams (c : Lowering) (k : Nat) (qs : List Syntax.ClosureParam) :
    (TreePart.preorderAll ((qs.map (lowerClosureParam (c.deeper k))).map TreePart.param)).map
        TreePart.span?
      = loweredSpans c (TreeNode.nestedAll k (qs.map TreeNode.closureParam)) := by
  have hone (q : Syntax.ClosureParam) :
      (TreePart.param (lowerClosureParam (c.deeper k) q)).preorder.map TreePart.span?
        = loweredSpans c ((TreeNode.closureParam q).nested k) := by
    have hpattern := spans_lowerPattern c k q.pattern
    rw [loweredSpans_nested c k (n := TreeNode.closureParam q) rfl rfl, TreeNode.children,
      TreeNode.nestedAll_cons, loweredSpans_append, loweredSpans_types, List.append_nil, ← hpattern,
      TreePart.preorder_eq, TreePart.children, TreePart.preorderAll_cons, TreePart.preorderAll_nil,
      List.append_nil]
    rfl
  induction qs with
  | nil => rfl
  | cons q qs ih =>
    rw [List.map_cons, List.map_cons, List.map_cons, TreePart.preorderAll_cons, List.map_append,
      TreeNode.nestedAll_cons, loweredSpans_append, hone, ih]

mutual

/-- **The spans of a lowered expression** are those of the nodes that it was read as, invocations and
types left out. Marked are those around which there are invocations. -/
theorem spans_lowerExpr (c : Lowering) : (e : Syntax.Expr) → (k : Nat) →
    (TreePart.expr (lowerExpr (c.deeper k) e)).preorder.map TreePart.span?
      = loweredSpans c ((TreeNode.expr e).nested k)
  | .path .., k | .int .., k | .str .., k => by
    rw [loweredSpans_nested c k (n := TreeNode.expr _) rfl rfl, TreePart.preorder_eq]
    rfl
  | .borrow _ _ operand, k | .deref _ operand, k | .field _ operand _, k => by
    have hoperand := spans_lowerExpr c operand k
    rw [loweredSpans_nested c k (n := TreeNode.expr _) rfl rfl, TreeNode.children,
      TreeNode.nestedAll_cons, TreeNode.nestedAll_nil, List.append_nil, ← hoperand,
      TreePart.preorder_eq, lowerExpr, TreePart.children, TreePart.preorderAll_cons,
      TreePart.preorderAll_nil, List.append_nil]
    rfl
  | .call _ callee args, k | .methodCall _ callee _ args, k => by
    have hcallee := spans_lowerExpr c callee k
    have hargs := spans_lowerExprs c args k
    rw [loweredSpans_nested c k (n := TreeNode.expr _) rfl rfl, TreeNode.children,
      TreeNode.nestedAll_cons, loweredSpans_append, ← hcallee, ← hargs, TreePart.preorder_eq,
      lowerExpr, TreePart.children, TreePart.preorderAll_cons, List.map_cons, List.map_append]
    rfl
  | .closure _ params _ body, k => by
    -- parameters, then the result, which leaves no span, then the body
    have hparams := spans_lowerClosureParams c k params
    have hbody := spans_lowerExpr c body k
    rw [loweredSpans_nested c k (n := TreeNode.expr _) rfl rfl, TreeNode.children,
      TreeNode.nestedAll_append, TreeNode.nestedAll_append, loweredSpans_append, loweredSpans_append,
      loweredSpans_types, List.nil_append, TreeNode.nestedAll_cons, TreeNode.nestedAll_nil,
      List.append_nil, ← hparams, ← hbody, TreePart.preorder_eq, lowerExpr, TreePart.children,
      TreePart.preorderAll_append, TreePart.preorderAll_cons, TreePart.preorderAll_nil,
      List.append_nil, List.map_cons, List.map_append]
    rfl
  | .macroCall l name expansion, k => by
    -- the invocation leaves nothing, and there is one more around its argument
    have hexpansion := spans_lowerExpr c expansion (k + 1)
    have hdropped : loweredSpans c ((TreeNode.expr (.macroCall l name expansion)).nested k)
        = loweredSpans c ((TreeNode.expr expansion).nested (k + 1)) := by
      rw [TreeNode.nested_eq, TreeNode.children, TreeNode.nestedAll_cons, TreeNode.nestedAll_nil,
        List.append_nil]
      rfl
    rw [hdropped, ← hexpansion, lowerExpr]
    rfl

/-- The same for lists of expressions. -/
theorem spans_lowerExprs (c : Lowering) : (es : List Syntax.Expr) → (k : Nat) →
    (TreePart.preorderAll ((lowerExprs (c.deeper k) es).map TreePart.expr)).map TreePart.span?
      = loweredSpans c (TreeNode.nestedAll k (es.map TreeNode.expr))
  | [], _ => rfl
  | e :: es, k => by
    have hhead := spans_lowerExpr c e k
    have htail := spans_lowerExprs c es k
    rw [List.map_cons, TreeNode.nestedAll_cons, loweredSpans_append, ← hhead, ← htail, lowerExprs,
      List.map_cons, TreePart.preorderAll_cons, List.map_append]

end

/-! ### Lowering with a counter -/

namespace Counting

/-- The node of a piece of source: it is marked if the counter is raised at that time. -/
def node (file : Option String) (l : Loc) : StateM Nat Node := do
  let macroDepth ← get
  return Lowering.node ⟨file, macroDepth⟩ l

mutual

/-- A closure pattern. What is inside of it comes first. -/
def lowerPattern (file : Option String) : Syntax.Pattern → StateM Nat Pattern
  | .binding l isMut name => return .binding (← node file l) isMut name
  | .tuple l elems => do
    let elems ← lowerPatterns file elems
    return .tuple (← node file l) elems
  | .ref l inner => do
    let inner ← lowerPattern file inner
    return .ref (← node file l) inner
  | .wildcard l => return .wildcard (← node file l)

/-- Closure patterns, one after the other. -/
def lowerPatterns (file : Option String) : List Syntax.Pattern → StateM Nat (List Pattern)
  | [] => return []
  | p :: ps => return (← lowerPattern file p) :: (← lowerPatterns file ps)

end

/-- A closure parameter. -/
def lowerClosureParam (file : Option String) (q : Syntax.ClosureParam) : StateM Nat Param := do
  let pattern ← lowerPattern file q.pattern
  return ⟨← node file q.loc, pattern, q.declared⟩

/-- Closure parameters, one after the other. -/
def lowerClosureParams (file : Option String) : List Syntax.ClosureParam → StateM Nat (List Param)
  | [] => return []
  | q :: qs => return (← lowerClosureParam file q) :: (← lowerClosureParams file qs)

mutual

/-- An expression. What is inside of it comes first. An invocation raises the counter, and lowers it
again behind its argument. -/
def lowerExpr (file : Option String) : Syntax.Expr → StateM Nat Expr
  | .path l segments => return .path (← node file l) segments
  | .int l value => return .int (← node file l) value
  | .str l value => return .str (← node file l) value
  | .borrow l isMut operand => do
    let subject ← lowerExpr file operand
    return .borrow (← node file l) isMut subject
  | .deref l operand => do
    let subject ← lowerExpr file operand
    return .deref (← node file l) subject
  | .field l subject name => do
    let subject ← lowerExpr file subject
    return .field (← node file l) subject name
  | .call l callee args => do
    let callee ← lowerExpr file callee
    let args ← lowerExprs file args
    return .call (← node file l) callee args
  | .methodCall l receiver method args => do
    let receiver ← lowerExpr file receiver
    let args ← lowerExprs file args
    return .methodCall (← node file l) receiver method args
  | .closure l params ret body => do
    let params ← lowerClosureParams file params
    let body ← lowerExpr file body
    return .closure (← node file l) params ret body
  | .macroCall _ _ expansion => do
    modify (· + 1)
    let expanded ← lowerExpr file expansion
    modify (· - 1)
    return expanded

/-- Expressions, one after the other. -/
def lowerExprs (file : Option String) : List Syntax.Expr → StateM Nat (List Expr)
  | [] => return []
  | e :: es => return (← lowerExpr file e) :: (← lowerExprs file es)

end

/-- A step that leaves the counter at `d'` hands it on. -/
theorem run_bind {α β : Type} {m : StateM Nat α} {f : α → StateM Nat β} {a : α} {d d' : Nat}
    (h : m.run d = (a, d')) : (m >>= f).run d = (f a).run d' := by
  rw [StateT.run_bind, h]
  rfl

variable (file : Option String)

mutual

/-- No pattern has an invocation in it, so the counter stays. -/
theorem run_lowerPattern : (p : Syntax.Pattern) → (d : Nat) →
    (lowerPattern file p).run d = (Core.lowerPattern ⟨file, d⟩ p, d)
  | .binding .., _ | .wildcard _, _ => rfl
  | .tuple _ elems, d => by
    rw [lowerPattern, run_bind (run_lowerPatterns elems d)]
    rfl
  | .ref _ inner, d => by
    rw [lowerPattern, run_bind (run_lowerPattern inner d)]
    rfl

/-- The same for a list of patterns, -/
theorem run_lowerPatterns : (ps : List Syntax.Pattern) → (d : Nat) →
    (lowerPatterns file ps).run d = (Core.lowerPatterns ⟨file, d⟩ ps, d)
  | [], _ => rfl
  | p :: ps, d => by
    rw [lowerPatterns, run_bind (run_lowerPattern p d), run_bind (run_lowerPatterns ps d)]
    rfl

end

/-- for a parameter, -/
theorem run_lowerClosureParam (q : Syntax.ClosureParam) (d : Nat) :
    (lowerClosureParam file q).run d = (Core.lowerClosureParam ⟨file, d⟩ q, d) := by
  rw [lowerClosureParam, run_bind (run_lowerPattern file q.pattern d)]
  rfl

/-- and for all parameters of a closure. -/
theorem run_lowerClosureParams (qs : List Syntax.ClosureParam) (d : Nat) :
    (lowerClosureParams file qs).run d = (qs.map (Core.lowerClosureParam ⟨file, d⟩), d) := by
  induction qs with
  | nil => rfl
  | cons q qs ih =>
    rw [lowerClosureParams, run_bind (run_lowerClosureParam file q d), run_bind ih]
    rfl

mutual

/-- **The counter is back where it was** when an expression is lowered, and whatever is lowered in
between sees how many invocations there are around it. -/
theorem run_lowerExpr : (e : Syntax.Expr) → (d : Nat) →
    (lowerExpr file e).run d = (Core.lowerExpr ⟨file, d⟩ e, d)
  | .path .., _ | .int .., _ | .str .., _ => rfl
  | .borrow _ _ operand, d | .deref _ operand, d | .field _ operand _, d => by
    rw [lowerExpr, run_bind (run_lowerExpr operand d)]
    rfl
  | .call _ callee args, d | .methodCall _ callee _ args, d => by
    rw [lowerExpr, run_bind (run_lowerExpr callee d), run_bind (run_lowerExprs args d)]
    rfl
  | .closure _ params _ body, d => by
    rw [lowerExpr, run_bind (run_lowerClosureParams file params d), run_bind (run_lowerExpr body d)]
    rfl
  | .macroCall _ _ expansion, d => by
    -- raised by one, and by one lowered again behind the argument
    have hraise : (modify (· + 1) : StateM Nat PUnit).run d = (⟨⟩, d + 1) := rfl
    rw [lowerExpr, run_bind hraise, run_bind (run_lowerExpr expansion (d + 1))]
    rfl

/-- The same for lists of expressions. -/
theorem run_lowerExprs : (es : List Syntax.Expr) → (d : Nat) →
    (lowerExprs file es).run d = (Core.lowerExprs ⟨file, d⟩ es, d)
  | [], _ => rfl
  | e :: es, d => by
    rw [lowerExprs, run_bind (run_lowerExpr e d), run_bind (run_lowerExprs es d)]
    rfl

end

end Counting

/-- **Macros are erased.** Whatever the expression and however many invocations there are around it:
without marks it is lowered to the same tree as the expression in which every invocation is replaced by
its argument; the spans of the tree are those of the nodes that were read, in their order and in the
file that is lowered, and marked exactly where an invocation was around the whole or is around the node;
and a counter of the invocations ends where it began. -/
theorem macros_erased (c : Lowering) (e : Syntax.Expr) :
    (∀ n ∈ (TreeNode.expr e.withoutMacros).nested 0, n.1.isInvocation = false) ∧
    (lowerExpr c e).unmarked = (lowerExpr c e.withoutMacros).unmarked ∧
    (TreePart.expr (lowerExpr c e)).preorder.map TreePart.span?
      = (((TreeNode.expr e).nested 0).filter fun n => n.1.isLowered).map (fun n =>
          some ⟨n.1.loc, c.file, decide (0 < c.macroDepth + n.2)⟩) ∧
    (Counting.lowerExpr c.file e).run c.macroDepth = (lowerExpr c e, c.macroDepth) := by
  refine ⟨TreeNode.isInvocation_withoutMacros 0 e, ?_, spans_lowerExpr c e 0,
    Counting.run_lowerExpr c.file e c.macroDepth⟩
  -- both sides are lowered as the expression without invocations, outside of all of them
  calc (lowerExpr c e).unmarked
      = lowerExpr { file := c.file } e.withoutMacros := unmarked_lowerExpr e c
    _ = lowerExpr { file := c.file } e.withoutMacros.withoutMacros := by rw [e.withoutMacros_twice]
    _ = (lowerExpr c e.withoutMacros).unmarked := (unmarked_lowerExpr e.withoutMacros c).symm

end ClosureLint.Core
