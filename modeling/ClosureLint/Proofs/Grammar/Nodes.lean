import ClosureLint.Proofs.Grammar.Complete.Items
import ClosureLint.Proofs.Grammar.Sound.Items

/-!
# The nodes of a program

Everything in a tree that has an extent is a node. The nodes right below one are its children, in the
order in which they are written; what stands in a program is an item of it, or a child of what stands
in it.

* `TreeNode`, `TreeNode.children`, `TreeNode.In` — the nodes of a program.
* `TreeNode.Formed` — a run of tokens is a way to write a node, perhaps in parentheses.
* `Runs` — nodes that are written in runs of the tokens, one behind the other.
* `TreeNode.Covers` — the tokens that a node covers, without the parentheses around it.
* `TreeNode.In.covered` — **every node of a program** covers a run of tokens of its text, and the children
  are written in runs of these tokens, one behind the other.
-/

namespace ClosureLint.Syntax

/-- A part of a tree that has an extent. -/
inductive TreeNode where
  | structDef (d : StructDef)
  | traitDef (d : TraitDef)
  | implDef (d : ImplDef)
  | function (f : FunctionDef)
  | receiver (r : Receiver)
  | param (q : Param)
  | stmt (s : Stmt)
  | expr (e : Expr)
  | closureParam (q : ClosureParam)
  | pattern (q : Pattern)
  | type (t : TypeExpr)

namespace TreeNode

/-- The extent of a node. -/
def loc : TreeNode → Loc
  | structDef d => d.loc
  | traitDef d => d.loc
  | implDef d => d.loc
  | function f => f.loc
  | receiver r => r.loc
  | param q => q.loc
  | stmt (.letStmt l ..) | stmt (.exprStmt l _) => l
  | expr e => e.loc
  | closureParam q => q.loc
  | pattern q => q.loc
  | type t => t.loc

/-- The nodes right below one, in the order in which they are written. -/
def children : TreeNode → List TreeNode
  | structDef d => d.derefTarget.toList.map type
  | traitDef d => d.methods.map function
  | implDef d => type d.target :: d.methods.map function
  | function f =>
    f.receiver.toList.map receiver ++ (f.params.map param ++
      (f.ret.toList.map type ++ (f.body.getD []).map stmt))
  | receiver ⟨_, .typed t⟩ => [type t]
  | receiver _ => []
  | param q => [type q.type]
  | stmt (.letStmt _ _ _ declared value) => declared.toList.map type ++ [expr value]
  | stmt (.exprStmt _ e) => [expr e]
  | expr (.path ..) | expr (.int ..) | expr (.str ..) => []
  | expr (.borrow _ _ operand) | expr (.deref _ operand) => [expr operand]
  | expr (.field _ subject _) => [expr subject]
  | expr (.call _ callee args) => expr callee :: args.map expr
  | expr (.methodCall _ subject _ args) => expr subject :: args.map expr
  | expr (.closure _ params ret body) =>
    params.map closureParam ++ (ret.toList.map type ++ [expr body])
  | expr (.macroCall _ _ expansion) => [expr expansion]
  | closureParam q => pattern q.pattern :: q.declared.toList.map type
  | pattern (.tuple _ elems) => elems.map pattern
  | pattern (.ref _ inner) => [pattern inner]
  | pattern (.binding ..) | pattern (.wildcard _) => []
  | type (.named _ _ args) => args.map type
  | type (.ref _ _ inner) => [type inner]
  | type (.array _ elem _) | type (.slice _ elem) => [type elem]
  | type (.tuple _ elems) => elems.map type
  | type (.fnPtr _ _ params ret) => params.map type ++ ret.toList.map type

end TreeNode

/-- An item as a node. -/
def Item.node : Item → TreeNode
  | .structDef d => .structDef d
  | .traitDef d => .traitDef d
  | .implDef d => .implDef d
  | .function f => .function f

/-- The items of a program as nodes, one sort behind the other. -/
def Program.roots (p : Program) : List TreeNode :=
  p.structs.map .structDef ++ (p.traits.map .traitDef ++
    (p.impls.map .implDef ++ p.functions.map .function))

/-- The node stands in the program. -/
inductive TreeNode.In (p : Program) : TreeNode → Prop
  | item {n : TreeNode} : n ∈ p.roots → n.In p
  | child {m n : TreeNode} : m.In p → n ∈ m.children → n.In p

/-- The expression that is the only statement of the only function. -/
def onlyExpr? (p : Program) : Option Expr :=
  match p.functions.map FunctionDef.body with
  | [some [.exprStmt _ e]] => some e
  | _ => none

/-- The only parameter of a closure. -/
def onlyParam? : Expr → Option ClosureParam
  | .closure _ [q] _ _ => some q
  | _ => none

/-- The only expression of a program is a node of it. -/
theorem onlyExpr?_in {p : Program} {e : Expr} (h : onlyExpr? p = some e) : (TreeNode.expr e).In p := by
  unfold onlyExpr? at h
  split at h
  · next l e' hbodies =>
    obtain rfl := Option.some.inj h
    obtain ⟨f, hf, hbody⟩ := List.map_eq_singleton_iff.mp hbodies
    have hroot : TreeNode.function f ∈ p.roots := by simp [Program.roots, hf]
    have hstmt : TreeNode.stmt (.exprStmt l e') ∈ (TreeNode.function f).children := by
      simp [TreeNode.children, hbody]
    exact .child (.child (.item hroot) hstmt) List.mem_cons_self
  · cases h

/-- The only parameter of a closure is a child of the closure. -/
theorem onlyParam?_child {e : Expr} {q : ClosureParam} (h : onlyParam? e = some q) :
    TreeNode.closureParam q ∈ (TreeNode.expr e).children := by
  unfold onlyParam? at h
  split at h
  · obtain rfl := Option.some.inj h
    exact List.mem_cons_self
  · cases h

/-- The tokens are a way to write the node: its rule of the grammar, perhaps in parentheses. None of
them is at fault. -/
def TreeNode.Formed (ts : List Token) : TreeNode → Prop
  | .structDef d => IsItem ts (.structDef d) []
  | .traitDef d => IsItem ts (.traitDef d) []
  | .implDef d => IsItem ts (.implDef d) []
  | .function f => ∃ inMethod, IsFunction inMethod ts f []
  | .receiver r => IsParam ts (.receiver r) []
  | .param q => IsParam ts (.named q) []
  | .stmt s => IsStmt ts s []
  | .expr e => IsExpr ts e []
  | .closureParam q => IsClosureParam ts q []
  | .pattern q => IsPattern ts q
  | .type t => IsType ts t []

/-- Nothing is written without a token. -/
theorem TreeNode.Formed.ne_nil {ts : List Token} {n : TreeNode} (h : n.Formed ts) : ts ≠ [] := by
  cases n with
  | structDef d => exact IsItem.ne_nil h
  | traitDef d => exact IsItem.ne_nil h
  | implDef d => exact IsItem.ne_nil h
  | function f =>
    obtain ⟨inMethod, hf⟩ := h
    exact hf.starts.ne_nil
  | receiver r => exact (IsParam.starts h).ne_nil
  | param q => exact (IsParam.starts h).ne_nil
  | stmt s => exact (IsStmt.starts h).ne_nil
  | expr e => exact (IsExpr.starts h).ne_nil
  | closureParam q => exact (IsClosureParam.starts h).ne_nil
  | pattern q => exact (IsPattern.starts h).ne_nil
  | type t => exact (IsType.starts h).ne_nil

/-- The nodes are written in runs of the tokens, one behind the other. -/
inductive Runs : List Token → List TreeNode → Prop
  | nil {ts : List Token} : Runs ts []
  | cons {gap run rest : List Token} {n : TreeNode} {ns : List TreeNode} :
    n.Formed run → Runs rest ns → Runs (gap ++ (run ++ rest)) (n :: ns)

namespace Runs

variable {ts us : List Token} {n : TreeNode} {ns ms : List TreeNode}

/-- Nodes that are written in runs still are when tokens are put in front. -/
theorem behind (h : Runs ts ns) (us : List Token) : Runs (us ++ ts) ns := by
  cases h with
  | nil => exact .nil
  | @cons gap run rest _ _ hn hs =>
    rw [← List.append_assoc]
    exact .cons hn hs

/-- And when tokens are put behind. -/
theorem before (h : Runs ts ns) (us : List Token) : Runs (ts ++ us) ns := by
  induction h with
  | nil => exact .nil
  | cons hn _ ih =>
    rw [List.append_assoc, List.append_assoc]
    exact .cons hn ih

/-- Nodes that are written in runs, one list behind the other, are written in runs together. -/
theorem append (h : Runs ts ns) (h' : Runs us ms) : Runs (ts ++ us) (ns ++ ms) := by
  induction h with
  | nil => exact h'.behind _
  | cons hn _ ih =>
    rw [List.append_assoc, List.append_assoc]
    exact .cons hn ih

/-- And when one token is put in front. -/
theorem cons_token (t : Token) (h : Runs ts ns) : Runs (t :: ts) ns := h.behind [t]

/-- A node that is formed by all tokens is written in one run. -/
theorem single (h : n.Formed ts) : Runs ts [n] := by
  have hone : Runs ([] ++ (ts ++ [])) [n] := .cons h .nil
  rwa [List.nil_append, List.append_nil] at hone

/-- Each of the nodes is written in a run of the tokens. -/
theorem formed (h : Runs ts ns) (hn : n ∈ ns) : ∃ run, run <:+: ts ∧ n.Formed run := by
  induction h with
  | nil => exact absurd hn List.not_mem_nil
  | @cons gap run rest _ _ hfirst _ ih =>
    rcases List.mem_cons.mp hn with rfl | hn
    · exact ⟨run, ⟨gap, rest, List.append_assoc ..⟩, hfirst⟩
    · obtain ⟨run', hrun', hformed⟩ := ih hn
      refine ⟨run', hrun'.trans ?_, hformed⟩
      exact (List.suffix_append _ _).isInfix.trans (List.suffix_append _ _).isInfix

end Runs

/-- The tokens are what a node covers: it is written in them and reaches from the first to the last,
and its children are written in runs of them, one behind the other. -/
structure TreeNode.Covers (n : TreeNode) (ts : List Token) : Prop where
  formed : n.Formed ts
  loc : n.loc = extentOf ts
  children : Runs ts n.children

/-- Some of the tokens, which stand together, are what a node covers. -/
def TreeNode.Covered (n : TreeNode) (ts : List Token) : Prop := ∃ core, core <:+: ts ∧ n.Covers core

variable {ts : List Token} {late : List LateFault}

/-- A node that covers all tokens covers some of them. -/
theorem TreeNode.Covers.covered {n : TreeNode} (h : n.Covers ts) : n.Covered ts :=
  ⟨ts, List.infix_rfl, h⟩

/-- A node without parentheses covers all its tokens. -/
theorem TreeNode.Covered.whole {n : TreeNode} (h : n.Formed ts) (hloc : n.loc = extentOf ts)
    (hs : Runs ts n.children) : n.Covered ts := TreeNode.Covers.covered ⟨h, hloc, hs⟩

/-- Parentheses around a node are not covered by it. -/
theorem TreeNode.Covered.paren {n : TreeNode} (h : n.Covered ts) (op cl : Token) :
    n.Covered (op :: (ts ++ [cl])) := by
  obtain ⟨core, hinfix, hcovers⟩ := h
  exact ⟨core, hinfix.trans ⟨[op], [cl], rfl⟩, hcovers⟩

/-! ### Types -/

/-- A type is written in one run. -/
theorem IsType.run {t : TypeExpr} (h : IsType ts t []) : Runs ts [.type t] := .single h

/-- The types up to a parenthesis are written in runs. -/
theorem IsTypesClosing.runs {ts : List Token} {types : List TypeExpr} {late : List LateFault}
    (h : IsTypesClosing ts types late) (hl : late = []) : Runs ts (types.map .type) := by
  match h with
  | .nil _ => exact .nil
  | .last ht _ =>
    subst hl
    exact ht.run.before _
  | .cons ht _ hts =>
    obtain ⟨rfl, hl⟩ := List.append_eq_nil_iff.mp hl
    exact ht.run.append ((hts.runs hl).cons_token _)

/-- So are type arguments. -/
theorem IsTypeArgs.runs {ts : List Token} {types : List TypeExpr} {late : List LateFault}
    (h : IsTypeArgs ts types late) (hl : late = []) : Runs ts (types.map .type) := by
  match h with
  | .last ht _ =>
    subst hl
    exact ht.run.before _
  | .cons ht _ hts =>
    obtain ⟨rfl, hl⟩ := List.append_eq_nil_iff.mp hl
    exact ht.run.append ((hts.runs hl).cons_token _)

/-- So are the parameters and the result of a function type. -/
theorem IsSignature.runs {params : List TypeExpr} {ret : Option TypeExpr}
    (h : IsSignature ts params ret late) (hl : late = []) :
    Runs ts (params.map .type ++ ret.toList.map .type) := by
  cases h with
  | unit _ hts =>
    rw [Option.toList_none, List.map_nil, List.append_nil]
    exact (hts.runs hl).cons_token _
  | ret _ hts _ ht =>
    obtain ⟨hl', rfl⟩ := List.append_eq_nil_iff.mp hl
    exact ((hts.runs hl').append (ht.run.cons_token _)).cons_token _

/-- So is a type behind a mark, if there is one. -/
theorem IsOptionalType.runs {k : TokenKind} {t : Option TypeExpr} (h : IsOptionalType k ts t late)
    (hl : late = []) : Runs ts (t.toList.map .type) := by
  cases h with
  | absent => exact .nil
  | present _ ht =>
    subst hl
    exact ht.run.cons_token _

/-- **A written type** covers its tokens, or some of them if it is written in parentheses. -/
theorem IsType.covered {ts : List Token} {t : TypeExpr} {late : List LateFault}
    (h : IsType ts t late) (hl : late = []) : (TreeNode.type t).Covered ts := by
  have hself : IsType ts t [] := hl ▸ h
  -- only a type in parentheses covers less than the tokens that it is written in
  match h with
  | .ref _ _ ht =>
    subst hl
    exact .whole hself rfl ((ht.run.behind _).cons_token _)
  | .array _ ht _ _ _ =>
    obtain ⟨rfl, -⟩ := List.append_eq_nil_iff.mp hl
    exact .whole hself rfl ((ht.run.before _).cons_token _)
  | .slice _ ht _ =>
    subst hl
    exact .whole hself rfl ((ht.run.before _).cons_token _)
  | .unit _ _ => exact .whole hself rfl .nil
  | .tuple _ ht _ hts =>
    obtain ⟨rfl, hl⟩ := List.append_eq_nil_iff.mp hl
    exact .whole hself rfl ((ht.run.append ((hts.runs hl).cons_token _)).cons_token _)
  | .paren _ ht _ => exact (ht.covered hl).paren _ _
  | .unsafeFnPtr _ _ hs =>
    exact .whole hself rfl (((hs.runs hl).cons_token _).cons_token _)
  | .fnPtr _ hs => exact .whole hself rfl ((hs.runs hl).cons_token _)
  | .named _ => exact .whole hself rfl .nil
  | .generic _ _ ha =>
    exact .whole hself rfl (((ha.runs hl).cons_token _).behind _)

/-! ### Patterns and closure parameters -/

/-- A pattern is written in one run. -/
theorem IsPattern.run {p : Pattern} (h : IsPattern ts p) : Runs ts [.pattern p] := .single h

/-- The patterns up to a parenthesis are written in runs. -/
theorem IsPatternsClosing.runs {ts : List Token} {ps : List Pattern}
    (h : IsPatternsClosing ts ps) : Runs ts (ps.map .pattern) := by
  match h with
  | .nil _ => exact .nil
  | .cons hp _ hps =>
    exact hp.run.append (hps.runs.cons_token _)
  | .last hp _ => exact hp.run.before _

/-- **A pattern** covers its tokens, or some of them if it is written in parentheses. -/
theorem IsPattern.covered {ts : List Token} {p : Pattern} (h : IsPattern ts p) :
    (TreeNode.pattern p).Covered ts := by
  have hself := h
  match h with
  | .mutBinding _ _ | .binding _ | .wildcard _ => exact .whole hself rfl .nil
  | .ref _ hp => exact .whole hself rfl (hp.run.cons_token _)
  | .tuple _ hp _ hps =>
    exact .whole hself rfl ((hp.run.append (hps.runs.cons_token _)).cons_token _)
  | .paren _ hp _ => exact hp.covered.paren _ _

/-- The parameter of a closure covers its tokens: the pattern may be in parentheses, and it may not. -/
theorem IsClosureParam.covers {q : ClosureParam} (h : IsClosureParam ts q late) (hl : late = []) :
    (TreeNode.closureParam q).Covers ts := by
  have hself : IsClosureParam ts q [] := hl ▸ h
  obtain ⟨hp, hd⟩ := h
  exact ⟨hself, rfl, hp.run.append (hd.runs hl)⟩

/-- The parameters of a closure are written in runs. -/
theorem IsClosureParams.runs {ps : List ClosureParam} (h : IsClosureParams ts ps late)
    (hl : late = []) : Runs ts (ps.map .closureParam) := by
  induction h with
  | nil _ => exact .nil
  | last hp _ =>
    subst hl
    exact (Runs.single (n := .closureParam _) hp).before _
  | cons hp _ _ ih =>
    obtain ⟨rfl, hl⟩ := List.append_eq_nil_iff.mp hl
    exact (Runs.single (n := .closureParam _) hp).append ((ih hl).cons_token _)

/-! ### Expressions and statements -/

/-- An expression is written in one run. -/
theorem IsExpr.run {e : Expr} (h : IsExpr ts e []) : Runs ts [.expr e] := .single h

/-- The tokens of a chain form an expression. -/
theorem IsPostfix.formed {bare : Bool} {e : Expr} (h : IsPostfix bare ts e late) (hl : late = []) :
    (TreeNode.expr e).Formed ts := by
  subst hl
  exact .unary (.chain h)

/-- The tokens of an atom form an expression. -/
theorem IsAtom.formed {e : Expr} (h : IsAtom ts e late) (hl : late = []) :
    (TreeNode.expr e).Formed ts := (IsPostfix.atom h).formed hl

/-- Arguments are written in runs. -/
theorem IsArgs.runs {ts : List Token} {es : List Expr} {late : List LateFault}
    (h : IsArgs ts es late) (hl : late = []) : Runs ts (es.map .expr) := by
  match h with
  | .nil _ => exact .nil
  | .last he _ =>
    subst hl
    exact he.run.before _
  | .cons he _ hes =>
    obtain ⟨rfl, hl⟩ := List.append_eq_nil_iff.mp hl
    exact he.run.append ((hes.runs hl).cons_token _)

mutual

/-- **An expression** covers its tokens, or some of them if it is written in parentheses. -/
theorem IsExpr.covered {ts : List Token} {e : Expr} {late : List LateFault} (h : IsExpr ts e late)
    (hl : late = []) : (TreeNode.expr e).Covered ts := by
  have hself : IsExpr ts e [] := hl ▸ h
  match h with
  | .closure _ hps hr hb =>
    obtain ⟨hl₁, hl⟩ := List.append_eq_nil_iff.mp hl
    obtain ⟨hl₂, rfl⟩ := List.append_eq_nil_iff.mp hl
    exact .whole hself rfl (((hps.runs hl₁).append ((hr.runs hl₂).append hb.run)).cons_token _)
  | .unary hu => exact hu.covered hl

/-- An expression below prefix operators covers its tokens. -/
theorem IsUnary.covered {ts : List Token} {e : Expr} {late : List LateFault} (h : IsUnary ts e late)
    (hl : late = []) : (TreeNode.expr e).Covered ts := by
  have hself : IsExpr ts e [] := .unary (hl ▸ h)
  match h with
  | .borrow _ _ hu =>
    subst hl
    exact .whole hself rfl (((IsExpr.unary hu).run.behind _).cons_token _)
  | .deref _ hu =>
    subst hl
    exact .whole hself rfl ((IsExpr.unary hu).run.cons_token _)
  | .chain hp => exact hp.covered hl

/-- A chain covers its tokens, from its first atom on. -/
theorem IsPostfix.covered {bare : Bool} {ts : List Token} {e : Expr} {late : List LateFault}
    (h : IsPostfix bare ts e late) (hl : late = []) : (TreeNode.expr e).Covered ts := by
  have hself := h.formed hl
  match h with
  | .atom ha => exact ha.covered hl
  -- the callee and the arguments are children, so a fault in either is a fault of the chain
  | .call hc _ hargs =>
    obtain ⟨hl, hl'⟩ := List.append_eq_nil_iff.mp hl
    exact .whole hself rfl
      ((Runs.single (hc.formed hl)).append ((hargs.runs hl').cons_token _))
  | .methodCall hr _ _ _ hargs =>
    obtain ⟨hl, hl'⟩ := List.append_eq_nil_iff.mp hl
    exact .whole hself rfl ((Runs.single (hr.formed hl)).append
      ((((hargs.runs hl').cons_token _).cons_token _).cons_token _))
  | .field hs _ _ => exact .whole hself rfl ((Runs.single (hs.formed hl)).before _)

/-- An atom covers its tokens, or those in its parentheses. -/
theorem IsAtom.covered {ts : List Token} {e : Expr} {late : List LateFault} (h : IsAtom ts e late)
    (hl : late = []) : (TreeNode.expr e).Covered ts := by
  have hself := h.formed hl
  match h with
  | .path _ | .selfWord _ | .int _ | .string _ => exact .whole hself rfl .nil
  | .macroCall _ _ _ he _ =>
    subst hl
    exact .whole hself rfl ((((he.run.before _).cons_token _).cons_token _).cons_token _)
  | .paren _ he _ => exact (he.covered hl).paren _ _

end

/-- A statement covers its tokens, with the semicolon. -/
theorem IsStmt.covers {s : Stmt} (h : IsStmt ts s late) (hl : late = []) :
    (TreeNode.stmt s).Covers ts := by
  have hself : IsStmt ts s [] := hl ▸ h
  cases h with
  | letStmt _ _ _ hd _ hv _ =>
    obtain ⟨hl', rfl⟩ := List.append_eq_nil_iff.mp hl
    exact ⟨hself, rfl, ((((hd.runs hl').append
      ((hv.run.before _).cons_token _)).cons_token _).behind _).cons_token _⟩
  | exprStmt he _ =>
    subst hl
    exact ⟨hself, rfl, he.run.before _⟩

/-- Statements are written in runs. -/
theorem IsStmts.runs {ss : List Stmt} (h : IsStmts ts ss late) (hl : late = []) :
    Runs ts (ss.map .stmt) := by
  induction h with
  | nil _ => exact .nil
  | cons hs _ ih =>
    obtain ⟨rfl, hl⟩ := List.append_eq_nil_iff.mp hl
    exact (Runs.single (n := .stmt _) hs).append (ih hl)

/-! ### Parameters and functions -/

/-- A parameter as written as a node. -/
def WrittenParam.node : WrittenParam → TreeNode
  | .receiver r => .receiver r
  | .named q => .param q

/-- A parameter covers its tokens. -/
theorem IsParam.covers {w : WrittenParam} (h : IsParam ts w late) (hl : late = []) :
    w.node.Covers ts := by
  have hself : IsParam ts w [] := hl ▸ h
  cases h with
  | value _ _ => exact ⟨hself, rfl, .nil⟩
  | @ref _ _ _ isMut _ _ _ =>
    -- `&self` and `&mut self` are two forms of a receiver
    cases isMut with
    | true => exact ⟨hself, rfl, .nil⟩
    | false => exact ⟨hself, rfl, .nil⟩
  | typed _ _ ht =>
    subst hl
    exact ⟨hself, rfl, (ht.run.cons_token _).cons_token _⟩
  | named _ _ ht =>
    subst hl
    exact ⟨hself, rfl, (ht.run.cons_token _).cons_token _⟩

/-- Parameters are written in runs. -/
theorem IsParams.runs {inMethod : Bool} {index : Nat} {ws : List WrittenParam}
    (h : IsParams inMethod index ts ws late) (hl : late = []) : Runs ts (ws.map WrittenParam.node) := by
  have hnode {us : List Token} {w : WrittenParam} (hw : IsParam us w []) : w.node.Formed us :=
    (hw.covers rfl).formed
  -- by induction on the parameters: a comma stands between one run and the next
  induction h with
  | nil _ => exact .nil
  | last hw _ =>
    obtain ⟨-, rfl⟩ := List.append_eq_nil_iff.mp hl
    exact (Runs.single (hnode hw)).before _
  | cons hw _ _ ih =>
    obtain ⟨hl, hl'⟩ := List.append_eq_nil_iff.mp hl
    obtain ⟨-, rfl⟩ := List.append_eq_nil_iff.mp hl
    exact (Runs.single (hnode hw)).append ((ih hl').cons_token _)

/-- Behind the first parameter no receiver is written. -/
theorem IsParams.all_named {inMethod : Bool} {index : Nat} {ws : List WrittenParam}
    (h : IsParams inMethod (index + 1) ts ws late) (hl : late = []) :
    ∃ qs : List Param, ws = qs.map .named := by
  have hnamed {i : Nat} {w : WrittenParam} (hi : i ≠ 0) (h : paramLate inMethod i w = []) :
      ∃ q, w = .named q := by
    cases w with
    | named q => exact ⟨q, rfl⟩
    -- outside of methods a receiver is a fault, and so it is behind the first place
    | receiver r =>
      cases inMethod with
      | false => cases h
      | true =>
        change (if i ≠ 0 then some (LateFault.receiverNotFirst r.loc) else none).toList = [] at h
        rw [if_pos hi] at h
        cases h
  -- the place of a parameter only grows, so it is never the first again
  generalize hi : index + 1 = i at h
  have hne : i ≠ 0 := by omega
  induction h generalizing index with
  | nil _ => exact ⟨[], rfl⟩
  | last _ _ =>
    obtain ⟨hfault, -⟩ := List.append_eq_nil_iff.mp hl
    obtain ⟨q, rfl⟩ := hnamed hne hfault
    exact ⟨[q], rfl⟩
  | cons _ _ _ ih =>
    obtain ⟨hl, hl'⟩ := List.append_eq_nil_iff.mp hl
    obtain ⟨hfault, -⟩ := List.append_eq_nil_iff.mp hl
    obtain ⟨q, rfl⟩ := hnamed hne hfault
    obtain ⟨qs, rfl⟩ := ih hl' rfl (Nat.succ_ne_zero _)
    exact ⟨q :: qs, rfl⟩

/-- There is no receiver among parameters with names. -/
theorem receiverOf_named (qs : List Param) : receiverOf (qs.map .named) = none := by
  induction qs with
  | nil => rfl
  | cons q qs ih => exact ih

/-- Parameters with names are those with names. -/
theorem namedOf_named (qs : List Param) : namedOf (qs.map .named) = qs := by
  induction qs with
  | nil => rfl
  | cons q qs ih => exact congrArg (q :: ·) ih

/-- So the receiver comes first, and the named parameters behind it. -/
theorem IsParams.nodes {inMethod : Bool} {ws : List WrittenParam}
    (h : IsParams inMethod 0 ts ws late) (hl : late = []) : ws.map WrittenParam.node
      = (receiverOf ws).toList.map .receiver ++ (namedOf ws).map .param := by
  -- one parameter of any form, with named ones behind it
  have hfirst (w : WrittenParam) (qs : List Param) :
      (w :: qs.map .named).map WrittenParam.node
        = (receiverOf (w :: qs.map .named)).toList.map .receiver
          ++ (namedOf (w :: qs.map .named)).map .param := by
    have hothers : (qs.map WrittenParam.named).map WrittenParam.node = qs.map .param := by
      rw [List.map_map]
      rfl
    cases w with
    | receiver r =>
      show TreeNode.receiver r :: _ = TreeNode.receiver r :: (namedOf (qs.map .named)).map .param
      rw [hothers, namedOf_named]
    | named q =>
      show TreeNode.param q :: _ = (receiverOf (qs.map .named)).toList.map .receiver
        ++ TreeNode.param q :: (namedOf (qs.map .named)).map .param
      rw [hothers, receiverOf_named, namedOf_named]
      rfl
  -- only the first parameter can be a receiver, or its place would be a fault
  cases h with
  | nil _ => rfl
  | last _ _ => exact hfirst _ []
  | cons _ _ hws =>
    obtain ⟨-, hl'⟩ := List.append_eq_nil_iff.mp hl
    obtain ⟨qs, rfl⟩ := hws.all_named hl'
    exact hfirst _ qs

/-- The statements of a body are written in runs. -/
theorem IsTail.runs {body : Option (List Stmt)} (h : IsTail ts body late) (hl : late = []) :
    Runs ts ((body.getD []).map .stmt) := by
  cases h with
  | none _ => exact .nil
  | body _ hs => exact (hs.runs hl).cons_token _

/-- **A function** covers its tokens, from its first word to the end of its body. -/
theorem IsFunction.covers {inMethod : Bool} {f : FunctionDef} (h : IsFunction inMethod ts f late)
    (hl : late = []) : (TreeNode.function f).Covers ts := by
  have hself : IsFunction inMethod ts f [] := hl ▸ h
  obtain ⟨_, _, _, _, hps, hr, hb⟩ := h
  obtain ⟨hl₁, hl⟩ := List.append_eq_nil_iff.mp hl
  obtain ⟨hl₂, hl₃⟩ := List.append_eq_nil_iff.mp hl
  have hparams := hps.runs hl₁
  rw [hps.nodes hl₁] at hparams
  -- receiver, parameters, result and body are written in this order
  have hchildren := hparams.append ((hr.runs hl₂).append (hb.runs hl₃))
  rw [List.append_assoc (List.map _ _)] at hchildren
  exact ⟨⟨inMethod, hself⟩, rfl,
    (((hchildren.cons_token _).behind _).cons_token _).behind _⟩

/-! ### Items -/

/-- Methods are written in runs. -/
theorem IsMethods.runs {ms : List FunctionDef} (h : IsMethods ts ms late) (hl : late = []) :
    Runs ts (ms.map .function) := by
  induction h with
  | nil _ => exact .nil
  | cons hf _ ih =>
    obtain ⟨rfl, hl⟩ := List.append_eq_nil_iff.mp hl
    exact (Runs.single (n := .function _) ⟨true, hf⟩).append (ih hl)

/-- **An item** covers its tokens. -/
theorem IsItem.covers {i : Item} (h : IsItem ts i late) (hl : late = []) : i.node.Covers ts := by
  have hself : IsItem ts i [] := hl ▸ h
  cases h with
  | structDef _ _ ht _ =>
    exact ⟨hself, rfl, (((ht.runs hl).before _).behind _).cons_token _⟩
  | traitDef _ _ _ hms => exact ⟨hself, rfl, (((hms.runs hl).cons_token _).behind _).cons_token _⟩
  -- the type of a block comes before its methods, as among the children
  | inherentImpl _ ht _ hms =>
    obtain ⟨hl', rfl⟩ := List.append_eq_nil_iff.mp hl
    exact ⟨hself, rfl,
      (ht.run.append ((hms.runs hl').cons_token _)).cons_token _⟩
  | traitImpl _ _ _ ht _ hms =>
    obtain ⟨hl', rfl⟩ := List.append_eq_nil_iff.mp hl
    exact ⟨hself, rfl, (((ht.run.append
      ((hms.runs hl').cons_token _)).cons_token _).behind _).cons_token _⟩
  | function hf => exact hf.covers hl

/-- Items are written in runs. -/
theorem IsItems.runs {items : List Item} (h : IsItems ts items late) (hl : late = []) :
    Runs ts (items.map Item.node) := by
  induction h with
  | nil => exact .nil
  | cons hi _ ih =>
    obtain ⟨hl, hl'⟩ := List.append_eq_nil_iff.mp hl
    exact (Runs.single (hi.covers hl).formed).append (ih hl')

/-! ### Programs -/

/-- **What is formed by tokens** covers some of them. -/
theorem TreeNode.Formed.covered {n : TreeNode} (h : n.Formed ts) : n.Covered ts := by
  cases n with
  | structDef d => exact (IsItem.covers h rfl).covered
  | traitDef d => exact (IsItem.covers h rfl).covered
  | implDef d => exact (IsItem.covers h rfl).covered
  | function f =>
    obtain ⟨inMethod, hf⟩ := h
    exact (IsFunction.covers hf rfl).covered
  | receiver r => exact (IsParam.covers h rfl).covered
  | param q => exact (IsParam.covers h rfl).covered
  | stmt s => exact (IsStmt.covers h rfl).covered
  | expr e => exact IsExpr.covered h rfl
  | closureParam q => exact (IsClosureParam.covers h rfl).covered
  | pattern q => exact IsPattern.covered h
  | type t => exact IsType.covered h rfl

/-- The roots of a program are its items. -/
theorem mem_roots_ofItems {source : String} {items : List Item} {n : TreeNode}
    (h : n ∈ (Program.ofItems source items).roots) : n ∈ items.map Item.node := by
  have hitem {α : Type} {f : Item → Option α} {g : α → TreeNode} (hf : ∀ i a, f i = some a → i.node = g a)
      (h : n ∈ (items.filterMap f).map g) : n ∈ items.map Item.node := by
    obtain ⟨a, ha, rfl⟩ := List.mem_map.mp h
    obtain ⟨i, hi, hia⟩ := List.mem_filterMap.mp ha
    exact hf i a hia ▸ List.mem_map_of_mem hi
  -- whichever kind of item it is, it was picked from the items by its form
  simp only [Program.roots, List.mem_append] at h
  rcases h with h | h | h | h
  all_goals
    refine hitem (fun i a hia => ?_) h
    cases i with
    | _ => cases hia <;> rfl

/-- **Every node of a program** covers a run of tokens of its text, and the children of the node are
written in runs of these tokens, one behind the other. -/
theorem TreeNode.In.covered {source : String} {p : Program} (h : parse source = .ok p) {n : TreeNode}
    (hn : n.In p) : n.Covered (lex source).tokens := by
  -- on the way down to the node: the run of a child lies in the run of its parent
  induction hn with
  | item hroot =>
    obtain ⟨-, items, hitems, rfl⟩ := parse_sound h
    obtain ⟨run, hrun, hformed⟩ := (hitems.runs rfl).formed (mem_roots_ofItems hroot)
    obtain ⟨core, hcore, hcovers⟩ := hformed.covered
    exact ⟨core, hcore.trans hrun, hcovers⟩
  | child _ hchild ih =>
    obtain ⟨tokens, hinfix, hcovers⟩ := ih
    obtain ⟨run, hrun, hformed⟩ := hcovers.children.formed hchild
    obtain ⟨core, hcore, hcovers'⟩ := hformed.covered
    exact ⟨core, (hcore.trans hrun).trans hinfix, hcovers'⟩

end ClosureLint.Syntax
