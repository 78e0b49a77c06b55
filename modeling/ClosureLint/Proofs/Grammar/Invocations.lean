import ClosureLint.Proofs.Grammar.Nodes
import ClosureLint.Proofs.MacroCode

/-!
# Nodes and the invocations around them

A macro invocation is a node around its argument. Here the nodes of a tree are listed with the number of
invocations around each, and trees are freed from invocations.

* `Expr.withoutMacros` — an expression with every invocation in it replaced by its argument.
* `TreeNode.nested` — the nodes of a tree, each with the number of invocations around it.
* `TreeNode.isLowered` — the nodes in expressions that lowering turns into nodes of a core tree.
* `TreeNode.isInvocation_withoutMacros` — an expression without invocations has none anywhere in it.
-/

namespace ClosureLint.Syntax

/-! ### Trees without invocations -/

mutual

/-- The expression with every macro invocation in it replaced by its argument. -/
def Expr.withoutMacros : Expr → Expr
  | .path l segments => .path l segments
  | .int l value => .int l value
  | .str l value => .str l value
  | .borrow l isMut operand => .borrow l isMut operand.withoutMacros
  | .deref l operand => .deref l operand.withoutMacros
  | .field l subject name => .field l subject.withoutMacros name
  | .call l callee args => .call l callee.withoutMacros (Expr.withoutMacrosAll args)
  | .methodCall l receiver method args =>
    .methodCall l receiver.withoutMacros method (Expr.withoutMacrosAll args)
  | .closure l params ret body => .closure l params ret body.withoutMacros
  | .macroCall _ _ expansion => expansion.withoutMacros

/-- The same for several expressions. -/
def Expr.withoutMacrosAll : List Expr → List Expr
  | [] => []
  | e :: es => e.withoutMacros :: Expr.withoutMacrosAll es

end

mutual

/-- There is nothing left to replace. -/
theorem Expr.withoutMacros_twice : (e : Expr) → e.withoutMacros.withoutMacros = e.withoutMacros
  | .path .. | .int .. | .str .. => rfl
  | .borrow l isMut operand => congrArg (Expr.borrow l isMut) operand.withoutMacros_twice
  | .deref l operand => congrArg (Expr.deref l) operand.withoutMacros_twice
  | .field l subject name => congrArg (Expr.field l · name) subject.withoutMacros_twice
  | .call _ callee args | .methodCall _ callee _ args => by
    have hcallee := callee.withoutMacros_twice
    have hargs := Expr.withoutMacrosAll_twice args
    rw [withoutMacros, withoutMacros, hcallee, hargs]
  | .closure l params ret body => congrArg (Expr.closure l params ret) body.withoutMacros_twice
  | .macroCall _ _ expansion => expansion.withoutMacros_twice

theorem Expr.withoutMacrosAll_twice : (es : List Expr) →
    Expr.withoutMacrosAll (Expr.withoutMacrosAll es) = Expr.withoutMacrosAll es
  | [] => rfl
  | e :: es => List.cons_eq_cons.mpr ⟨e.withoutMacros_twice, Expr.withoutMacrosAll_twice es⟩

end

/-- The expression itself is no invocation any more. -/
theorem Expr.isInvocation_withoutMacros : (e : Expr) → e.withoutMacros.isInvocation = false
  | .macroCall _ _ expansion => expansion.isInvocation_withoutMacros
  | .path .. | .int .. | .str .. | .borrow .. | .deref .. | .field .. | .call .. | .methodCall ..
  | .closure .. => rfl

/-! ### Nodes and the invocations around them -/

namespace TreeNode

/-- Whether the node is a macro invocation. -/
def isInvocation : TreeNode → Bool
  | expr e => e.isInvocation
  | _ => false

private theorem sizeOf_embedded {α : Type} [SizeOf α] {sort : α → TreeNode}
    (hsort : ∀ a, sizeOf (sort a) = 1 + sizeOf a) {l : List α} {m : TreeNode} (h : m ∈ l.map sort) :
    sizeOf m ≤ sizeOf l := by
  obtain ⟨a, ha, rfl⟩ := List.mem_map.mp h
  have hsmall := List.sizeOf_lt_of_mem ha
  rw [hsort]
  omega

private theorem sizeOf_toList {α : Type} [SizeOf α] {sort : α → TreeNode}
    (hsort : ∀ a, sizeOf (sort a) = 1 + sizeOf a) {o : Option α} {m : TreeNode}
    (h : m ∈ o.toList.map sort) : sizeOf m ≤ sizeOf o := by
  obtain ⟨a, ha, rfl⟩ := List.mem_map.mp h
  obtain rfl := Option.mem_toList.mp ha
  rw [hsort]
  exact Nat.le_refl _

/-- A child is smaller than the node that it is right below. -/
theorem sizeOf_child {m n : TreeNode} (h : m ∈ n.children) : sizeOf m < sizeOf n := by
  have hfunction {fs : List FunctionDef} : m ∈ fs.map function → sizeOf m ≤ sizeOf fs :=
    sizeOf_embedded function.sizeOf_spec
  have hreceiver {o : Option Receiver} : m ∈ o.toList.map receiver → sizeOf m ≤ sizeOf o :=
    sizeOf_toList receiver.sizeOf_spec
  have hparam {qs : List Param} : m ∈ qs.map param → sizeOf m ≤ sizeOf qs :=
    sizeOf_embedded param.sizeOf_spec
  have hstmt {ss : List Stmt} : m ∈ ss.map stmt → sizeOf m ≤ sizeOf ss :=
    sizeOf_embedded stmt.sizeOf_spec
  have hexpr {es : List Expr} : m ∈ es.map expr → sizeOf m ≤ sizeOf es :=
    sizeOf_embedded expr.sizeOf_spec
  have hclosureParam {qs : List ClosureParam} : m ∈ qs.map closureParam → sizeOf m ≤ sizeOf qs :=
    sizeOf_embedded closureParam.sizeOf_spec
  have hpattern {qs : List Pattern} : m ∈ qs.map pattern → sizeOf m ≤ sizeOf qs :=
    sizeOf_embedded pattern.sizeOf_spec
  have htype {ts : List TypeExpr} : m ∈ ts.map type → sizeOf m ≤ sizeOf ts :=
    sizeOf_embedded type.sizeOf_spec
  have hdeclared {o : Option TypeExpr} : m ∈ o.toList.map type → sizeOf m ≤ sizeOf o :=
    sizeOf_toList type.sizeOf_spec
  -- a function may have no body
  have hbody {o : Option (List Stmt)} : m ∈ (o.getD []).map stmt → sizeOf m < sizeOf o := by
    intro hm
    cases o with
    | none => nomatch hm
    | some ss =>
      have hss := hstmt hm
      rw [Option.some.sizeOf_spec]
      exact Nat.lt_of_le_of_lt hss (Nat.lt_add_of_pos_left Nat.one_pos)
  cases n with
  | structDef d => cases d; grind [children]
  | traitDef d => cases d; grind [children]
  | implDef d => cases d; grind [children]
  | function f => cases f; grind [children]
  | receiver r => obtain ⟨l, form⟩ := r; cases form <;> grind [children]
  | param q => cases q; grind [children]
  | stmt s => cases s <;> grind [children]
  | expr e => cases e <;> grind [children]
  | closureParam q => cases q; grind [children]
  | pattern q => cases q <;> grind [children]
  | type t => cases t <;> grind [children]

/-- A node and all nodes below it, in the order in which they are written, and with each the number of
macro invocations around it, when there are `k` around the whole. -/
def nested (k : Nat) (n : TreeNode) : List (TreeNode × Nat) :=
  (n, k) :: n.children.attach.flatMap fun m => m.1.nested (if n.isInvocation then k + 1 else k)
termination_by n
decreasing_by exact sizeOf_child m.2

/-- Several nodes and all nodes below them. -/
def nestedAll (k : Nat) (ns : List TreeNode) : List (TreeNode × Nat) := ns.flatMap (nested k)

theorem nested_eq (k : Nat) (n : TreeNode) :
    n.nested k = (n, k) :: nestedAll (if n.isInvocation then k + 1 else k) n.children := by
  have hvals (j : Nat) : n.children.attach.flatMap (fun m => m.1.nested j) = nestedAll j n.children := by
    rw [← List.flatMap_map Subtype.val (nested j), List.attach_map_subtype_val]
    rfl
  rw [nested, hvals]

@[simp] theorem nestedAll_nil (k : Nat) : nestedAll k [] = [] := rfl

@[simp] theorem nestedAll_cons (k : Nat) (n : TreeNode) (ns : List TreeNode) :
    nestedAll k (n :: ns) = n.nested k ++ nestedAll k ns := List.flatMap_cons

@[simp] theorem nestedAll_append (k : Nat) (ms ns : List TreeNode) :
    nestedAll k (ms ++ ns) = nestedAll k ms ++ nestedAll k ns := List.flatMap_append

/-- What holds for a node, and with a node for its children, holds for all nodes below. -/
theorem forall_nested {P : TreeNode → Prop} (hstep : ∀ n, P n → ∀ m ∈ n.children, P m) {k : Nat}
    {n : TreeNode} (hn : P n) : ∀ x ∈ n.nested k, P x.1 := by
  induction k, n using nested.induct with
  | case1 k n ih =>
    intro x hx
    rw [nested_eq] at hx
    rcases List.mem_cons.mp hx with rfl | hx
    · exact hn
    · obtain ⟨m, hm, hx⟩ := List.mem_flatMap.mp hx
      exact ih ⟨m, hm⟩ (hstep n hn m hm) x hx

/-- Whether the node is lowered to a node of the core tree below an expression. An invocation is not,
and types are carried along as they are. -/
def isLowered : TreeNode → Bool
  | expr e => !e.isInvocation
  | closureParam _ | pattern _ => true
  | _ => false

theorem children_type {m : TreeNode} {t : TypeExpr} (hm : m ∈ (type t).children) :
    ∃ t', m = type t' := by
  cases t <;> grind [children]

theorem children_pattern {m : TreeNode} {q : Pattern} (hm : m ∈ (pattern q).children) :
    ∃ q', m = pattern q' := by
  cases q <;> grind [children]

/-- Nothing below a type is lowered. -/
theorem isLowered_type (k : Nat) (t : TypeExpr) : ∀ x ∈ (type t).nested k, x.1.isLowered = false := by
  have hstep : ∀ n : TreeNode, (∃ t, n = type t) → ∀ m ∈ n.children, ∃ t, m = type t := by
    rintro _ ⟨t, rfl⟩ m hm
    exact children_type hm
  intro x hx
  obtain ⟨t', ht'⟩ := forall_nested hstep ⟨t, rfl⟩ x hx
  rw [ht']
  rfl

/-- A node that has no invocations to be replaced, of a sort that stands in expressions. -/
def IsExpanded : TreeNode → Prop
  | expr e => e.withoutMacros = e
  | closureParam _ | pattern _ | type _ => True
  | _ => False

theorem IsExpanded.arg {es : List Expr} (hes : Expr.withoutMacrosAll es = es) {m : TreeNode}
    (hm : m ∈ es.map expr) : m.IsExpanded := by
  obtain ⟨e, he, rfl⟩ := List.mem_map.mp hm
  clear hm
  induction es with
  | nil => nomatch he
  | cons e' es ih =>
    obtain ⟨hhead, htail⟩ := List.cons.inj hes
    rcases List.mem_cons.mp he with rfl | he
    · exact hhead
    · exact ih htail he

theorem IsExpanded.child {m n : TreeNode} (h : n.IsExpanded) (hm : m ∈ n.children) :
    m.IsExpanded := by
  cases n with
  | structDef | traitDef | implDef | function | receiver | param | stmt => exact h.elim
  -- types and patterns hold no expressions
  | type t =>
    obtain ⟨t', rfl⟩ := children_type hm
    trivial
  | pattern q =>
    obtain ⟨q', rfl⟩ := children_pattern hm
    trivial
  | closureParam q =>
    rcases List.mem_cons.mp hm with rfl | hm
    · trivial
    · obtain ⟨t, -, rfl⟩ := List.mem_map.mp hm
      trivial
  | expr e =>
    have hself : e.withoutMacros = e := h
    cases e with
    | path | int | str => nomatch hm
    | borrow l isMut operand =>
      obtain rfl := List.mem_singleton.mp hm
      exact (Expr.borrow.inj hself).2.2
    | deref l operand =>
      obtain rfl := List.mem_singleton.mp hm
      exact (Expr.deref.inj hself).2
    | field l subject name =>
      obtain rfl := List.mem_singleton.mp hm
      exact (Expr.field.inj hself).2.1
    | call l callee args =>
      obtain ⟨-, hcallee, hargs⟩ := Expr.call.inj hself
      rcases List.mem_cons.mp hm with rfl | hm
      · exact hcallee
      · exact .arg hargs hm
    | methodCall l receiver method args =>
      obtain ⟨-, hreceiver, -, hargs⟩ := Expr.methodCall.inj hself
      rcases List.mem_cons.mp hm with rfl | hm
      · exact hreceiver
      · exact .arg hargs hm
    | closure l params ret body =>
      obtain ⟨-, -, -, hbody⟩ := Expr.closure.inj hself
      rcases List.mem_append.mp hm with hm | hm
      · obtain ⟨q, -, rfl⟩ := List.mem_map.mp hm
        trivial
      · rcases List.mem_append.mp hm with hm | hm
        · obtain ⟨t, -, rfl⟩ := List.mem_map.mp hm
          trivial
        · obtain rfl := List.mem_singleton.mp hm
          exact hbody
    | macroCall l name expansion =>
      -- what is left without invocations is none itself
      have hno := (Expr.macroCall l name expansion).isInvocation_withoutMacros
      rw [hself] at hno
      nomatch hno

/-- No invocation is left in an expression without invocations. -/
theorem isInvocation_withoutMacros (k : Nat) (e : Expr) :
    ∀ x ∈ (expr e.withoutMacros).nested k, x.1.isInvocation = false := by
  intro x hx
  have hexpanded := forall_nested (fun n hn m hm => IsExpanded.child hn hm)
    (show (expr e.withoutMacros).IsExpanded from e.withoutMacros_twice) x hx
  obtain ⟨n, j⟩ := x
  cases n with
  | expr e' =>
    have hself : e'.withoutMacros = e' := hexpanded
    exact hself ▸ e'.isInvocation_withoutMacros
  | _ => rfl

end TreeNode

end ClosureLint.Syntax
