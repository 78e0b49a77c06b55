import ClosureLint.Proofs.Grammar.Complete.Exprs
import ClosureLint.Proofs.Grammar.Holes

/-!
# Where the callee of a call stands

A node of the core tree may stand in parentheses or come out of a macro, and neither leaves a node
of its own. Its span covers the tokens of an expression that gives the node, without what stands
around it.

* `Covers` — the expression among the tokens of a construct that gives its node.
* `IsExpr.covers` — every node has one.
* `IsExpr.callee` — so has the callee of a call.
* `IsExpr.closure_body` — so has the body of a closure.
* `IsExpr.closure_callee`, `IsExpr.closure_method` — the callee of the call, or the name of the
  method, that is a closure's body.
-/

namespace ClosureLint.Syntax

open ClosureLint.Core

/-- Among the tokens `ts` some form an expression that is lowered to the node `x`, whose span they
cover. -/
def Covers (ts : List Token) (x : Core.Expr) : Prop :=
  ∃ L D R d c n, ts = L ++ (D ++ R) ∧ IsExpr D d [] ∧ x = numbered c n d ∧
    x.span = (c.node (extentOf D)).span

variable {x : Core.Expr} {ts : List Token} {e : Syntax.Expr} {late : List LateFault}
  {c : Lowering} {n : NodeId}

/-- More tokens around a construct cover what it covers. -/
theorem Covers.wrap (h : Covers ts x) (before behind : List Token) :
    Covers (before ++ (ts ++ behind)) x := by
  obtain ⟨L, D, R, d, c, n, rfl, hd, hx, hspan⟩ := h
  exact ⟨before ++ L, D, R ++ behind, d, c, n, by simp only [List.append_assoc], hd, hx, hspan⟩

/-- An expression that keeps its node covers it with all its tokens. -/
theorem Covers.whole (h : IsExpr ts e late) (hl : late = [])
    (hspan : (numbered c n e).span = (c.node (extentOf ts)).span) : Covers ts (numbered c n e) :=
  ⟨[], ts, [], e, c, n, by rw [List.append_nil, List.nil_append], hl ▸ h, rfl, hspan⟩

mutual

/-- **The span of a node** is the extent of an expression that gives it. -/
theorem IsExpr.covers {ts : List Token} {e : Syntax.Expr} {late : List LateFault}
    (h : IsExpr ts e late) (hl : late = []) {c : Lowering} : Covers ts (numbered c n e) := by
  match h with
  | .closure hk hp hr hb => exact .whole (.closure hk hp hr hb) hl rfl
  | .unary hu => exact hu.covers hl

/-- What an operand is lowered to. -/
theorem IsUnary.covers {ts : List Token} {e : Syntax.Expr} {late : List LateFault}
    (h : IsUnary ts e late) (hl : late = []) {c : Lowering} : Covers ts (numbered c n e) := by
  match h with
  | .borrow hk hm hu => exact .whole (.unary (.borrow hk hm hu)) hl rfl
  | .deref hk hu => exact .whole (.unary (.deref hk hu)) hl rfl
  | .chain hp => exact hp.covers hl

/-- What a chain is lowered to: every call or field leaves a node. -/
theorem IsPostfix.covers {bare : Bool} {ts : List Token} {e : Syntax.Expr}
    {late : List LateFault} (h : IsPostfix bare ts e late) (hl : late = []) {c : Lowering} :
    Covers ts (numbered c n e) := by
  match h with
  | .atom ha => exact ha.covers hl
  | .call hp hk ha => exact .whole (.unary (.chain (.call hp hk ha))) hl rfl
  | .methodCall hp hd hn hk ha =>
    exact .whole (.unary (.chain (.methodCall hp hd hn hk ha))) hl rfl
  | .field hp hd hn => exact .whole (.unary (.chain (.field hp hd hn))) hl rfl

/-- What has no operator around it. Parentheses leave no node, and neither do invocations. -/
theorem IsAtom.covers {ts : List Token} {e : Syntax.Expr} {late : List LateFault}
    (h : IsAtom ts e late) (hl : late = []) {c : Lowering} : Covers ts (numbered c n e) := by
  match h with
  | .path hp => exact .whole (.unary (.chain (.atom (.path hp)))) hl rfl
  | .selfWord hk => exact .whole (.unary (.chain (.atom (.selfWord hk)))) hl rfl
  | .int hk => exact .whole (.unary (.chain (.atom (.int hk)))) hl rfl
  | .string hk => exact .whole (.unary (.chain (.atom (.string hk)))) hl rfl
  | @IsAtom.macroCall name bang op cl us e _ _ _ _ he _ =>
    -- the expansion is all that is left of an invocation
    have hcovers : Covers us (numbered c.inside n e) := he.covers hl
    exact hcovers.wrap [name, bang, op] [cl]
  | @IsAtom.paren op cl us e _ _ he _ => exact (he.covers hl).wrap [op] [cl]

end

mutual

/-- **The callee of a call** has its tokens among those of the call. -/
theorem IsExpr.callee {ts : List Token} {e : Syntax.Expr} {late : List LateFault}
    (h : IsExpr ts e late) (hl : late = []) {c : Lowering} {n : NodeId} {call : Node}
    {callee : Core.Expr} {args : List Core.Expr} (he : numbered c n e = .call call callee args) :
    Covers ts callee := by
  match h with
  | .closure _ _ _ _ => nomatch he
  | .unary hu => exact hu.callee hl he

/-- An operand that is lowered to a call has no operator. -/
theorem IsUnary.callee {ts : List Token} {e : Syntax.Expr} {late : List LateFault}
    (h : IsUnary ts e late) (hl : late = []) {c : Lowering} {n : NodeId} {call : Node}
    {callee : Core.Expr} {args : List Core.Expr} (he : numbered c n e = .call call callee args) :
    Covers ts callee := by
  match h with
  | .borrow _ _ _ | .deref _ _ => nomatch he
  | .chain hp => exact hp.callee hl he

/-- A chain that is lowered to a call ends in one, or is a single atom. -/
theorem IsPostfix.callee {bare : Bool} {ts : List Token} {e : Syntax.Expr}
    {late : List LateFault} (h : IsPostfix bare ts e late) (hl : late = []) {c : Lowering}
    {n : NodeId} {call : Node} {callee : Core.Expr} {args : List Core.Expr}
    (he : numbered c n e = .call call callee args) : Covers ts callee := by
  match h with
  | .atom ha => exact ha.callee hl he
  | .methodCall _ _ _ _ _ | .field _ _ _ => nomatch he
  | @IsPostfix.call op us vs f _ _ _ hp _ _ =>
    obtain ⟨hl, -⟩ := List.append_eq_nil_iff.mp hl
    obtain ⟨-, rfl, -⟩ := Core.Expr.call.inj he
    exact (hp.covers (n := n + 1) hl).wrap [] (op :: vs)

/-- An atom that is lowered to a call holds one. -/
theorem IsAtom.callee {ts : List Token} {e : Syntax.Expr} {late : List LateFault}
    (h : IsAtom ts e late) (hl : late = []) {c : Lowering} {n : NodeId} {call : Node}
    {callee : Core.Expr} {args : List Core.Expr} (he : numbered c n e = .call call callee args) :
    Covers ts callee := by
  match h with
  | .path _ | .selfWord _ | .int _ | .string _ => nomatch he
  | @IsAtom.macroCall name bang op cl us _ _ _ _ _ hexpansion _ =>
    exact (hexpansion.callee hl (c := c.inside) he).wrap [name, bang, op] [cl]
  | @IsAtom.paren op cl us _ _ _ hinner _ => exact (hinner.callee hl he).wrap [op] [cl]

end

/-! ### The body of a closure -/

/-- Among the tokens `ts` some form an expression that is lowered to the node `x`. -/
def Holds (ts : List Token) (x : Core.Expr) : Prop :=
  ∃ L D R d c n, ts = L ++ (D ++ R) ∧ IsExpr D d [] ∧ x = numbered c n d

/-- More tokens around. -/
theorem Holds.wrap (h : Holds ts x) (before behind : List Token) :
    Holds (before ++ (ts ++ behind)) x := by
  obtain ⟨L, D, R, d, c, n, rfl, hd, hx⟩ := h
  exact ⟨before ++ L, D, R ++ behind, d, c, n, by simp only [List.append_assoc], hd, hx⟩

mutual

/-- **The body of a closure** has its tokens among those of the closure. -/
theorem IsExpr.closure_body {ts : List Token} {e : Syntax.Expr} {late : List LateFault}
    (h : IsExpr ts e late) (hl : late = []) {c : Lowering} {n : NodeId} {node : Node}
    {params : List Core.Param} {ret : Option TypeExpr} {body : Core.Expr}
    (he : numbered c n e = .closure node params ret body) : Holds ts body := by
  match h with
  | @IsExpr.closure bar ps rs bs _ _ _ _ _ _ _ _ _ hb =>
    simp only [List.append_eq_nil_iff] at hl
    obtain ⟨-, -, -, hbody⟩ := Core.Expr.closure.inj he
    -- the bar, the parameters and the result come before the body
    refine ⟨bar :: (ps ++ rs), bs, [], _, c, _, ?_, hl.2.2 ▸ hb, hbody.symm⟩
    simp only [List.append_nil, List.cons_append, List.append_assoc]
  | .unary hu => exact hu.closure_body hl he

/-- An operand that is lowered to a closure has no operator, -/
theorem IsUnary.closure_body {ts : List Token} {e : Syntax.Expr} {late : List LateFault}
    (h : IsUnary ts e late) (hl : late = []) {c : Lowering} {n : NodeId} {node : Node}
    {params : List Core.Param} {ret : Option TypeExpr} {body : Core.Expr}
    (he : numbered c n e = .closure node params ret body) : Holds ts body := by
  match h with
  | .borrow _ _ _ | .deref _ _ => nomatch he
  | .chain hp => exact hp.closure_body hl he

/-- and a chain that is lowered to one has no call behind its atom. -/
theorem IsPostfix.closure_body {bare : Bool} {ts : List Token} {e : Syntax.Expr}
    {late : List LateFault} (h : IsPostfix bare ts e late) (hl : late = []) {c : Lowering}
    {n : NodeId} {node : Node} {params : List Core.Param} {ret : Option TypeExpr}
    {body : Core.Expr} (he : numbered c n e = .closure node params ret body) : Holds ts body := by
  match h with
  | .atom ha => exact ha.closure_body hl he
  | .call _ _ _ | .methodCall _ _ _ _ _ | .field _ _ _ => nomatch he

/-- An atom that is lowered to a closure holds one. -/
theorem IsAtom.closure_body {ts : List Token} {e : Syntax.Expr} {late : List LateFault}
    (h : IsAtom ts e late) (hl : late = []) {c : Lowering} {n : NodeId} {node : Node}
    {params : List Core.Param} {ret : Option TypeExpr} {body : Core.Expr}
    (he : numbered c n e = .closure node params ret body) : Holds ts body := by
  match h with
  | .path _ | .selfWord _ | .int _ | .string _ => nomatch he
  | @IsAtom.macroCall name bang op cl us _ _ _ _ _ hexpansion _ =>
    exact (hexpansion.closure_body hl (c := c.inside) he).wrap [name, bang, op] [cl]
  | @IsAtom.paren op cl us _ _ _ hinner _ => exact (hinner.closure_body hl he).wrap [op] [cl]

end

/-- **The callee of the call in a closure** has its tokens among those of the closure. -/
theorem IsExpr.closure_callee (h : IsExpr ts e []) {node call : Node} {params : List Core.Param}
    {ret : Option TypeExpr} {callee : Core.Expr} {args : List Core.Expr}
    (he : numbered c n e = .closure node params ret (.call call callee args)) :
    Covers ts callee := by
  obtain ⟨L, D, R, d, c', n', rfl, hd, hbody⟩ := h.closure_body rfl he
  exact (hd.callee rfl hbody.symm).wrap L R

/-! ### The name of a method -/

/-- A name among the tokens `ts` is spelled `s`. -/
def Spells (ts : List Token) (s : String) : Prop := ∃ t ∈ ts, t.kind = .name ∧ t.text = s

/-- A name among some tokens is one among more. -/
theorem Spells.mono {us : List Token} {s : String} (h : Spells ts s) (hsub : ts ⊆ us) :
    Spells us s := by
  obtain ⟨t, ht, hk⟩ := h
  exact ⟨t, hsub ht, hk⟩

mutual

/-- **The name of the method that is called** is one of the names of the call. -/
theorem IsExpr.method_name {ts : List Token} {e : Syntax.Expr} {late : List LateFault}
    (h : IsExpr ts e late) {c : Lowering} {n : NodeId} {call : Node} {receiver : Core.Expr}
    {method : String} {args : List Core.Expr}
    (he : numbered c n e = .methodCall call receiver method args) : Spells ts method := by
  match h with
  | .closure _ _ _ _ => nomatch he
  | .unary hu => exact hu.method_name he

/-- An operand that is lowered to a method call has no operator. -/
theorem IsUnary.method_name {ts : List Token} {e : Syntax.Expr} {late : List LateFault}
    (h : IsUnary ts e late) {c : Lowering} {n : NodeId} {call : Node} {receiver : Core.Expr}
    {method : String} {args : List Core.Expr}
    (he : numbered c n e = .methodCall call receiver method args) : Spells ts method := by
  match h with
  | .borrow _ _ _ | .deref _ _ => nomatch he
  | .chain hp => exact hp.method_name he

/-- A chain that is lowered to a method call ends in one, or is a single atom. -/
theorem IsPostfix.method_name {bare : Bool} {ts : List Token} {e : Syntax.Expr}
    {late : List LateFault} (h : IsPostfix bare ts e late) {c : Lowering} {n : NodeId}
    {call : Node} {receiver : Core.Expr} {method : String} {args : List Core.Expr}
    (he : numbered c n e = .methodCall call receiver method args) : Spells ts method := by
  match h with
  | .atom ha => exact ha.method_name he
  | .call _ _ _ | .field _ _ _ => nomatch he
  | @IsPostfix.methodCall _ dot name op us vs _ _ _ _ _ _ hn _ _ =>
    obtain ⟨-, -, rfl, -⟩ := Core.Expr.methodCall.inj he
    exact ⟨name, List.mem_append_right us (List.mem_cons_of_mem dot List.mem_cons_self), hn, rfl⟩

/-- An atom that is lowered to a method call holds one. -/
theorem IsAtom.method_name {ts : List Token} {e : Syntax.Expr} {late : List LateFault}
    (h : IsAtom ts e late) {c : Lowering} {n : NodeId} {call : Node} {receiver : Core.Expr}
    {method : String} {args : List Core.Expr}
    (he : numbered c n e = .methodCall call receiver method args) : Spells ts method := by
  match h with
  | .path _ | .selfWord _ | .int _ | .string _ => nomatch he
  | @IsAtom.macroCall name bang op cl us _ _ _ _ _ hexpansion _ =>
    have hname : Spells us method := hexpansion.method_name (c := c.inside) he
    exact hname.mono fun t ht => List.mem_append_right [name, bang, op] (List.mem_append_left _ ht)
  | @IsAtom.paren op cl us _ _ _ hinner _ =>
    exact (hinner.method_name he).mono fun t ht =>
      List.mem_append_right [op] (List.mem_append_left _ ht)

end

/-- **The name of the method that is called in a closure** is one of the closure's names. -/
theorem IsExpr.closure_method (h : IsExpr ts e []) {node call : Node} {params : List Core.Param}
    {ret : Option TypeExpr} {receiver : Core.Expr} {method : String} {args : List Core.Expr}
    (he : numbered c n e = .closure node params ret (.methodCall call receiver method args)) :
    Spells ts method := by
  obtain ⟨L, D, R, d, c', n', rfl, hd, hbody⟩ := h.closure_body rfl he
  exact (hd.method_name hbody.symm).mono fun t ht =>
    List.mem_append_right L (List.mem_append_left R ht)

end ClosureLint.Syntax
