import ClosureLint.Proofs.Core.Bare

/-!
# Putting one expression in the place of another

* `Expr.replace`, `Function.replace` — the tree with another expression in the place of the one
  that has a given identity.
* `Expr.replace_of_notMem` — a tree without that identity stays as it is.
* `Numbered.replace_above`, `Numbered.replaceAll_below` — so does a tree whose numbers lie elsewhere.
-/

namespace ClosureLint.Core

mutual

/-- The expression with `r` in the place of the expression whose identity is `i`. -/
def Expr.replace (i : NodeId) (r : Expr) : Expr → Expr
  | .path node segments => if node.id = i then r else .path node segments
  | .int node value => if node.id = i then r else .int node value
  | .str node value => if node.id = i then r else .str node value
  | .borrow node isMut subject =>
    if node.id = i then r else .borrow node isMut (Expr.replace i r subject)
  | .deref node subject => if node.id = i then r else .deref node (Expr.replace i r subject)
  | .field node subject name =>
    if node.id = i then r else .field node (Expr.replace i r subject) name
  | .call node callee args =>
    if node.id = i then r else .call node (Expr.replace i r callee) (Expr.replaceAll i r args)
  | .methodCall node receiver method args =>
    if node.id = i then r
    else .methodCall node (Expr.replace i r receiver) method (Expr.replaceAll i r args)
  | .closure node params ret body =>
    if node.id = i then r else .closure node params ret (Expr.replace i r body)

/-- The expressions with `r` in the place of the one whose identity is `i`. -/
def Expr.replaceAll (i : NodeId) (r : Expr) : List Expr → List Expr
  | [] => []
  | e :: es => Expr.replace i r e :: Expr.replaceAll i r es

end

/-- The statement with `r` in the place of the expression whose identity is `i`. -/
def Stmt.replace (i : NodeId) (r : Expr) : Stmt → Stmt
  | .letStmt node pattern declared value => .letStmt node pattern declared (Expr.replace i r value)
  | .exprStmt node e => .exprStmt node (Expr.replace i r e)

/-- The function with `r` in the place of the expression whose identity is `i`. -/
def Function.replace (i : NodeId) (r : Expr) (f : Function) : Function :=
  { f with body := { f.body with stmts := f.body.stmts.map (Stmt.replace i r) } }

variable {i : NodeId} {r : Expr}

theorem Expr.replace_self {e : Expr} (h : e.id = i) : Expr.replace i r e = r := by
  cases e <;> exact if_pos h

theorem Expr.replace_call {node : Node} {callee : Expr} {args : List Expr} (h : node.id ≠ i) :
    Expr.replace i r (.call node callee args)
      = .call node (Expr.replace i r callee) (Expr.replaceAll i r args) := if_neg h

theorem Expr.replace_methodCall {node : Node} {receiver : Expr} {method : String}
    {args : List Expr} (h : node.id ≠ i) :
    Expr.replace i r (.methodCall node receiver method args)
      = .methodCall node (Expr.replace i r receiver) method (Expr.replaceAll i r args) := if_neg h

mutual

/-- Where the identity does not occur, nothing is replaced. -/
theorem Expr.replace_of_notMem : (e : Expr) → (∀ x ∈ e.walk, x.id ≠ i) → Expr.replace i r e = e
  | .path .., h | .int .., h | .str .., h => if_neg (Expr.forall_walk.mp h).1
  | .borrow .., h | .deref .., h | .field .., h | .closure .., h => by
    obtain ⟨hself, hinside⟩ := Expr.forall_walk.mp h
    exact (if_neg hself).trans (by rw [replace_of_notMem _ hinside])
  | .call _ callee args, h | .methodCall _ callee _ args, h => by
    obtain ⟨hself, hinside⟩ := Expr.forall_walk.mp h
    obtain ⟨hcallee, hargs⟩ := List.forall_mem_append.mp hinside
    exact (if_neg hself).trans
      (by rw [replace_of_notMem callee hcallee, replaceAll_of_notMem args hargs])

theorem Expr.replaceAll_of_notMem : (es : List Expr) → (∀ x ∈ Expr.walkAll es, x.id ≠ i) →
    Expr.replaceAll i r es = es
  | [], _ => rfl
  | e :: es, h => by
    obtain ⟨he, hes⟩ := List.forall_mem_append.mp h
    rw [replaceAll, replace_of_notMem e he, replaceAll_of_notMem es hes]

end

theorem Stmt.replace_of_notMem {s : Stmt} (h : ∀ x ∈ s.expr.walk, x.id ≠ i) :
    s.replace i r = s := by
  cases s with
  | letStmt | exprStmt => exact congrArg _ (Expr.replace_of_notMem _ h)

theorem Function.replace_of_notMem {f : Function} (h : ∀ x ∈ f.walk, x.id ≠ i) :
    f.replace i r = f := by
  have hstmts : f.body.stmts.map (Stmt.replace i r) = f.body.stmts := by
    refine (List.map_congr_left fun s hs => ?_).trans (List.map_id _)
    exact Stmt.replace_of_notMem fun x hx => h x (List.mem_flatMap.mpr ⟨s, hs, hx⟩)
  rw [Function.replace, hstmts]

/-! ### Numbered trees -/

/-- An identity above all of a tree's is not in it. -/
theorem Numbered.replace_above {first after : NodeId} {e : Expr}
    (h : Numbered first after e.walk) (hi : after ≤ i) : Expr.replace i r e = e :=
  Expr.replace_of_notMem e fun x hx he => Int.not_lt.mpr hi (he ▸ h.upper x hx)

/-- An identity below all of several trees' is in none of them. -/
theorem Numbered.replaceAll_below {first after : NodeId} {es : List Expr}
    (h : Numbered first after (Expr.walkAll es)) (hi : i < first) :
    Expr.replaceAll i r es = es :=
  Expr.replaceAll_of_notMem es fun x hx he => Int.not_lt.mpr (h.lower x hx) (he ▸ hi)

end ClosureLint.Core
