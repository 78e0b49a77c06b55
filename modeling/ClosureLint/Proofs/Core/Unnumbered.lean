import ClosureLint.Proofs.Core.Replace

/-!
# Trees before they are numbered

Numbering gives every node the identity that its place in the tree calls for, whatever identities
there were before.

* `Expr.unnumbered`, `Function.unnumbered` — a tree that has forgotten its identities.
* `Expr.number_unnumbered`, `Expr.unnumbered_number` — numbering does not look at them, and changes
  nothing else.
* `Expr.width`, `Expr.number_snd` — how many identities a tree takes.
* `IsNumbered` — a tree that is numbered from some identity on.
-/

namespace ClosureLint.Core

open ClosureLint.Syntax (Path TypeExpr)

/-! ### Trees without identities -/

/-- A node that has forgotten its identity. -/
def Node.unnumbered (n : Node) : Node := n.withId 0

mutual

/-- A pattern without identities. -/
def Pattern.unnumbered : Pattern → Pattern
  | .binding node isMut name => .binding node.unnumbered isMut name
  | .tuple node elems => .tuple node.unnumbered (Pattern.unnumberedAll elems)
  | .ref node inner => .ref node.unnumbered inner.unnumbered
  | .wildcard node => .wildcard node.unnumbered

/-- Patterns without identities. -/
def Pattern.unnumberedAll : List Pattern → List Pattern
  | [] => []
  | p :: ps => p.unnumbered :: Pattern.unnumberedAll ps

end

/-- A parameter without identities. -/
def Param.unnumbered (p : Param) : Param :=
  { p with node := p.node.unnumbered, pattern := p.pattern.unnumbered }

mutual

/-- An expression without identities. -/
def Expr.unnumbered : Expr → Expr
  | .path node segments => .path node.unnumbered segments
  | .int node value => .int node.unnumbered value
  | .str node value => .str node.unnumbered value
  | .borrow node isMut subject => .borrow node.unnumbered isMut subject.unnumbered
  | .deref node subject => .deref node.unnumbered subject.unnumbered
  | .field node subject name => .field node.unnumbered subject.unnumbered name
  | .call node callee args =>
    .call node.unnumbered callee.unnumbered (Expr.unnumberedAll args)
  | .methodCall node receiver method args =>
    .methodCall node.unnumbered receiver.unnumbered method (Expr.unnumberedAll args)
  | .closure node params ret body =>
    .closure node.unnumbered (params.map Param.unnumbered) ret body.unnumbered

/-- Expressions without identities. -/
def Expr.unnumberedAll : List Expr → List Expr
  | [] => []
  | e :: es => e.unnumbered :: Expr.unnumberedAll es

end

/-- A statement without identities. -/
def Stmt.unnumbered : Stmt → Stmt
  | .letStmt node pattern declared value =>
    .letStmt node.unnumbered pattern.unnumbered declared value.unnumbered
  | .exprStmt node e => .exprStmt node.unnumbered e.unnumbered

/-- A function without identities. -/
def Function.unnumbered (f : Function) : Function :=
  { f with
    node := f.node.unnumbered
    params := f.params.map Param.unnumbered
    body := ⟨0, f.body.stmts.map Stmt.unnumbered⟩ }

/-- An identity replaces the one that a node had. -/
@[simp] theorem Node.withId_unnumbered (n : Node) (i : NodeId) : n.unnumbered.withId i = n.withId i :=
  rfl

/-- A node forgets a new identity like any other. -/
@[simp] theorem Node.unnumbered_withId (n : Node) (i : NodeId) :
    (n.withId i).unnumbered = n.unnumbered := rfl

/-- The last identity of a node counts. -/
@[simp] theorem Node.withId_withId (n : Node) (i j : NodeId) : (n.withId i).withId j = n.withId j :=
  rfl

/-! ### Numbering does not look at identities -/

mutual

/-- Numbering a pattern does not look at identities. -/
theorem Pattern.number_unnumbered : (p : Pattern) → (a : NodeId) →
    p.unnumbered.number a = p.number a
  | .binding .., _ | .wildcard _, _ => rfl
  | .tuple _ elems, a => by
    rw [unnumbered, number, number, numberAll_unnumberedAll elems]
    rfl
  | .ref _ inner, a => by
    rw [unnumbered, number, number, number_unnumbered inner]
    rfl

/-- Nor does numbering patterns. -/
theorem Pattern.numberAll_unnumberedAll : (ps : List Pattern) → (a : NodeId) →
    Pattern.numberAll a (Pattern.unnumberedAll ps) = Pattern.numberAll a ps
  | [], _ => rfl
  | p :: ps, a => by
    simp only [unnumberedAll, numberAll, number_unnumbered p, numberAll_unnumberedAll ps]

end

mutual

/-- Numbering changes nothing else about a pattern. -/
theorem Pattern.unnumbered_number : (p : Pattern) → (a : NodeId) →
    (p.number a).1.unnumbered = p.unnumbered
  | .binding .., _ | .wildcard _, _ => rfl
  | .tuple _ elems, a => congrArg (Pattern.tuple _) (unnumberedAll_numberAll elems (a + 1))
  | .ref _ inner, a => congrArg (Pattern.ref _) (unnumbered_number inner (a + 1))

/-- Nor about patterns. -/
theorem Pattern.unnumberedAll_numberAll : (ps : List Pattern) → (a : NodeId) →
    Pattern.unnumberedAll (Pattern.numberAll a ps).1 = Pattern.unnumberedAll ps
  | [], _ => rfl
  | p :: ps, a => by
    rw [numberAll, unnumberedAll, unnumberedAll, unnumbered_number p, unnumberedAll_numberAll ps]

end

/-- Numbering a parameter does not look at identities. -/
theorem Param.number_unnumbered (p : Param) (a : NodeId) : p.unnumbered.number a = p.number a := by
  rw [number, number, unnumbered, Pattern.number_unnumbered]
  rfl

/-- Numbering changes nothing else about a parameter. -/
theorem Param.unnumbered_number (p : Param) (a : NodeId) :
    (p.number a).1.unnumbered = p.unnumbered := by
  rw [number, unnumbered, unnumbered, Pattern.unnumbered_number]
  rfl

/-- Numbering parameters does not look at identities. -/
theorem Param.numberAll_unnumbered (ps : List Param) (a : NodeId) :
    Param.numberAll a (ps.map Param.unnumbered) = Param.numberAll a ps := by
  induction ps generalizing a with
  | nil => rfl
  | cons p ps ih => simp only [List.map_cons, numberAll, number_unnumbered, ih]

/-- Numbering changes nothing else about parameters. -/
theorem Param.unnumbered_numberAll (ps : List Param) (a : NodeId) :
    (Param.numberAll a ps).1.map Param.unnumbered = ps.map Param.unnumbered := by
  induction ps generalizing a with
  | nil => rfl
  | cons p ps ih => rw [numberAll, List.map_cons, List.map_cons, unnumbered_number, ih]

mutual

/-- **Numbering starts over.** -/
theorem Expr.number_unnumbered : (e : Expr) → (a : NodeId) → e.unnumbered.number a = e.number a
  | .path .., _ | .int .., _ | .str .., _ => rfl
  | .borrow _ _ subject, a | .deref _ subject, a | .field _ subject _, a => by
    rw [unnumbered, number, number, number_unnumbered subject]
    rfl
  | .call _ callee args, a | .methodCall _ callee _ args, a => by
    simp only [unnumbered, number, number_unnumbered callee, numberAll_unnumberedAll args,
      Node.withId_unnumbered]
  | .closure _ params _ body, a => by
    simp only [unnumbered, number, Param.numberAll_unnumbered, number_unnumbered body,
      Node.withId_unnumbered]

/-- Nor does numbering expressions. -/
theorem Expr.numberAll_unnumberedAll : (es : List Expr) → (a : NodeId) →
    Expr.numberAll a (Expr.unnumberedAll es) = Expr.numberAll a es
  | [], _ => rfl
  | e :: es, a => by
    simp only [unnumberedAll, numberAll, number_unnumbered e, numberAll_unnumberedAll es]

end

mutual

/-- **Numbering changes nothing else** about an expression. -/
theorem Expr.unnumbered_number : (e : Expr) → (a : NodeId) →
    (e.number a).1.unnumbered = e.unnumbered
  | .path .., _ | .int .., _ | .str .., _ => rfl
  | .borrow _ _ subject, a | .deref _ subject, a | .field _ subject _, a => by
    rw [number, unnumbered, unnumbered, unnumbered_number subject]
    rfl
  | .call _ callee args, a | .methodCall _ callee _ args, a => by
    rw [number, unnumbered, unnumbered, unnumbered_number callee, unnumberedAll_numberAll args]
    rfl
  | .closure _ params _ body, a => by
    rw [number, unnumbered, unnumbered, Param.unnumbered_numberAll, unnumbered_number body]
    rfl

/-- Nor about expressions. -/
theorem Expr.unnumberedAll_numberAll : (es : List Expr) → (a : NodeId) →
    Expr.unnumberedAll (Expr.numberAll a es).1 = Expr.unnumberedAll es
  | [], _ => rfl
  | e :: es, a => by
    rw [numberAll, unnumberedAll, unnumberedAll, unnumbered_number e, unnumberedAll_numberAll es]

end

/-- Numbering a statement does not look at identities. -/
theorem Stmt.number_unnumbered (s : Stmt) (a : NodeId) : s.unnumbered.number a = s.number a := by
  cases s with
  | letStmt _ pattern _ value =>
    simp only [unnumbered, number, Pattern.number_unnumbered, Expr.number_unnumbered,
      Node.withId_unnumbered]
  | exprStmt _ e =>
    rw [unnumbered, number, number, Expr.number_unnumbered]
    rfl

/-- Nor does numbering statements. -/
theorem Stmt.numberAll_unnumbered (ss : List Stmt) (a : NodeId) :
    Stmt.numberAll a (ss.map Stmt.unnumbered) = Stmt.numberAll a ss := by
  induction ss generalizing a with
  | nil => rfl
  | cons s ss ih => simp only [List.map_cons, numberAll, number_unnumbered, ih]

/-- Numbering a function does not look at identities. -/
theorem Function.number_unnumbered (f : Function) (a : NodeId) :
    f.unnumbered.number a = f.number a := by
  simp only [number, unnumbered, Param.numberAll_unnumbered, Stmt.numberAll_unnumbered,
    Node.withId_unnumbered]

/-- Numbering changes nothing else about a statement. -/
theorem Stmt.unnumbered_number (s : Stmt) (a : NodeId) :
    (s.number a).1.unnumbered = s.unnumbered := by
  cases s with
  | letStmt n pattern declared value =>
    simp only [number, unnumbered, Pattern.unnumbered_number, Expr.unnumbered_number,
      Node.unnumbered_withId]
  | exprStmt n e =>
    simp only [number, unnumbered, Expr.unnumbered_number, Node.unnumbered_withId]

/-- Nor about statements. -/
theorem Stmt.unnumbered_numberAll (ss : List Stmt) (a : NodeId) :
    (Stmt.numberAll a ss).1.map Stmt.unnumbered = ss.map Stmt.unnumbered := by
  induction ss generalizing a with
  | nil => rfl
  | cons s ss ih => simp only [List.map_cons, numberAll, unnumbered_number, ih]

/-- Numbering changes nothing else about a function. -/
theorem Function.unnumbered_number (f : Function) (a : NodeId) :
    (f.number a).1.unnumbered = f.unnumbered := by
  simp only [number, unnumbered, Param.unnumbered_numberAll, Stmt.unnumbered_numberAll,
    Node.unnumbered_withId]

/-! ### Widths -/

mutual

/-- How many identities a pattern takes. -/
def Pattern.width : Pattern → Int
  | .binding .. | .wildcard _ => 1
  | .tuple _ elems => 1 + Pattern.widthAll elems
  | .ref _ inner => 1 + inner.width

/-- How many identities patterns take. -/
def Pattern.widthAll : List Pattern → Int
  | [] => 0
  | p :: ps => p.width + Pattern.widthAll ps

end

/-- How many identities parameters take. -/
def Param.widthAll : List Param → Int
  | [] => 0
  | p :: ps => 1 + p.pattern.width + Param.widthAll ps

mutual

/-- How many identities an expression takes. -/
def Expr.width : Expr → Int
  | .path .. | .int .. | .str .. => 1
  | .borrow _ _ subject | .deref _ subject | .field _ subject _ => 1 + subject.width
  | .call _ callee args | .methodCall _ callee _ args => 1 + callee.width + Expr.widthAll args
  | .closure _ params _ body => 1 + Param.widthAll params + body.width

/-- How many identities expressions take. -/
def Expr.widthAll : List Expr → Int
  | [] => 0
  | e :: es => e.width + Expr.widthAll es

end

/-- How many identities a statement takes. -/
def Stmt.width : Stmt → Int
  | .letStmt _ pattern _ value => 1 + pattern.width + value.width
  | .exprStmt _ e => 1 + e.width

/-- How many identities statements take. -/
def Stmt.widthAll : List Stmt → Int
  | [] => 0
  | s :: ss => s.width + Stmt.widthAll ss

/-- How many identities a function takes. -/
def Function.width (f : Function) : Int :=
  2 + Param.widthAll f.params + Stmt.widthAll f.body.stmts

mutual

/-- Numbering a pattern takes as many identities as it is wide. -/
theorem Pattern.number_snd : (p : Pattern) → (a : NodeId) → (p.number a).2 = a + p.width
  | .binding .., _ | .wildcard _, _ => rfl
  | .tuple _ elems, a => by
    rw [width, ← Int.add_assoc]
    exact numberAll_snd elems (a + 1)
  | .ref _ inner, a => by
    rw [width, ← Int.add_assoc]
    exact number_snd inner (a + 1)

/-- So does numbering patterns. -/
theorem Pattern.numberAll_snd : (ps : List Pattern) → (a : NodeId) →
    (Pattern.numberAll a ps).2 = a + Pattern.widthAll ps
  | [], a => (Int.add_zero a).symm
  | p :: ps, a => by
    rw [widthAll, ← Int.add_assoc, ← number_snd p]
    exact numberAll_snd ps _

end

/-- So does numbering parameters. -/
theorem Param.numberAll_snd (ps : List Param) (a : NodeId) :
    (Param.numberAll a ps).2 = a + Param.widthAll ps := by
  induction ps generalizing a with
  | nil => exact (Int.add_zero a).symm
  | cons p ps ih =>
    rw [widthAll, ← Int.add_assoc, ← Int.add_assoc, ← Pattern.number_snd]
    exact ih _

mutual

/-- **Numbering an expression takes as many identities as it is wide.** -/
theorem Expr.number_snd : (e : Expr) → (a : NodeId) → (e.number a).2 = a + e.width
  | .path .., _ | .int .., _ | .str .., _ => rfl
  | .borrow _ _ subject, a | .deref _ subject, a | .field _ subject _, a => by
    rw [width, ← Int.add_assoc]
    exact number_snd subject (a + 1)
  | .call _ callee args, a | .methodCall _ callee _ args, a => by
    rw [width, ← Int.add_assoc, ← Int.add_assoc, ← number_snd callee]
    exact numberAll_snd args _
  | .closure _ params _ body, a => by
    rw [width, ← Int.add_assoc, ← Int.add_assoc, ← Param.numberAll_snd]
    exact number_snd body _

/-- So does numbering expressions. -/
theorem Expr.numberAll_snd : (es : List Expr) → (a : NodeId) →
    (Expr.numberAll a es).2 = a + Expr.widthAll es
  | [], a => (Int.add_zero a).symm
  | e :: es, a => by
    rw [widthAll, ← Int.add_assoc, ← number_snd e]
    exact numberAll_snd es _

end

/-- A numbered call: the arguments are numbered behind the callee. -/
theorem Expr.number_call (n : Node) (callee : Expr) (args : List Expr) (a : NodeId) :
    ((Expr.call n callee args).number a).1 = .call (n.withId a) (callee.number (a + 1)).1
      (Expr.numberAll (a + 1 + callee.width) args).1 := by
  rw [← number_snd]
  rfl

/-- A numbered method call: the arguments are numbered behind the receiver. -/
theorem Expr.number_methodCall (n : Node) (receiver : Expr) (method : String) (args : List Expr)
    (a : NodeId) : ((Expr.methodCall n receiver method args).number a).1
      = .methodCall (n.withId a) (receiver.number (a + 1)).1 method
          (Expr.numberAll (a + 1 + receiver.width) args).1 := by
  rw [← number_snd]
  rfl

/-- A numbered closure: the body is numbered behind the parameters. -/
theorem Expr.number_closure (n : Node) (params : List Param) (ret : Option TypeExpr) (body : Expr)
    (a : NodeId) : ((Expr.closure n params ret body).number a).1
      = .closure (n.withId a) (Param.numberAll (a + 1) params).1 ret
          (body.number (a + 1 + Param.widthAll params)).1 := by
  rw [← Param.numberAll_snd]
  rfl

/-- Expressions are numbered one behind the other. -/
theorem Expr.numberAll_cons (e : Expr) (es : List Expr) (a : NodeId) :
    (Expr.numberAll a (e :: es)).1 = (e.number a).1 :: (Expr.numberAll (a + e.width) es).1 := by
  rw [← number_snd]
  rfl

/-- Numbering a statement takes as many identities as it is wide. -/
theorem Stmt.number_snd (s : Stmt) (a : NodeId) : (s.number a).2 = a + s.width := by
  cases s with
  | letStmt _ pattern _ value =>
    rw [width, ← Int.add_assoc, ← Int.add_assoc, ← Pattern.number_snd]
    exact Expr.number_snd value _
  | exprStmt _ e =>
    rw [width, ← Int.add_assoc]
    exact Expr.number_snd e (a + 1)

/-- So does numbering statements. -/
theorem Stmt.numberAll_snd (ss : List Stmt) (a : NodeId) :
    (Stmt.numberAll a ss).2 = a + Stmt.widthAll ss := by
  induction ss generalizing a with
  | nil => exact (Int.add_zero a).symm
  | cons s ss ih =>
    rw [widthAll, ← Int.add_assoc, ← number_snd s]
    exact ih _

/-- So does numbering a function. -/
theorem Function.number_snd (f : Function) (a : NodeId) : (f.number a).2 = a + f.width := by
  show (Stmt.numberAll ((Param.numberAll (a + 1) f.params).2 + 1) f.body.stmts).2 = _
  rw [Stmt.numberAll_snd, Param.numberAll_snd, width]
  change @Eq Int _ _
  omega

/-- Every expression takes an identity for itself. -/
theorem Expr.width_pos (e : Expr) : 0 < e.width := by
  have h := e.lt_number 0
  rwa [number_snd, Int.zero_add] at h

/-! ### Numbered trees -/

/-- An expression that is numbered from `a` on. -/
def IsNumbered (a : NodeId) (e : Expr) : Prop := (e.number a).1 = e

/-- Expressions that are numbered from `a` on. -/
def IsNumberedAll (a : NodeId) (es : List Expr) : Prop := (Expr.numberAll a es).1 = es

section

variable {a : NodeId} {n : Node} {c e : Expr} {as es : List Expr}

/-- A tree that was numbered is numbered. -/
theorem isNumbered_number (e : Expr) (a : NodeId) : IsNumbered a (e.number a).1 := by
  -- numbering once more starts from the same tree without identities
  rw [IsNumbered, ← Expr.number_unnumbered, Expr.unnumbered_number, Expr.number_unnumbered]

/-- The first identity is that of the root. -/
theorem IsNumbered.id_eq (h : IsNumbered a e) : e.id = a := by
  rw [← h]
  cases e <;> rfl

/-- Behind a numbered borrow, its subject is numbered. -/
theorem IsNumbered.of_borrow {isMut : Bool} (h : IsNumbered a (.borrow n isMut e)) :
    IsNumbered (a + 1) e := (Expr.borrow.inj h).2.2

/-- Behind a numbered dereference, its subject is numbered. -/
theorem IsNumbered.of_deref (h : IsNumbered a (.deref n e)) : IsNumbered (a + 1) e :=
  (Expr.deref.inj h).2

/-- Behind a numbered field access, its subject is numbered. -/
theorem IsNumbered.of_field {name : String} (h : IsNumbered a (.field n e name)) :
    IsNumbered (a + 1) e := (Expr.field.inj h).2.1

/-- Behind a numbered call, its callee is numbered, and the arguments behind that. -/
theorem IsNumbered.of_call (h : IsNumbered a (.call n c as)) :
    IsNumbered (a + 1) c ∧ IsNumberedAll (a + 1 + c.width) as := by
  obtain ⟨-, hc, has⟩ := Expr.call.inj h
  rw [Expr.number_snd] at has
  exact ⟨hc, has⟩

/-- Behind a numbered method call, its receiver is numbered, and the arguments behind that. -/
theorem IsNumbered.of_methodCall {method : String} (h : IsNumbered a (.methodCall n c method as)) :
    IsNumbered (a + 1) c ∧ IsNumberedAll (a + 1 + c.width) as := by
  obtain ⟨-, hc, -, has⟩ := Expr.methodCall.inj h
  rw [Expr.number_snd] at has
  exact ⟨hc, has⟩

/-- Behind the parameters of a numbered closure, its body is numbered. -/
theorem IsNumbered.of_closure {params : List Param} {ret : Option TypeExpr}
    (h : IsNumbered a (.closure n params ret e)) :
    IsNumbered (a + 1 + Param.widthAll params) e := by
  obtain ⟨-, -, -, he⟩ := Expr.closure.inj h
  rwa [Param.numberAll_snd] at he

/-- Among numbered expressions, the first is, and the others behind it. -/
theorem IsNumberedAll.of_cons (h : IsNumberedAll a (e :: es)) :
    IsNumbered a e ∧ IsNumberedAll (a + e.width) es := by
  obtain ⟨he, hes⟩ := List.cons.inj h
  rw [Expr.number_snd] at hes
  exact ⟨he, hes⟩

/-- The walk of a numbered tree has the identities from its first on, as many as it is wide. -/
theorem IsNumbered.numbered (h : IsNumbered a e) : Numbered a (a + e.width) e.walk := by
  have hn := e.numbered_number a
  rwa [h, Expr.number_snd] at hn

/-- So do the walks of numbered expressions. -/
theorem IsNumberedAll.numbered (h : IsNumberedAll a es) :
    Numbered a (a + Expr.widthAll es) (Expr.walkAll es) := by
  have hn := Expr.numbered_numberAll es a
  rwa [h, Expr.numberAll_snd] at hn

end

end ClosureLint.Core
