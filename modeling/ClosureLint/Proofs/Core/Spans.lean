import ClosureLint.Core.Lower
import ClosureLint.Proofs.Core.Walking

/-!
# Spans of lowered expressions

* `Expr.spans_number` — numbering leaves all spans as they are.
* `file_lowerExpr`, `file_lowerFunctions` — a lowered expression and all its parts lie in the file
  that is lowered.
-/

namespace ClosureLint.Core

mutual

/-- Numbering leaves all spans as they are. -/
theorem Expr.spans_number : (e : Expr) → (n : NodeId) →
    (e.number n).1.walk.map Expr.span = e.walk.map Expr.span
  | .path .., _ | .int .., _ | .str .., _ => by simp only [Expr.number, Expr.walk]; rfl
  | .borrow _ _ subject, n | .deref _ subject, n | .field _ subject _, n => by
    simp only [Expr.number, Expr.walk, List.map_cons, spans_number subject]
    rfl
  | .call _ callee args, n => by
    simp only [Expr.number, Expr.walk, List.map_cons, List.map_append, spans_number callee,
      spans_numberAll args]
    rfl
  | .methodCall _ receiver _ args, n => by
    simp only [Expr.number, Expr.walk, List.map_cons, List.map_append, spans_number receiver,
      spans_numberAll args]
    rfl
  | .closure _ params _ body, n => by
    simp only [Expr.number, Expr.walk, List.map_cons, spans_number body]
    rfl

theorem Expr.spans_numberAll : (es : List Expr) → (n : NodeId) →
    (Expr.walkAll (Expr.numberAll n es).1).map Expr.span = (Expr.walkAll es).map Expr.span
  | [], _ => rfl
  | e :: es, n => by
    simp only [Expr.numberAll, Expr.walkAll, List.map_append, spans_number e, spans_numberAll es]

end

/-- Numbering leaves the span of an expression as it is. -/
theorem Expr.span_number (e : Expr) (n : NodeId) : (e.number n).1.span = e.span := by
  have h := congrArg List.head? (Expr.spans_number e n)
  rw [Expr.walk_eq, Expr.walk_eq e] at h
  exact Option.some.inj h

/-- Numbering the statements of a body leaves the spans in it as they are. -/
theorem Stmt.spans_numberAll (ss : List Stmt) (n : NodeId) :
    ((Stmt.numberAll n ss).1.flatMap fun s => s.expr.walk).map Expr.span
      = (ss.flatMap fun s => s.expr.walk).map Expr.span := by
  induction ss generalizing n with
  | nil => rfl
  | cons s ss ih =>
    -- a statement has the spans of its one expression
    have hone : (s.number n).1.expr.walk.map Expr.span = s.expr.walk.map Expr.span := by
      cases s with
      | letStmt node pattern declared value => exact Expr.spans_number value _
      | exprStmt node e => exact Expr.spans_number e _
    rw [Stmt.numberAll]
    simp only [List.flatMap_cons, List.map_append, hone, ih]

/-- Numbering a function leaves the spans in it as they are. -/
theorem Function.spans_number (f : Function) (n : NodeId) :
    (f.number n).1.walk.map Expr.span = f.walk.map Expr.span :=
  Stmt.spans_numberAll f.body.stmts _

/-- A node that is lowered lies in the file that is lowered. -/
theorem Lowering.node_file (c : Lowering) (l : Loc) : (c.node l).span.file = c.file := by
  unfold Lowering.node
  split <;> rfl

mutual

/-- All parts of a lowered expression lie in the file that is lowered. -/
theorem file_lowerExpr : (e : Syntax.Expr) → (c : Lowering) →
    ∀ x ∈ (lowerExpr c e).walk, x.span.file = c.file
  | .path l _, c | .int l _, c | .str l _, c => by
    rw [lowerExpr, Expr.walk]
    exact List.forall_mem_singleton.mpr (c.node_file l)
  | .borrow l _ operand, c | .deref l operand, c | .field l operand _, c => by
    rw [lowerExpr, Expr.walk]
    exact List.forall_mem_cons.mpr ⟨c.node_file l, file_lowerExpr operand c⟩
  | .call l callee args, c | .methodCall l callee _ args, c => by
    rw [lowerExpr, Expr.walk]
    exact List.forall_mem_cons.mpr ⟨c.node_file l,
      List.forall_mem_append.mpr ⟨file_lowerExpr callee c, file_lowerExprs args c⟩⟩
  | .closure l params ret body, c => by
    rw [lowerExpr, Expr.walk]
    exact List.forall_mem_cons.mpr ⟨c.node_file l, file_lowerExpr body c⟩
  | .macroCall _ _ expansion, c => by
    rw [lowerExpr]
    exact file_lowerExpr expansion c.inside

theorem file_lowerExprs : (es : List Syntax.Expr) → (c : Lowering) →
    ∀ x ∈ Expr.walkAll (lowerExprs c es), x.span.file = c.file
  | [], _ => nofun
  | e :: es, c => List.forall_mem_append.mpr ⟨file_lowerExpr e c, file_lowerExprs es c⟩

end

theorem file_lowerFunction (c : Lowering) (f : Syntax.FunctionDef) (body : List Syntax.Stmt) :
    ∀ x ∈ (lowerFunction c f body).walk, x.span.file = c.file := by
  intro x hx
  obtain ⟨s, hs, hx⟩ := List.mem_flatMap.mp hx
  obtain ⟨t, -, rfl⟩ := List.mem_map.mp hs
  cases t with
  | letStmt l isMut name declared value => exact file_lowerExpr value c x hx
  | exprStmt l e => exact file_lowerExpr e c x hx

/-- **All expressions of lowered functions** lie in the file that is lowered. -/
theorem file_lowerFunctions {file : Option String} {n : NodeId} {fs : List Syntax.FunctionDef}
    {F : Function} (hF : .ok F ∈ lowerFunctions file n fs) : ∀ x ∈ F.walk, x.span.file = file := by
  induction fs generalizing n with
  | nil => nomatch hF
  | cons f fs ih =>
    rw [lowerFunctions] at hF
    split at hF
    · rcases List.mem_cons.mp hF with hF | hF
      · nomatch hF
      · exact ih hF
    · next body _ =>
      rcases List.mem_cons.mp hF with hF | hF
      · have hnumbered : F = ((lowerFunction { file := file } f body).number n).1 :=
          Except.ok.inj hF
        intro x hx
        -- numbering changes no span
        have hspan := List.mem_map_of_mem (f := Expr.span) hx
        rw [hnumbered, Function.spans_number] at hspan
        obtain ⟨y, hy, hyx⟩ := List.mem_map.mp hspan
        exact hyx ▸ file_lowerFunction _ f body y hy
      · exact ih hF

end ClosureLint.Core
