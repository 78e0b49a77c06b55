import ClosureLint.Proofs.Checking.BodyByBody

/-!
# How checking reaches the parts of a program

Every statement of a body is checked once on the way through the program, and so is every
expression. What is found out about them stands in the end, and where the whole reports nothing,
neither do they.

* `StmtChecked` — a statement was checked, and its results still stand.
* `checkBody_reaches`, `BodyChecks.reaches` — every statement of a body was, and of every body.
* `BodyChecks.visits` — every expression of every body was visited.
-/

namespace ClosureLint.Typing

open ClosureLint.Core

variable {c : Context} {s s' : State} {file : Option String} {names : StructNames} {d : Declared}
  {next : NodeId} {st : Stmt} {checks : List BodyCheck}

/-- The statement `st` was checked on the way to `final`. Behind that nothing is filed for its
expressions. -/
inductive StmtChecked (c : Context) (st : Stmt) (final : State) : Prop
  | intro {before after : State} (gives : Gives (checkStmt c st) before () after)
    (grows : Extends (¬ Among st.expr.walk ·) (fun _ => True) after final)

/-- What files nothing for the expressions of a statement leaves it checked. -/
theorem StmtChecked.later {I J : NodeId → Prop} (h : StmtChecked c st s) (he : Extends I J s s')
    (hI : ∀ y ∈ st.expr.walk, ¬ I y.id) : StmtChecked c st s' := by
  obtain ⟨hg, hafter⟩ := h
  refine ⟨hg, hafter.trans (he.mono (fun i hi => ?_) fun _ _ => trivial)⟩
  rintro ⟨y, hy, rfl⟩
  exact hI y hy hi

theorem checkStmts_reaches {ss : List Stmt} {u : Unit}
    (hd : Distinct (ss.flatMap fun st => st.expr.walk)) (h : Gives (ss.forM (checkStmt c)) s u s') :
    ∀ st ∈ ss, StmtChecked c st s' := by
  induction ss generalizing s with
  | nil => exact List.forall_mem_nil _
  | cons st ss ih =>
    rw [List.flatMap_cons] at hd
    obtain ⟨-, hds, hapart⟩ := List.pairwise_append.mp hd
    obtain ⟨_, s₁, h₁, h₂⟩ := gives_bind.mp h
    refine List.forall_mem_cons.mpr ⟨?_, ih hds h₂⟩
    -- the other statements file results for their own expressions
    have hrest : Extends (Among (ss.flatMap fun st => st.expr.walk)) (fun _ => True) s₁ s' :=
      (Confined.forM fun st hst => checkStmt_confined st fun y hy =>
        ⟨among_of_mem (List.mem_flatMap.mpr ⟨st, hst, hy⟩), trivial⟩).grows h₂
    exact .later ⟨h₁, .refl s₁⟩ hrest fun y hy => not_among (hapart y hy)

/-- Every statement of a body is reached. -/
theorem checkBody_reaches {f : Function} {type : Ty} {u : Unit} (hd : Distinct f.walk)
    (h : Gives (checkBody c f type) s u s') : ∀ st ∈ f.body.stmts, StmtChecked c st s' := by
  intro st hst
  obtain ⟨_, -, hscope⟩ := gives_lift_bind.mp h
  obtain ⟨s₁, hinside, rfl⟩ := gives_inScope.mp hscope
  obtain ⟨_, s₂, -, hstmts⟩ := gives_bind.mp hinside
  exact (checkStmts_reaches hd hstmts st hst).later
    (Extends.rescope (I := Nowhere) (J := Nowhere) s₁ _) fun _ _ => id

/-- The functions that are checked are the bodies, lowered and numbered. -/
theorem BodyChecks.numbered (h : BodyChecks file names d next s checks s') :
    ∀ k ∈ checks, ∃ a, k.function = ((k.body.lowered file).number a).1 := by
  induction h with
  | nil => exact List.forall_mem_nil _
  | cons _ _ _ ih => exact List.forall_mem_cons.mpr ⟨⟨_, rfl⟩, ih⟩

/-- **Every statement of every body is reached**, and no two expressions of a body share an
identity. -/
theorem BodyChecks.reaches (h : BodyChecks file names d next s checks s') : ∀ k ∈ checks,
    Distinct k.function.walk ∧ ∀ st ∈ k.function.body.stmts,
      StmtChecked (contextOf file names d k.body.selfType) st s' := by
  induction h with
  | nil => exact List.forall_mem_nil _
  | @cons next s s₁ s₂ b reported checks hbody _ hrest ih =>
    have hn := (b.lowered file).numbered_number next
    have hdistinct := Distinct.of_numbered hn
    refine List.forall_mem_cons.mpr ⟨⟨hdistinct, fun st hst => ?_⟩, ih⟩
    refine (checkBody_reaches hdistinct hbody st hst).later hrest.extends fun y hy => ?_
    exact Int.not_le.mpr (hn.upper y (List.mem_flatMap.mpr ⟨st, hst, hy⟩))

/-- **Every expression of every body is visited**, in the context of that body. -/
theorem BodyChecks.visits (h : BodyChecks file names d next s checks s')
    (hf : FreshFrom next s.tables) : ∀ k ∈ checks, ∀ x ∈ k.function.walk,
      Visited (contextOf file names d k.body.selfType) x s' := by
  induction h with
  | nil => exact List.forall_mem_nil _
  | @cons next s s₁ s₂ b reported checks hbody _ hrest ih =>
    have hn := (b.lowered file).numbered_number next
    have hfresh : Fresh ((b.lowered file).number next).1.walk s.tables :=
      hf.mono (fun _ ⟨x, hx, hi⟩ => hi ▸ hn.lower x hx) fun _ ⟨x, hx, hi⟩ => hi ▸ hn.lower x hx
    refine List.forall_mem_cons.mpr ⟨fun x hx => ?_, ih (hf.later hbody)⟩
    have hlt : ∀ y ∈ x.walk, ¬ ((b.lowered file).number next).2 ≤ y.id := fun y hy =>
      Int.not_le.mpr (hn.upper y (Function.walk_trans hx hy))
    exact (checkBody_visits (.of_numbered hn) hfresh hbody x hx).later hrest.extends hlt
      fun y hy => hlt y (Expr.walk_of_inside hy)

end ClosureLint.Typing
