import ClosureLint.Proofs.Checking.Visits

/-!
# How a method call is checked

* `checkExpr_type` — the answer of a check is what is filed as the type.
* `methodCall_run` — the steps of the check of a method call that is filed with a meaning.
* `Visited.methodCall` — a method call that is filed with a meaning was resolved on the type of its
  receiver, which is adjusted exactly when the resolution says so.
-/

namespace ClosureLint.Typing

open ClosureLint.Core

variable {c : Context} {s s' : State} {e : Expr} {t : Ty} {expected : Option Ty}

theorem checkExpr_type (h : Gives (checkExpr c e expected) s t s') :
    s'.tables.types.lookup e.id = some t := by
  rw [checkExpr_eq_filed] at h
  obtain ⟨s₁, -, hset⟩ := gives_filed.mp h
  rw [← gives_modify.mp hset, List.lookup_cons, beq_self_eq_true]

/-- What is filed as the type of an expression is its type. -/
theorem typeOf_of_lookup {q : Query} (h : q.tables.types.lookup e.id = some t) :
    q.typeOf e = t := by
  rw [Query.typeOf, h]
  rfl

/-- What is left behind a method that is known: its meaning, and the adjustment it asks for. -/
private theorem resolvedRest_effect {node : Node} {receiver : Expr} {args : List Expr}
    {r : Resolution} (h : Gives (resolvedRest c node receiver args r) s t s')
    (hnode : ∀ y ∈ Expr.walkAll args, node.id ≠ y.id)
    (hreceiver : ∀ y ∈ Expr.walkAll args, receiver.id ≠ y.id) :
    s'.tables.methods.lookup node.id = some r ∧
      (receiver.id ∈ s'.tables.adjusted ↔
        r.receiverAdjusted = true ∨ receiver.id ∈ s.tables.adjusted) := by
  -- the arguments file under their own nodes only
  have hargs : Confined (Among (Expr.walkAll args)) (Among (Expr.walkAll args)) (do
      let params ← (r.decl.type.substSelf r.step).fnParams
      let ret ← (r.decl.type.substSelf r.step).fnRet
      checkArgs c args (← expectedArgs "method" node args.length (params.drop 1))
      return ret) :=
    (Confined.lift _).bind fun _ => (Confined.lift _).bind fun _ =>
      (expectedArgs_confined _ _ _ _).bind fun _ =>
        (checkArgs_confined args _ fun _ hx => ⟨among_of_mem hx, among_of_mem hx⟩).bind
          fun _ => .pure _
  obtain ⟨_, s₁, hset, hrest⟩ := gives_bind.mp h
  have hmethod : s₁.tables.methods.lookup node.id = some r := by
    rw [← gives_modify.mp hset, List.lookup_cons, beq_self_eq_true]
  have hadjusted : s₁.tables.adjusted = s.tables.adjusted := by rw [← gives_modify.mp hset]
  dsimp only at hrest
  split at hrest
  · next hr =>
    obtain ⟨_, s₂, hadjust, hrest₂⟩ := gives_bind.mp hrest
    have he := hargs.grows hrest₂
    rw [he.tables.methods _ (not_among hnode), he.tables.adjusted _ (not_among hreceiver),
      ← gives_modify.mp hadjust]
    exact ⟨hmethod, fun _ => .inl hr, fun _ => List.mem_cons_self⟩
  · next hr =>
    have he := hargs.grows hrest
    rw [he.tables.methods _ (not_among hnode), he.tables.adjusted _ (not_among hreceiver),
      hadjusted]
    exact ⟨hmethod, .inr, fun h => h.resolve_left hr⟩

/-- A method call is resolved, or its arguments are all that is left to check. -/
private theorem methodRest_cases {node : Node} {receiver : Expr} {method : String}
    {args : List Expr} {type : Ty} (h : Gives (methodRest c node receiver method args type) s t s') :
    (∃ r, c.registry.resolveMethod c.targets type method = .ok r ∧
        Gives (resolvedRest c node receiver args r) s t s') ∨
      Extends (Among (Expr.walkAll args)) (Among (Expr.walkAll args)) s s' := by
  -- without a resolution nothing is filed but what the arguments file
  have hargs : Confined (Among (Expr.walkAll args)) (Among (Expr.walkAll args))
      (checkArgs c args []) :=
    checkArgs_confined args [] fun _ hx => ⟨among_of_mem hx, among_of_mem hx⟩
  unfold methodRest at h
  split at h
  · exact .inr ((hargs.bind fun _ => .pure _).grows h)
  · split at h
    · exact absurd h not_gives_throw
    · exact .inr (((report_confined _ _).bind fun _ => hargs.bind fun _ => .pure _).grows h)
    · next r hr => exact .inl ⟨r, hr, h⟩

/-- What a method call means, if it is filed with a meaning, is what it was resolved to. -/
theorem methodCall_run {node : Node} {receiver : Expr} {method : String} {args : List Expr}
    {r : Resolution} (h : Gives (checkExpr c (.methodCall node receiver method args) expected) s t s')
    (hd : Distinct (Expr.methodCall node receiver method args).walk)
    (hfresh : s.tables.methods.lookup node.id = none)
    (hr : s'.tables.methods.lookup node.id = some r) :
    ∃ type s₁ s₂, Gives (checkExpr c receiver none) s type s₁ ∧
      c.registry.resolveMethod c.targets type method = .ok r ∧
      Gives (resolvedRest c node receiver args r) s₁ t s₂ ∧ Gives (setType node.id t) s₂ () s' := by
  rw [checkExpr_methodCall] at h
  obtain ⟨s₂, hcall, hset⟩ := gives_filed.mp h
  obtain ⟨type, s₁, hreceiver, hrest⟩ := gives_bind.mp hcall
  -- the call, its receiver and its arguments have nodes of their own
  obtain ⟨hnode, hparts⟩ := List.pairwise_cons.mp hd
  obtain ⟨-, -, hapart⟩ := List.pairwise_append.mp hparts
  have hnodeArgs : ∀ y ∈ Expr.walkAll args, node.id ≠ y.id :=
    fun y hy => hnode y (List.mem_append_right _ hy)
  have hr₂ : s₂.tables.methods.lookup node.id = some r := by
    rw [← gives_modify.mp hset] at hr
    exact hr
  refine ⟨type, s₁, s₂, hreceiver, ?_⟩
  rcases methodRest_cases hrest with ⟨r', hresolve, hresolved⟩ | hextends
  · obtain ⟨hmethod, -⟩ := resolvedRest_effect hresolved hnodeArgs (hapart receiver receiver.mem_walk_self)
    obtain rfl : r' = r := Option.some.inj (hmethod.symm.trans hr₂)
    exact ⟨hresolve, hresolved, hset⟩
  · -- without a method nothing is filed about what the call means
    have hnone : s₂.tables.methods.lookup node.id = none :=
      (hextends.tables.methods _ (not_among hnodeArgs)).trans <|
        ((checkExpr_extends hreceiver).tables.methods _
          (not_among fun y hy => hnode y (List.mem_append_left _ hy))).trans hfresh
    nomatch hnone.symm.trans hr₂

/-- **A method call with a meaning** was resolved on the type of its receiver, which is adjusted
exactly when the resolution says so. -/
theorem Visited.methodCall {node : Node} {receiver : Expr} {method : String} {args : List Expr}
    {final : State} {r : Resolution}
    (h : Visited c (.methodCall node receiver method args) final)
    (hd : Distinct (Expr.methodCall node receiver method args).walk)
    (hr : final.tables.methods.lookup node.id = some r) :
    ∃ type, final.tables.types.lookup receiver.id = some type ∧
      c.registry.resolveMethod c.targets type method = .ok r ∧
      (receiver.id ∈ final.tables.adjusted ↔ r.receiverAdjusted = true) := by
  obtain ⟨hfresh, hg, -, hfinal⟩ := h
  have hwalk := Expr.mem_walk_self (.methodCall node receiver method args)
  rw [hfinal.methods node.id (among_of_mem hwalk)] at hr
  obtain ⟨type, s₁, s₂, hreceiver, hresolve, hresolved, hset⟩ :=
    methodCall_run hg hd (hfresh.methods _ (among_of_mem hwalk)) hr
  obtain ⟨hnode, hd₁⟩ := List.pairwise_cons.mp hd
  obtain ⟨hdr, -, hapart⟩ := List.pairwise_append.mp hd₁
  have hself := receiver.mem_walk_self
  have hmem : receiver ∈ (Expr.methodCall node receiver method args).inside :=
    List.mem_append_left _ hself
  -- what the receiver's own check leaves about the receiver
  have hadjusted₁ : receiver.id ∉ s₁.tables.adjusted := by
    have hinside : ¬ Among receiver.inside receiver.id :=
      not_among (List.pairwise_cons.mp (receiver.walk_eq ▸ hdr)).1
    rw [(checkExpr_extends hreceiver).tables.adjusted _ hinside,
      hfresh.adjusted _ (among_of_mem (List.mem_cons_of_mem _ hmem))]
    exact List.not_mem_nil
  have htype₂ : s₂.tables.types.lookup receiver.id = some type := by
    have hextends := (resolvedRest_confined (I := fun i => i = node.id ∨ Among (Expr.walkAll args) i)
      (J := fun i => i = receiver.id ∨ Among (Expr.walkAll args) i) (.inl rfl) (.inl rfl)
      fun expected => checkArgs_confined args expected fun _ hx =>
        ⟨.inr (among_of_mem hx), .inr (among_of_mem hx)⟩).grows hresolved
    rw [hextends.tables.types _ fun h => h.elim (fun h => hnode receiver
      (List.mem_append_left _ hself) h.symm) (not_among (hapart receiver hself))]
    exact checkExpr_type hreceiver
  obtain ⟨-, hadjusted⟩ := resolvedRest_effect hresolved
    (fun y hy => hnode y (List.mem_append_right _ hy)) (hapart receiver hself)
  obtain rfl := gives_modify.mp hset
  refine ⟨type, ?_, hresolve, ?_⟩
  · have hne : (receiver.id == node.id) = false :=
      beq_eq_false_iff_ne.mpr (hnode receiver (List.mem_append_left _ hself)).symm
    rw [hfinal.types _ (among_of_mem (List.mem_cons_of_mem _ hmem)), List.lookup_cons, hne]
    exact htype₂
  · rw [hfinal.adjusted _ (among_of_mem hmem)]
    exact hadjusted.trans (or_iff_left hadjusted₁)

end ClosureLint.Typing
