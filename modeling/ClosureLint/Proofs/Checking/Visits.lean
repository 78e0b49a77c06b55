import ClosureLint.Proofs.Checking.Growth

/-!
# Every expression is checked once

The checker comes to each expression of a body in some state, and what it files there for the
expression and its parts is what the results say in the end. A law about one expression can so be
read off the one check of it.

* `Visited` — an expression was checked, and the results still say what that check found out.
* `checkExpr_visits`, `checkBody_visits`, `checkBodies_visits` — every expression of the walk was.
-/

namespace ClosureLint.Typing

open ClosureLint.Core
open ClosureLint.Syntax (Path TypeExpr)

variable {c : Context} {s s' s'' : State} {I J : NodeId → Prop} {e x : Expr} {t : Ty}
  {expected : Option Ty} {X Y : List Expr}

/-- `i` is the identity of one of `X`. -/
def Among (X : List Expr) (i : NodeId) : Prop := ∃ x ∈ X, x.id = i

/-- No node. -/
def Nowhere (_ : NodeId) : Prop := False

/-- An expression is among those that it is one of. -/
theorem among_of_mem (h : x ∈ X) : Among X x.id := ⟨x, h, rfl⟩

/-- No two of `X` share an identity. -/
def Distinct (X : List Expr) : Prop := X.Pairwise fun x y => x.id ≠ y.id

/-- Identities that increase are different. -/
theorem Distinct.of_numbered {a b : NodeId} (h : Numbered a b X) : Distinct X :=
  h.sorted.imp fun h => Int.ne_of_lt h

/-- Nothing is filed under the nodes of `X`. -/
def Fresh (X : List Expr) (t : Tables) : Prop := Tables.Agree (Among X) (Among X) {} t

/-- What is fresh for some expressions is so for fewer. -/
theorem Fresh.mono (h : Fresh X s.tables) (hY : ∀ y ∈ Y, y ∈ X) : Fresh Y s.tables :=
  Tables.Agree.mono h (fun _ ⟨y, hy, hi⟩ => ⟨y, hY y hy, hi⟩) fun _ ⟨y, hy, hi⟩ => ⟨y, hY y hy, hi⟩

/-- Nothing is filed under `X` as long as only others get results. -/
theorem Fresh.later (h : Fresh X s.tables) (he : Extends I J s s')
    (hX : ∀ x ∈ X, ¬ I x.id ∧ ¬ J x.id) : Fresh X s'.tables :=
  h.trans <| he.tables.mono (fun _ ⟨x, hx, hi⟩ => hi ▸ (hX x hx).1)
    fun _ ⟨x, hx, hi⟩ => hi ▸ (hX x hx).2

/-- `x` was checked on the way to `final`, nothing having been filed for it before. In `final` the
results still say the same, except that `x` itself may have been adjusted by then. -/
inductive Visited (c : Context) (x : Expr) (final : State) : Prop where
  | intro {expected : Option Ty} {type : Ty} {before after : State}
    (fresh : Fresh x.walk before.tables)
    (gives : Gives (checkExpr c x expected) before type after)
    (diagnostics : after.diagnostics <+: final.diagnostics)
    (tables : Tables.Agree (Among x.walk) (Among x.inside) after.tables final.tables)

/-- Later steps that keep to other nodes leave it so. -/
theorem Visited.later (h : Visited c x s) (he : Extends I J s s')
    (hI : ∀ y ∈ x.walk, ¬ I y.id) (hJ : ∀ y ∈ x.inside, ¬ J y.id) : Visited c x s' := by
  obtain ⟨hf, hg, hd, ht⟩ := h
  refine ⟨hf, hg, hd.trans he.diagnostics, ht.trans (he.tables.mono ?_ ?_)⟩
  · rintro _ ⟨y, hy, rfl⟩
    exact hI y hy
  · rintro _ ⟨y, hy, rfl⟩
    exact hJ y hy

/-- What checking an expression touches. -/
theorem checkExpr_extends (h : Gives (checkExpr c e expected) s t s') :
    Extends (Among e.walk) (Among e.inside) s s' :=
  (checkExpr_confined e expected (among_of_mem e.mem_walk_self) fun _ hx =>
    ⟨among_of_mem (Expr.walk_of_inside hx), among_of_mem hx⟩).grows h

/-- What checking arguments touches. -/
theorem checkArgs_extends {es : List Expr} {expected : List (Option Ty)} {u : Unit}
    (h : Gives (checkArgs c es expected) s u s') :
    Extends (Among (Expr.walkAll es)) (Among (Expr.walkAll es)) s s' :=
  (checkArgs_confined es expected fun _ hx => ⟨among_of_mem hx, among_of_mem hx⟩).grows h

/-- What accepting an expression touches. -/
theorem coerceTo_extends {u : Unit} (h : Gives (coerceTo c e t expected) s u s') :
    Extends Nowhere (· = e.id) s s' :=
  (coerceTo_confined (J := (· = e.id)) rfl t expected).grows h

/-- Nodes without a shared identity keep apart. -/
theorem not_among {i : NodeId} (h : ∀ y ∈ Y, i ≠ y.id) : ¬ Among Y i :=
  fun ⟨y, hy, he⟩ => h y hy he.symm

/-- What is checked behind an expression leaves it visited. -/
private theorem Visited.later_apart (h : Visited c x s) (hx : x ∈ e.walk)
    (he : Extends (Among Y) (Among Y) s s') (hY : ∀ y ∈ e.walk, ∀ z ∈ Y, y.id ≠ z.id) :
    Visited c x s' :=
  h.later he (fun y hy => not_among (hY y (Expr.walk_trans hx hy)))
    fun y hy => not_among (hY y (Expr.walk_trans hx (Expr.walk_of_inside hy)))

/-- An expression stays visited when the one around it all is adjusted. -/
private theorem Visited.later_adjust (h : Visited c x s) (hx : x ∈ e.walk)
    (he : Extends I (· = e.id) s s') (hd : Distinct e.walk) (hI : ∀ y ∈ e.walk, ¬ I y.id) :
    Visited c x s' := by
  refine h.later he (fun y hy => hI y (Expr.walk_trans hx hy)) fun y hy h => ?_
  rw [Expr.walk_eq] at hd
  exact (List.pairwise_cons.mp hd).1 y (Expr.inside_trans e hx hy) h.symm

/-- What is checked in front of `Y` leaves it fresh. -/
private theorem Fresh.later_apart (h : Fresh Y s.tables)
    (he : Extends (Among e.walk) (Among e.inside) s s')
    (hY : ∀ x ∈ e.walk, ∀ y ∈ Y, x.id ≠ y.id) : Fresh Y s'.tables :=
  h.later he fun y hy => ⟨not_among fun x hx h => hY x hx y hy h.symm,
    not_among fun x hx h => hY x (Expr.walk_of_inside hx) y hy h.symm⟩

/-! ### Where parts are checked -/

/-- On the way `m` takes, one of the steps `inner` is taken. Before it results are filed for `I` and
adjustments made in `J`, after it adjustments are made in `K` and nothing else. -/
structure Passes {α β ι : Type} (I J K : NodeId → Prop) (m : Check α) (inner : ι → Check β) :
    Prop where
  passes : ∀ {s a s'}, Gives m s a s' → ∃ i s₁ b s₂, Extends I J s s₁ ∧
    Gives (inner i) s₁ b s₂ ∧ Extends Nowhere K s₂ s'

namespace Passes

variable {α β γ ι : Type} {inner : ι → Check β} {K : NodeId → Prop}

/-- Some steps come before the part is checked, -/
theorem after {m : Check α} {f : α → Check γ} (hm : Confined I J m)
    (hf : ∀ a, Passes I J K (f a) inner) : Passes I J K (m >>= f) inner where
  passes h := by
    obtain ⟨a, s₁, h₁, h₂⟩ := gives_bind.mp h
    obtain ⟨i, s₂, b, s₃, he, hi, hr⟩ := (hf a).passes h₂
    exact ⟨i, s₂, b, s₃, (hm.grows h₁).trans he, hi, hr⟩

/-- the part is checked first, -/
theorem here {i : ι} {f : β → Check γ} (hf : ∀ b, Confined Nowhere K (f b)) :
    Passes I J K (inner i >>= f) inner where
  passes h := by
    obtain ⟨b, s₁, h₁, h₂⟩ := gives_bind.mp h
    exact ⟨i, _, b, s₁, .refl _, h₁, (hf b).grows h₂⟩

/-- or some steps come behind it. -/
theorem before {m : Check α} {f : α → Check γ} (hm : Passes I J K m inner)
    (hf : ∀ a, Confined Nowhere K (f a)) : Passes I J K (m >>= f) inner where
  passes h := by
    obtain ⟨a, s₁, h₁, h₂⟩ := gives_bind.mp h
    obtain ⟨i, s₂, b, s₃, he, hi, hr⟩ := hm.passes h₁
    exact ⟨i, s₂, b, s₃, he, hi, hr.trans ((hf a).grows h₂)⟩

/-- A scope around all this files nothing. -/
theorem inScope {m : Check α} (h : Passes I J K m inner) :
    Passes I J K (Typing.inScope m) inner :=
  .after .rescope fun _ => h.before fun _ => Confined.rescope.bind fun _ => .pure _

end Passes

/-- What follows the callee of a call comes to check the arguments. -/
private theorem callRest_passes {node : Node} {callee : Expr} {args : List Expr} {type : Ty} :
    Passes I J Nowhere (callRest c node callee args type) (checkArgs c args) := by
  unfold callRest
  -- a function, or something else that may have to be reported
  split
  · exact .after (.lift _) fun _ => .after (.lift _) fun _ =>
      .after (expectedArgs_confined _ _ _ _) fun _ => .here fun _ => .pure _
  · split
    · exact .after (.lift _) fun _ => .after (report_confined _ _) fun _ => .here fun _ => .pure _
    · exact .here fun _ => .pure _

/-- What follows the receiver of a method call comes to check the arguments. It may adjust the receiver.
-/
private theorem methodRest_passes {node : Node} {receiver : Expr} {method : String}
    {args : List Expr} {type : Ty} (hI : I node.id) (hJ : J receiver.id) :
    Passes I J Nowhere (methodRest c node receiver method args type) (checkArgs c args) := by
  unfold methodRest
  split
  · exact .here fun _ => .pure _
  -- the method is found or not; if it is refused, that is reported
  · split
    · exact ⟨fun h => absurd h not_gives_throw⟩
    · exact .after (report_confined _ _) fun _ => .here fun _ => .pure _
    · unfold resolvedRest
      refine .after (setMethod_confined hI _) fun _ => ?_
      dsimp only
      split
      · exact .after (setAdjusted_confined hJ) fun _ => .after (.lift _) fun _ =>
          .after (.lift _) fun _ => .after (expectedArgs_confined _ _ _ _) fun _ =>
            .here fun _ => .pure _
      · exact .after (.lift _) fun _ => .after (.lift _) fun _ =>
          .after (expectedArgs_confined _ _ _ _) fun _ => .here fun _ => .pure _

/-- The inside of a closure comes to check the body. -/
private theorem closureInside_passes {params : List Param} {ret : Option TypeExpr} {body : Expr}
    {signature : Option (List Ty × Ty)} :
    Passes I J (· = body.id) (closureInside c params ret body signature) (checkExpr c body) := by
  refine .after (bindParams_confined _ _) fun _ => .after (writtenOr_confined _ _) fun _ =>
    .here fun _ => ?_
  exact Confined.bind (coerceTo_confined (J := (· = body.id)) rfl _ _) fun _ =>
    (Confined.mapM fun p _ => paramType_confined p).bind fun _ => .pure _

/-! ### Expressions -/

/-- The expressions inside were visited before the type of the whole is filed, under a node that
is none of theirs. -/
private theorem visits_filed {m : Check Ty} (hd : Distinct e.walk)
    (hf : Fresh e.walk s.tables) (h : Gives (checkExpr c e expected) s t s')
    (he : checkExpr c e expected = filed e.id m)
    (hin : ∀ s₁, Gives m s t s₁ → ∀ x ∈ e.inside, Visited c x s₁) :
    ∀ x ∈ e.walk, Visited c x s' := by
  refine Expr.forall_walk.mpr ⟨⟨hf, h, List.prefix_refl _, .refl _⟩, fun x hx => ?_⟩
  obtain ⟨s₁, hm, hset⟩ := gives_filed.mp (he ▸ h)
  rw [Expr.walk_eq] at hd
  have hne := (List.pairwise_cons.mp hd).1
  refine (hin s₁ hm x hx).later
    ((setType_confined (I := (· = e.id)) (J := Nowhere) rfl t).grows hset) ?_ fun _ _ h => h
  refine Expr.forall_walk.mpr ⟨fun h => hne x hx h.symm, fun y hy h => ?_⟩
  exact hne y (Expr.inside_trans e (Expr.walk_of_inside hx) hy) h.symm

/-- What is visited in the one part of an expression. -/
private theorem visits_part {m : Check Ty} {part : Expr}
    (ih : ∀ {expected : Option Ty} {s s' : State} {t : Ty}, Distinct part.walk →
      Fresh part.walk s.tables → Gives (checkExpr c part expected) s t s' →
      ∀ x ∈ part.walk, Visited c x s')
    (hm : Passes Nowhere Nowhere (· = part.id) m (checkExpr c part)) (hd : Distinct part.walk)
    (hf : Fresh part.walk s.tables) (h : Gives m s t s') : ∀ x ∈ part.walk, Visited c x s' := by
  intro x hx
  obtain ⟨expected, s₁, t₁, s₂, he, hg, hr⟩ := hm.passes h
  -- what comes before the part files nothing
  have hf₁ := hf.later he fun _ _ => ⟨fun h => h, fun h => h⟩
  exact (ih hd hf₁ hg x hx).later_adjust hx hr hd fun _ _ h => h

/-- What is visited in a first part and in the arguments behind it. -/
private theorem visits_parts {node : Node} {part : Expr} {args : List Expr} {rest : Ty → Check Ty}
    (ih : ∀ {expected : Option Ty} {s s' : State} {t : Ty}, Distinct part.walk →
      Fresh part.walk s.tables → Gives (checkExpr c part expected) s t s' →
      ∀ x ∈ part.walk, Visited c x s')
    (ihs : ∀ {expected : List (Option Ty)} {s s' : State} {u : Unit},
      Distinct (Expr.walkAll args) → Fresh (Expr.walkAll args) s.tables →
      Gives (checkArgs c args expected) s u s' → ∀ x ∈ Expr.walkAll args, Visited c x s')
    (hrest : ∀ type, Passes (· = node.id) (· = part.id) Nowhere (rest type) (checkArgs c args))
    (hd : Distinct (part.walk ++ Expr.walkAll args))
    (hnode : ∀ x ∈ part.walk ++ Expr.walkAll args, x.id ≠ node.id)
    (hf : Fresh (part.walk ++ Expr.walkAll args) s.tables)
    (h : Gives (do let type ← checkExpr c part none; rest type) s t s') :
    ∀ x ∈ part.walk ++ Expr.walkAll args, Visited c x s' := by
  obtain ⟨hdp, hda, hapart⟩ := List.pairwise_append.mp hd
  obtain ⟨type, s₁, h₁, h₂⟩ := gives_bind.mp h
  obtain ⟨expected, s₂, _, s₃, he, ha, hr⟩ := (hrest type).passes h₂
  intro x hx
  rcases List.mem_append.mp hx with hx | hx
  · -- the first part was visited, and what comes behind it keeps to other nodes
    have hv := ih hdp (hf.mono fun _ => List.mem_append_left _) h₁ x hx
    have hv₂ := hv.later_adjust hx he hdp fun y hy => hnode y (List.mem_append_left _ hy)
    have hv₃ := hv₂.later_apart hx (checkArgs_extends ha) hapart
    exact hv₃.later hr (fun _ _ h => h) fun _ _ h => h
  · -- when the arguments are checked, nothing has been filed for them yet
    have hfa := (hf.mono fun _ => List.mem_append_right _).later_apart (checkExpr_extends h₁) hapart
    have hfa₂ := hfa.later he fun y hy =>
      ⟨hnode y (List.mem_append_right _ hy), fun h => hapart part part.mem_walk_self y hy h.symm⟩
    exact (ihs hda hfa₂ ha x hx).later hr (fun _ _ h => h) fun _ _ h => h

mutual

/-- **Every expression is checked once.** -/
theorem checkExpr_visits : (e : Expr) → {expected : Option Ty} → {s s' : State} → {t : Ty} →
    Distinct e.walk → Fresh e.walk s.tables → Gives (checkExpr c e expected) s t s' →
    ∀ x ∈ e.walk, Visited c x s'
  | .path .., _, _, _, _, hd, hf, h => visits_filed hd hf h rfl nofun
  | .int .., _, _, _, _, hd, hf, h => visits_filed hd hf h rfl nofun
  | .str .., _, _, _, _, hd, hf, h => visits_filed hd hf h rfl nofun
  | .borrow _ _ subject, _, _, _, _, hd, hf, h =>
    visits_filed hd hf h (checkExpr_borrow ..) fun _ hm =>
      visits_part (checkExpr_visits subject) (.after (.lift _) fun _ => .here fun _ => .pure _)
        (List.pairwise_cons.mp hd).2 (hf.mono fun _ => List.mem_cons_of_mem _) hm
  | .deref _ subject, _, _, _, _, hd, hf, h =>
    visits_filed hd hf h (checkExpr_deref ..) fun _ hm =>
      visits_part (checkExpr_visits subject) (.here fun _ => derefType_confined _ _)
        (List.pairwise_cons.mp hd).2 (hf.mono fun _ => List.mem_cons_of_mem _) hm
  | .field _ subject _, _, _, _, _, hd, hf, h =>
    visits_filed hd hf h (checkExpr_field ..) fun _ hm =>
      visits_part (checkExpr_visits subject) (.here fun _ => .pure _)
        (List.pairwise_cons.mp hd).2 (hf.mono fun _ => List.mem_cons_of_mem _) hm
  | .call _ callee args, _, _, _, _, hd, hf, h =>
    visits_filed hd hf h (checkExpr_call ..) fun _ hm =>
      visits_parts (checkExpr_visits callee) (checkArgs_visits args) (fun _ => callRest_passes)
        (List.pairwise_cons.mp hd).2 (fun x hx h => (List.pairwise_cons.mp hd).1 x hx h.symm)
        (hf.mono fun _ => List.mem_cons_of_mem _) hm
  | .methodCall _ receiver _ args, _, _, _, _, hd, hf, h =>
    visits_filed hd hf h (checkExpr_methodCall ..) fun _ hm =>
      visits_parts (checkExpr_visits receiver) (checkArgs_visits args)
        (fun _ => methodRest_passes rfl rfl)
        (List.pairwise_cons.mp hd).2 (fun x hx h => (List.pairwise_cons.mp hd).1 x hx h.symm)
        (hf.mono fun _ => List.mem_cons_of_mem _) hm
  | .closure _ _ _ body, _, _, _, _, hd, hf, h =>
    visits_filed hd hf h (checkExpr_closure ..) fun _ hm =>
      visits_part (checkExpr_visits body)
        (.after (.lift _) fun _ => .inScope closureInside_passes)
        (List.pairwise_cons.mp hd).2 (hf.mono fun _ => List.mem_cons_of_mem _) hm

/-- The arguments of a call are checked once, one behind the other. -/
theorem checkArgs_visits : (es : List Expr) → {expected : List (Option Ty)} → {s s' : State} →
    {u : Unit} → Distinct (Expr.walkAll es) → Fresh (Expr.walkAll es) s.tables →
    Gives (checkArgs c es expected) s u s' → ∀ x ∈ Expr.walkAll es, Visited c x s'
  | [], _, _, _, _, _, _, _ => nofun
  | e :: es, expected, s, s', _, hd, hf, h => by
    rw [checkArgs_cons] at h
    obtain ⟨hde, hds, hapart⟩ := List.pairwise_append.mp hd
    obtain ⟨type, s₁, h₁, h₂⟩ := gives_bind.mp h
    obtain ⟨_, s₂, hc, hs⟩ := gives_bind.mp h₂
    have hadjust := coerceTo_extends hc
    intro x hx
    -- in the first argument, which the later ones leave alone; or in a later one, for which the first
    -- files nothing
    rcases List.mem_append.mp hx with hx | hx
    · have hv := checkExpr_visits e hde (hf.mono fun _ => List.mem_append_left _) h₁ x hx
      have hv₂ := hv.later_adjust hx hadjust hde fun _ _ h => h
      exact hv₂.later_apart hx (checkArgs_extends hs) hapart
    · have hfs := (hf.mono fun _ => List.mem_append_right _).later_apart (checkExpr_extends h₁)
        hapart
      have hfs₂ := hfs.later hadjust fun y hy =>
        ⟨fun h => h, fun h => hapart e e.mem_walk_self y hy h.symm⟩
      exact checkArgs_visits es hds hfs₂ hs x hx

end

/-! ### Bodies -/

/-- Every expression of a statement is checked once. -/
private theorem checkStmt_visits {st : Stmt} {u : Unit} (hd : Distinct st.expr.walk)
    (hf : Fresh st.expr.walk s.tables) (h : Gives (checkStmt c st) s u s') :
    ∀ x ∈ st.expr.walk, Visited c x s' := by
  intro x hx
  cases st with
  | letStmt node pattern declared value =>
    rw [checkStmt_letStmt] at h
    obtain ⟨expected, s₁, h₁, h⟩ := gives_bind.mp h
    obtain ⟨type, s₂, h₂, h⟩ := gives_bind.mp h
    obtain ⟨_, s₃, h₃, h⟩ := gives_bind.mp h
    -- the written type files nothing, and neither do the coercion of the value and its pattern
    have hf₁ := hf.later ((writtenOr_confined (I := Nowhere) (J := Nowhere) _ _).grows h₁)
      fun _ _ => ⟨fun h => h, fun h => h⟩
    have hv := checkExpr_visits value hd hf₁ h₂ x hx
    have hv₃ := hv.later_adjust hx (coerceTo_extends h₃) hd fun _ _ h => h
    exact hv₃.later ((bindPattern_confined (I := Nowhere) (J := Nowhere) _ _).grows h)
      (fun _ _ h => h) fun _ _ h => h
  | exprStmt node e =>
    obtain ⟨type, h₁, -⟩ := gives_bind_pure.mp h
    exact checkExpr_visits e hd hf h₁ x hx

/-- Every expression of some statements is checked once. -/
private theorem checkStmts_visits {ss : List Stmt} {u : Unit}
    (hd : Distinct (ss.flatMap fun st => st.expr.walk))
    (hf : Fresh (ss.flatMap fun st => st.expr.walk) s.tables)
    (h : Gives (ss.forM (checkStmt c)) s u s') :
    ∀ x ∈ ss.flatMap fun st => st.expr.walk, Visited c x s' := by
  induction ss generalizing s with
  | nil => exact nofun
  | cons st ss ih =>
    rw [List.flatMap_cons] at hd hf ⊢
    obtain ⟨hde, hds, hapart⟩ := List.pairwise_append.mp hd
    obtain ⟨_, s₁, h₁, h₂⟩ := gives_bind.mp h
    intro x hx
    rcases List.mem_append.mp hx with hx | hx
    · have hv := checkStmt_visits hde (hf.mono fun _ => List.mem_append_left _) h₁ x hx
      have hrest : Extends (Among (ss.flatMap fun st => st.expr.walk))
          (Among (ss.flatMap fun st => st.expr.walk)) s₁ s' :=
        (Confined.forM fun st hst => checkStmt_confined st fun y hy =>
          ⟨among_of_mem (List.mem_flatMap.mpr ⟨st, hst, hy⟩),
            among_of_mem (List.mem_flatMap.mpr ⟨st, hst, hy⟩)⟩).grows h₂
      exact hv.later_apart hx hrest hapart
    -- nothing has been filed for later statements when the first is checked
    · have hfirst : Extends (Among st.expr.walk) (Among st.expr.walk) s s₁ :=
        (checkStmt_confined st fun y hy => ⟨among_of_mem hy, among_of_mem hy⟩).grows h₁
      have hf₁ := (hf.mono fun _ => List.mem_append_right _).later hfirst fun y hy =>
        ⟨not_among fun z hz h => hapart z hz y hy h.symm,
          not_among fun z hz h => hapart z hz y hy h.symm⟩
      exact ih hds hf₁ h₂ x hx

/-- Every expression of a body is checked once. -/
theorem checkBody_visits {f : Function} {type : Ty} {u : Unit} (hd : Distinct f.walk)
    (hf : Fresh f.walk s.tables) (h : Gives (checkBody c f type) s u s') :
    ∀ x ∈ f.walk, Visited c x s' := by
  intro x hx
  obtain ⟨params, -, h⟩ := gives_lift_bind.mp h
  obtain ⟨_, s₂, h₂, h⟩ := gives_bind.mp h
  obtain ⟨_, s₃, h₃, h⟩ := gives_bind.mp h
  obtain ⟨_, s₄, h₄, h₃⟩ := gives_bind.mp h₃
  -- binding the parameters files nothing
  have hbefore : Extends Nowhere Nowhere s s₄ := (Confined.rescope.grows h₂).trans
    ((Confined.forM fun _ _ => bindPattern_confined _ _).grows h₄)
  have hf₄ := hf.later hbefore fun _ _ => ⟨fun h => h, fun h => h⟩
  have hafter : Extends Nowhere Nowhere s₃ s' :=
    (Confined.rescope.bind fun _ => Confined.pure _).grows h
  exact (checkStmts_visits hd hf₄ h₃ x hx).later hafter (fun _ _ h => h) fun _ _ h => h

/-- Nothing is filed under nodes from `next` on. -/
def FreshFrom (next : NodeId) (t : Tables) : Prop := Tables.Agree (next ≤ ·) (next ≤ ·) {} t

/-- A body that is numbered from `next` on gets results between its bounds. -/
theorem checkBody_extends {f : Function} {type : Ty} {u : Unit} {next : NodeId}
    (h : Gives (checkBody c (f.number next).1 type) s u s') :
    Extends (fun i => next ≤ i ∧ i < (f.number next).2) (fun i => next ≤ i ∧ i < (f.number next).2)
      s s' := by
  have hn := f.numbered_number next
  exact (checkBody_confined _ _ fun x hx => ⟨⟨hn.lower x hx, hn.upper x hx⟩,
    ⟨hn.lower x hx, hn.upper x hx⟩⟩).grows h

/-- Nothing is filed behind it. -/
theorem FreshFrom.later {f : Function} {type : Ty} {u : Unit} {next : NodeId}
    (hf : FreshFrom next s.tables) (h : Gives (checkBody c (f.number next).1 type) s u s') :
    FreshFrom (f.number next).2 s'.tables := by
  have hnext : next ≤ (f.number next).2 := Int.le_of_lt (f.lt_number next)
  exact (hf.mono (fun _ hi => Int.le_trans hnext hi) fun _ hi => Int.le_trans hnext hi).trans <|
    (checkBody_extends h).tables.mono (fun _ hi h => Int.not_lt.mpr hi h.2)
      fun _ hi h => Int.not_lt.mpr hi h.2

/-- **Every expression of the bodies is checked once**, and their identities grow from one body to
the next. -/
theorem checkBodies_visits {file : Option String} {names : StructNames} {d : Declared}
    (bs : List Body) {next : NodeId} {fs : List Function} (hf : FreshFrom next s.tables)
    (h : Gives (checkBodies file names d next bs) s fs s') :
    Extends (next ≤ ·) (next ≤ ·) s s' ∧ (∃ last, Numbered next last (fs.flatMap Function.walk)) ∧
      ∀ f ∈ fs, ∃ b ∈ bs, ∀ x ∈ f.walk, Visited (contextOf file names d b.selfType) x s' := by
  induction bs generalizing next s fs with
  | nil =>
    rw [checkBodies] at h
    obtain ⟨rfl, rfl⟩ := gives_pure.mp h
    exact ⟨.refl _, ⟨next, .nil⟩, fun _ hf => absurd hf List.not_mem_nil⟩
  | cons b bs ih =>
    rw [checkBodies] at h
    generalize hfn : (Core.lowerFunction { file := file } b.function b.stmts) = f at h
    obtain ⟨_, s₁, h₁, h⟩ := gives_bind.mp h
    obtain ⟨fs₁, h₂, rfl⟩ := gives_bind_pure.mp h
    have hn := f.numbered_number next
    have hnext : next ≤ (f.number next).2 := Int.le_of_lt (f.lt_number next)
    -- a body is numbered from where the last one ended
    have hfresh : Fresh (f.number next).1.walk s.tables :=
      hf.mono (fun _ ⟨x, hx, hi⟩ => hi ▸ hn.lower x hx) fun _ ⟨x, hx, hi⟩ => hi ▸ hn.lower x hx
    obtain ⟨hrest, ⟨last, hlast⟩, hv⟩ := ih (hf.later h₁) h₂
    refine ⟨?_, ⟨max last (f.number next).2, ?_⟩, ?_⟩
    · exact ((checkBody_extends h₁).mono (fun _ h => h.1) fun _ h => h.1).trans
        (hrest.mono (fun _ h => Int.le_trans hnext h) fun _ h => Int.le_trans hnext h)
    · rw [List.flatMap_cons]
      exact hn.append (hlast.mono (Int.le_refl _) (Int.le_max_left _ _)) hnext (Int.le_max_right _ _)
    · intro g hg
      rcases List.mem_cons.mp hg with rfl | hg
      -- later bodies have greater identities, so they leave this one alone
      · refine ⟨b, List.mem_cons_self, fun x hx => ?_⟩
        have hlt : ∀ y ∈ x.walk, ¬ (f.number next).2 ≤ y.id := fun y hy =>
          Int.not_le.mpr (hn.upper y (Function.walk_trans hx hy))
        exact (checkBody_visits (.of_numbered hn) hfresh h₁ x hx).later hrest hlt
          fun y hy => hlt y (Expr.walk_of_inside hy)
      · obtain ⟨b', hb', hx⟩ := hv g hg
        exact ⟨b', List.mem_cons_of_mem b hb', hx⟩

end ClosureLint.Typing
