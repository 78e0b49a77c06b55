import ClosureLint.Proofs.Checking.Moments
import ClosureLint.Proofs.Checking.Scoping

/-!
# The scopes in the course of a check

At its moments a check has the scopes that were open when it began, and above them those that it has
opened in between. This is shown step by step, and closures are where it takes an argument: the body
of a closure is checked with a scope on top that is not there before and behind.

* `Chronicled` — the moments of a step are a chronicle of the scopes.
* `momentsIn_chronicled` — those of the check of an expression are.
* `checkExpr_settles` — the check of an expression leaves all scopes with the same locals.
* `momentsIn_pairwise` — so it is between any two of its moments.
* `momentsInBody_chronicle` — the check of a body binds names in a scope of its own, which is gone
  behind it.
-/

namespace ClosureLint.Typing

open ClosureLint.Core
open ClosureLint.Syntax (Path TypeExpr)

variable {c : Context} {s s' : State} {α β : Type} {node : Node}

/-! ### Moments tell of the scopes -/

section

variable {R R' : Scope → Scope → Prop} {n : Nat} {m : Check α} {ms : List Moment} {a : α}

theorem scopesAt_append (ms ms' : List Moment) :
    scopesAt (ms ++ ms') = scopesAt ms ++ scopesAt ms' := List.map_append

/-- The moments of a step that begins in the state `s` are a chronicle of the scopes that are open
then, but for the `n` innermost ones. If the step succeeds, the chronicle ends where it does. -/
def Chronicled (R : Scope → Scope → Prop) (n : Nat) (m : Check α) (s : State)
    (ms : List Moment) : Prop :=
  ∀ top base, s.scopes = top ++ base → top.length = n →
    ∃ base', Chronicle R base (scopesAt ms) base' ∧
      ∀ a s', Gives m s a s' → ∃ top', top'.length = n ∧ s'.scopes = top' ++ base'

namespace Chronicled

/-- A step without moments of its own, which may do to the scopes what `R` says. -/
theorem silent [IsPreorder Scope R]
    (h : ∀ a s', Gives m s a s' → List.Forall₂ R s.scopes s'.scopes) :
    Chronicled R 0 m s [] := by
  intro top base hs htop
  obtain rfl := List.length_eq_zero_iff.mp htop
  rw [List.nil_append] at hs
  cases hm : m s with
  | error f =>
    exact ⟨base, .nil (List.forall₂_refl base), fun a s' hg => absurd (hm.symm.trans hg) nofun⟩
  | ok p =>
    refine ⟨p.2.scopes, .nil (hs ▸ h p.1 p.2 hm), fun a s' hg => ⟨[], rfl, ?_⟩⟩
    rw [(Gives.unique hm hg).2]
    rfl

/-- One step follows the other. -/
theorem bind [IsPreorder Scope R] {f : α → Check β} {next : α → State → List Moment}
    (hm : Chronicled R n m s ms)
    (hf : ∀ a s', Gives m s a s' → Chronicled R n (f a) s' (next a s')) :
    Chronicled R n (m >>= f) s (ms ++ following m s next) := by
  intro top base hs htop
  obtain ⟨base₁, hfront, hend⟩ := hm top base hs htop
  cases hrun : m s with
  | error fault =>
    -- nothing goes on behind a step that fails
    rw [following_of_fails hrun, List.append_nil]
    refine ⟨base₁, hfront, fun b s' hg => ?_⟩
    obtain ⟨a, s₁, h₁, -⟩ := gives_bind.mp hg
    exact absurd (hrun.symm.trans h₁) nofun
  | ok p =>
    obtain ⟨a, s₁⟩ := p
    obtain ⟨top₁, htop₁, hs₁⟩ := hend a s₁ hrun
    obtain ⟨base₂, hback, hend₂⟩ := hf a s₁ hrun top₁ base₁ hs₁ htop₁
    rw [following_of_gives hrun, scopesAt_append]
    refine ⟨base₂, hfront.append hback, fun b s' hg => ?_⟩
    obtain ⟨a', s₁', h₁, h₂⟩ := gives_bind.mp hg
    obtain ⟨rfl, rfl⟩ := Gives.unique hrun h₁
    exact hend₂ b s' h₂

theorem of_keepsScopes [IsPreorder Scope R] (hm : KeepsScopes m) : Chronicled R n m s [] :=
  fun top base hs htop => ⟨base, .nil (List.forall₂_refl base), fun _ _ hg =>
    ⟨top, htop, (hm.kept hg).trans hs⟩⟩

/-- In front of a step there may be one that leaves the scopes alone. -/
theorem before [IsPreorder Scope R] {f : α → Check β} {next : α → State → List Moment}
    (hm : KeepsScopes m) (hf : ∀ a s', Gives m s a s' → Chronicled R n (f a) s' (next a s')) :
    Chronicled R n (m >>= f) s (following m s next) := by
  have h := (of_keepsScopes hm).bind hf
  rwa [List.nil_append] at h

/-- Behind a step there may be one without moments of its own. -/
theorem silently [IsPreorder Scope R] {f : α → Check β} (h : Chronicled R n m s ms)
    (hf : ∀ a s', Gives m s a s' → Chronicled R n (f a) s' []) :
    Chronicled R n (m >>= f) s ms := by
  have hbind : Chronicled R n (m >>= f) s (ms ++ following m s fun _ _ => []) := h.bind hf
  have hnone : following m s (fun _ _ => ([] : List Moment)) = [] :=
    List.eq_nil_iff_forall_not_mem.mpr fun _ hmem =>
      have ⟨_, _, _, h⟩ := mem_following.mp hmem
      List.not_mem_nil h
  rwa [hnone, List.append_nil] at hbind

/-- Such a step may be one that leaves the scopes alone. -/
theorem after [IsPreorder Scope R] {f : α → Check β} (h : Chronicled R n m s ms)
    (hf : ∀ a, KeepsScopes (f a)) : Chronicled R n (m >>= f) s ms :=
  h.silently fun a _ _ => of_keepsScopes (hf a)

/-- What is told of all scopes is told of the outer ones. -/
theorem outer (h : Chronicled R 0 m s ms) : Chronicled R n m s ms := by
  intro top base hs htop
  obtain ⟨whole, hchronicle, hend⟩ := h [] (top ++ base) hs rfl
  -- the inner ones are as many in the end, so the rest of the stack is that of the outer ones
  obtain ⟨top', base', rfl, hlength, hbase⟩ := hchronicle.bottom
  refine ⟨base', hbase, fun a s' hg => ⟨top', hlength.trans htop, ?_⟩⟩
  obtain ⟨top'', hzero, hs'⟩ := hend a s' hg
  obtain rfl := List.length_eq_zero_iff.mp hzero
  exact hs'

/-- A scope of its own is gone after a step. -/
theorem inScope (h : Chronicled R 1 m { s with scopes := [] :: s.scopes } ms) :
    Chronicled R 0 (inScope m) s ms := by
  intro top base hs htop
  obtain rfl := List.length_eq_zero_iff.mp htop
  -- inside, the scope of its own is the one that is left out
  have hopen : [] :: s.scopes = [[]] ++ base := congrArg ([] :: ·) hs
  obtain ⟨base', hchronicle, hend⟩ := h [[]] base hopen rfl
  refine ⟨base', hchronicle, fun a s' hg => ⟨[], rfl, ?_⟩⟩
  obtain ⟨s₁, h₁, rfl⟩ := gives_inScope.mp hg
  obtain ⟨top', hone, hs₁⟩ := hend a s₁ h₁
  change s₁.scopes.drop 1 = _
  rw [hs₁, ← hone, List.drop_left]
  rfl

/-- What a step does to the scopes from its beginning to its end. -/
theorem settles [IsPreorder Scope R] (h : Chronicled R 0 m s ms) (hg : Gives m s a s') :
    List.Forall₂ R s.scopes s'.scopes := by
  obtain ⟨base', hchronicle, hend⟩ := h [] s.scopes rfl rfl
  obtain ⟨top', hzero, hs'⟩ := hend a s' hg
  obtain rfl := List.length_eq_zero_iff.mp hzero
  rw [hs']
  exact hchronicle.whole

theorem mono (hRR' : ∀ {f f'}, R f f' → R' f f') (h : Chronicled R n m s ms) :
    Chronicled R' n m s ms := by
  intro top base hs htop
  obtain ⟨base', hchronicle, hend⟩ := h top base hs htop
  exact ⟨base', hchronicle.mono hRR', hend⟩

/-- **The moments of the check of an expression** are those of the step in front of which it begins
and behind which it ends. -/
theorem checkExpr [IsPreorder Scope R] {e : Expr} {expected : Option Ty}
    (h : Chronicled R 0 (unfiled c expected e) s ms) :
    Chronicled R 0 (checkExpr c e expected) s (.enters e expected s ::
      (ms ++ following (checkExpr c e expected) s fun type s' =>
        [.leaves e expected s type s'])) := by
  -- the type is filed in the end, which leaves the scopes alone
  have hfiled : Chronicled R 0 (Typing.checkExpr c e expected) s ms := by
    rw [checkExpr_eq_filed]
    exact h.after fun t => (setType_keepsScopes e.id t).bind fun _ => .pure t
  intro top base hs htop
  obtain rfl := List.length_eq_zero_iff.mp htop
  obtain ⟨base', hchronicle, hend⟩ := hfiled [] base hs rfl
  have hbegin {later : List (List Scope)} (h : Chronicle R base later base') :
      Chronicle R base (s.scopes :: later) base' := by
    rw [hs]
    exact .cons (List.forall₂_refl base) h
  cases hrun : Typing.checkExpr c e expected s with
  | error f =>
    rw [following_of_fails hrun, List.append_nil]
    exact ⟨base', hbegin hchronicle, hend⟩
  | ok p =>
    obtain ⟨type, s'⟩ := p
    obtain ⟨top', hzero, hs'⟩ := hend type s' hrun
    obtain rfl := List.length_eq_zero_iff.mp hzero
    have hstop : Chronicle R base' [s'.scopes] base' := by
      rw [hs']
      exact .cons (List.forall₂_refl base') (.nil (List.forall₂_refl base'))
    have hinside : Chronicle R base (scopesAt (ms ++ [.leaves e expected s type s'])) base' := by
      rw [scopesAt_append]
      exact hchronicle.append hstop
    rw [following_of_gives hrun]
    exact ⟨base', hbegin hinside, hend⟩

end Chronicled

/-- In front of the body a closure binds names in the scope that is its own. -/
theorem closureFront_chronicled [IsPreorder Scope R] (params : List Param) (ret : Option TypeExpr)
    (signature : Option (List Ty × Ty)) :
    Chronicled R 1 (closureFront c params ret signature) s [] := by
  intro top base hs htop
  obtain ⟨f, rfl⟩ := List.length_eq_one_iff.mp htop
  refine ⟨base, .nil (List.forall₂_refl base), fun a s' hg => ?_⟩
  obtain ⟨_, s₁, hbinds, hret⟩ := gives_bind.mp hg
  obtain ⟨new, hs₁, -⟩ := bindParams_binds hbinds f base hs
  exact ⟨[new ++ f], rfl, (writtenOr_scopes hret).trans hs₁⟩

theorem callExpects_keepsScopes (callee : Expr) (args : List Expr) (type : Ty) :
    KeepsScopes (callExpects node callee args type) := by
  unfold callExpects
  split
  · exact (KeepsScopes.lift _).bind fun params => (KeepsScopes.lift _).bind fun _ =>
      (expectedArgs_keepsScopes _ _ params).bind fun _ => .pure _
  · split
    · exact (KeepsScopes.lift _).bind fun _ => (report_keepsScopes _ _).bind fun _ => .pure _
    · exact .pure _

theorem methodExpects_keepsScopes (receiver : Expr) (method : String) (args : List Expr)
    (type : Ty) : KeepsScopes (methodExpects c node receiver method args type) := by
  unfold methodExpects
  split
  · exact .pure _
  · split
    · exact .throw _
    · exact (report_keepsScopes _ _).bind fun _ => .pure _
    · next r _ =>
      have hrest : KeepsScopes (do
          let fnType := r.decl.type.substSelf r.step
          let params ← fnType.fnParams
          let ret ← fnType.fnRet
          return (← expectedArgs "method" node args.length (params.drop 1), ret)) :=
        (KeepsScopes.lift _).bind fun params => (KeepsScopes.lift _).bind fun _ =>
          (expectedArgs_keepsScopes _ _ (params.drop 1)).bind fun _ => .pure _
      refine (setMethod_keepsScopes _ r).bind fun _ => ?_
      by_cases h : r.receiverAdjusted = true
      · simp only [if_pos h]
        exact (setAdjusted_keepsScopes _).bind fun _ => hrest
      · simp only [if_neg h]
        exact hrest

theorem closureBack_keepsScopes (params : List Param) (body : Expr) (expected : Option Ty)
    (type : Ty) : KeepsScopes (closureBack c params body expected type) := by
  refine (KeepsScopes.mk coerceTo_scopes).bind fun _ => ?_
  exact (KeepsScopes.mk paramTypes_scopes).bind fun _ => .pure _

end

/-- The moments of a call are those of what is called, and then those of its arguments. -/
theorem Chronicled.arguments {head : Check Ty} {headMoments : List Moment}
    {expects : Ty → Check (List (Option Ty) × Ty)} {args : List Expr}
    (hhead : Chronicled SameLocals 0 head s headMoments)
    (hexpects : ∀ type, KeepsScopes (expects type))
    (hargs : ∀ expected s, Chronicled SameLocals 0 (checkArgs c args expected) s
      (momentsInArgs c args expected s)) :
    Chronicled SameLocals 0
      (head >>= fun type => expects type >>= fun p => checkArgs c args p.1 >>= fun _ => pure p.2) s
      (headMoments ++ following head s fun type s =>
        following (expects type) s fun p s => momentsInArgs c args p.1 s) :=
  hhead.bind fun type _ _ =>
    .before (hexpects type) fun p s _ =>
      (hargs p.1 s).after fun _ => .pure p.2

mutual

/-- **The moments of the check of an expression** are a chronicle of the scopes. -/
theorem momentsIn_chronicled (c : Context) : (e : Expr) → (expected : Option Ty) → (s : State) →
    Chronicled SameLocals 0 (checkExpr c e expected) s (momentsIn c e expected s)
  | .path node segments, expected, s => by
    rw [momentsIn]
    exact .checkExpr (.silent fun _ _ => checkPath_settles)
  | .int .., _, s | .str .., _, s => by
    rw [momentsIn]
    exact .checkExpr (.of_keepsScopes (.pure _))
  | .borrow _ _ subject, expected, s => by
    rw [momentsIn]
    exact .checkExpr <|
      .before (.lift _) fun x s _ =>
        (momentsIn_chronicled c subject x s).after fun _ => .pure _
  | .deref _ subject, _, s => by
    rw [momentsIn]
    exact .checkExpr <|
      (momentsIn_chronicled c subject none s).after derefType_keepsScopes
  | .field _ subject _, _, s => by
    rw [momentsIn]
    exact .checkExpr <|
      (momentsIn_chronicled c subject none s).after fun _ => .pure _
  | .call node callee args, expected, s => by
    rw [momentsIn]
    refine .checkExpr ?_
    simp only [unfiled, callRest_split]
    exact .arguments (momentsIn_chronicled c callee none s) (callExpects_keepsScopes callee args)
      fun expected s => momentsInArgs_chronicled c args expected s
  | .methodCall node receiver method args, expected, s => by
    rw [momentsIn]
    refine .checkExpr ?_
    simp only [unfiled, methodRest_split]
    exact .arguments (momentsIn_chronicled c receiver none s)
      (methodExpects_keepsScopes receiver method args)
      fun expected s => momentsInArgs_chronicled c args expected s
  | .closure node params ret body, expected, s => by
    rw [momentsIn]
    refine .checkExpr ?_
    simp only [unfiled, closureInside_split]
    -- the parameters are in the innermost scope, and what the body does below it is to be told
    refine .before (.lift _) fun signature s _ => .inScope ?_
    refine (closureFront_chronicled params ret signature).bind fun x s _ => ?_
    exact (momentsIn_chronicled c body x s).outer.after fun type =>
      closureBack_keepsScopes params body x type

theorem momentsInArgs_chronicled (c : Context) : (es : List Expr) →
    (expected : List (Option Ty)) → (s : State) →
    Chronicled SameLocals 0 (checkArgs c es expected) s (momentsInArgs c es expected s)
  | [], _, s => by
    rw [momentsInArgs]
    exact .of_keepsScopes (.pure ())
  | e :: es, expected, s => by
    rw [momentsInArgs, checkArgs_cons]
    exact (momentsIn_chronicled c e _ s).bind fun type s _ =>
      .before ⟨coerceTo_scopes⟩ fun _ s _ =>
        momentsInArgs_chronicled c es expected.tail s

end

/-- **The check of an expression** leaves the scopes that are open, each with the same locals. Their
types may have been decided on in between. -/
theorem checkExpr_settles {e : Expr} {expected : Option Ty} {t : Ty}
    (h : Gives (checkExpr c e expected) s t s') : List.Forall₂ SameLocals s.scopes s'.scopes :=
  (momentsIn_chronicled c e expected s).settles h

/-- So it is between any two moments of the check. -/
theorem momentsIn_pairwise (c : Context) (e : Expr) (expected : Option Ty) (s : State) :
    (scopesAt (momentsIn c e expected s)).Pairwise fun ss ss' => List.Forall₂ SameLocals
      (outermost s.scopes.length ss) (outermost s.scopes.length ss') := by
  obtain ⟨_, hchronicle, -⟩ := momentsIn_chronicled c e expected s [] s.scopes rfl rfl
  exact hchronicle.pairwise.2

/-! ### Bodies -/

/-- Binding names lets the innermost scope grow. -/
theorem Binds.grown {names : List String} (h : Binds names s s') (hs : s.scopes ≠ []) :
    List.Forall₂ Grown s.scopes s'.scopes := by
  obtain ⟨scope, rest, hs⟩ := List.exists_cons_of_ne_nil hs
  obtain ⟨new, hs', -⟩ := h scope rest hs
  rw [hs, hs']
  exact .cons ⟨new, scope, rfl, refl scope⟩ (List.forall₂_refl rest)

theorem ne_nil_of_grown {ss ss' : List Scope} (h : List.Forall₂ Grown ss ss') (hs : ss ≠ []) :
    ss' ≠ [] := by
  rintro rfl
  exact hs (List.forall₂_nil_right_iff.mp h)

theorem bindAll_grown {l : List (Param × Ty)} {u : Unit}
    (h : Gives (l.forM fun (p, t) => bindPattern p.pattern (some t)) s u s') (hs : s.scopes ≠ []) :
    List.Forall₂ Grown s.scopes s'.scopes := by
  induction l generalizing s with
  | nil =>
    rw [(gives_pure.mp h).2]
    exact List.forall₂_refl _
  | cons a l ih =>
    obtain ⟨_, s₁, h₁, h₂⟩ := gives_bind.mp h
    have hfirst := (bindPattern_binds _ h₁).grown hs
    exact Trans.trans hfirst (ih h₂ (ne_nil_of_grown hfirst hs))

theorem momentsInStmt_chronicled (st : Stmt) (hs : s.scopes ≠ []) :
    Chronicled Grown 0 (checkStmt c st) s (momentsInStmt c st s) := by
  cases st with
  | letStmt node pattern declared value =>
    rw [checkStmt_letStmt]
    refine .before ⟨writtenOr_scopes⟩ fun expected s₁ h₁ => ?_
    refine ((momentsIn_chronicled c value expected s₁).mono Grown.of_same).silently
      fun t s₂ h₂ => .silent fun _ s' h => ?_
    -- a scope is still open when the value has been checked, and the names go there
    have hs₂ : s₂.scopes ≠ [] := fun he => by
      have hsame := checkExpr_settles h₂
      rw [he, List.forall₂_nil_right_iff, writtenOr_scopes h₁] at hsame
      exact hs hsame
    obtain ⟨_, s₃, h₃, h⟩ := gives_bind.mp h
    rw [← coerceTo_scopes h₃] at hs₂ ⊢
    exact (bindPattern_binds pattern h).grown hs₂
  | exprStmt node e =>
    exact ((momentsIn_chronicled c e none s).mono Grown.of_same).after fun _ => .pure ()

theorem momentsInStmts_chronicled (sts : List Stmt) (hs : s.scopes ≠ []) :
    Chronicled Grown 0 (sts.forM (checkStmt c)) s (momentsInStmts c sts s) := by
  induction sts generalizing s with
  | nil => exact .of_keepsScopes (.pure ())
  | cons st sts ih =>
    have hfirst := momentsInStmt_chronicled (c := c) st hs
    exact hfirst.bind fun _ _ hg => ih (ne_nil_of_grown (hfirst.settles hg) hs)

theorem momentsInside_chronicled (f : Function) (types : List Ty) (hs : s.scopes ≠ []) :
    Chronicled Grown 0 (bodyInside c f types) s (momentsInside c f types s) := by
  have hparams : Chronicled Grown 0
      ((f.params.zip types).forM fun (p, t) => bindPattern p.pattern (some t)) s [] :=
    .silent fun _ _ hg => bindAll_grown hg hs
  -- the scope that the parameters are bound in is open for the statements
  have h := hparams.bind fun _ s₁ hg =>
    momentsInStmts_chronicled (c := c) f.body.stmts (ne_nil_of_grown (bindAll_grown hg hs) hs)
  rwa [List.nil_append] at h

/-- **The check of a body** binds names in a scope of its own, which is gone behind it. -/
theorem momentsInBody_chronicle (c : Context) (f : Function) (type : Ty) (s : State) :
    ∃ scope rest, Chronicle Grown ([] :: s.scopes) (scopesAt (momentsInBody c f type s))
      (scope :: rest) ∧ ∀ u s', Gives (checkBody c f type) s u s' → s'.scopes = rest := by
  unfold momentsInBody
  -- a fault comes before the scope is opened
  cases hrun : (liftM type.fnParams : Check (List Ty)) s with
  | error fault =>
    rw [following_of_fails hrun]
    refine ⟨[], s.scopes, .nil (List.forall₂_refl _), fun u s' hg => ?_⟩
    obtain ⟨types, s₁, h₁, -⟩ := gives_bind.mp hg
    exact absurd (hrun.symm.trans h₁) nofun
  | ok p =>
    obtain ⟨types, s₁⟩ := p
    obtain ⟨htypes, rfl⟩ := gives_lift.mp hrun
    rw [following_of_gives hrun]
    obtain ⟨base', hchronicle, hend⟩ := momentsInside_chronicled (c := c) f types
      (s := { s with scopes := [] :: s.scopes }) (List.cons_ne_nil _ _) [] _ rfl rfl
    obtain ⟨scope, rest, rfl⟩ : ∃ scope rest, base' = scope :: rest :=
      List.exists_cons_of_ne_nil (ne_nil_of_grown hchronicle.whole (List.cons_ne_nil _ _))
    refine ⟨scope, rest, hchronicle, fun u s' hg => ?_⟩
    -- a run that returns takes the steps that the moments are of
    rw [checkBody_eq] at hg
    obtain ⟨types', htypes', hg⟩ := gives_lift_bind.mp hg
    obtain rfl := Except.ok.inj (htypes.symm.trans htypes')
    obtain ⟨s₁, h₁, rfl⟩ := gives_inScope.mp hg
    obtain ⟨top, hzero, hs₁⟩ := hend u s₁ h₁
    obtain rfl := List.length_eq_zero_iff.mp hzero
    exact congrArg (List.drop 1) hs₁

end ClosureLint.Typing
