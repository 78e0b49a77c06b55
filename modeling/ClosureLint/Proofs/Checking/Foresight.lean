import ClosureLint.Proofs.Checking.Binding
import Mathlib.Data.List.Forall2

/-!
# Types that are known ahead

A closure parameter without a written type is decided on where the body first needs its type. Had the
type been known ahead, the check would have gone the same way: it answers the same, files the same
results, and ends with the same scopes, up to locals that nothing has been decided on yet.

* `Lasts`, `Later` — what is decided on stays.
* `Foreseen`, `Ahead` — scopes of which the second ones know some types ahead.
* `Foretold` — the types that are known ahead are the ones that are decided on.
* `Foresees` — a step goes the same way when types are known ahead.
* `checkExpr_foresees`, `checkArgs_foresees` — so does the checker.
-/

namespace ClosureLint.Typing

open ClosureLint.Core
open ClosureLint.Syntax (Path TypeExpr)

variable {future : String → Option Ty} {c : Context} {s s' s₁ : State} {f f' f₁ : Scope}
  {ss ss' ss₁ : List Scope} {x : String} {t t' : Ty} {k : Nat} {α β : Type}

/-! ### Scopes -/

/-- A name that is decided on has the type it is decided to have. -/
theorem lookup_decideIn_self (h : (f.lookup x).isSome) (t : Ty) :
    (decideIn x t f).lookup x = some (some t) := by
  induction f with
  | nil => nomatch h
  | cons l ls ih =>
    rw [decideIn]
    split
    · exact List.lookup_cons_self
    · next hne =>
      have hbeq : (x == l.1) = false := beq_false_of_ne fun he => hne he.symm
      rw [List.lookup_cons, hbeq] at h ⊢
      exact ih h

/-- Other names keep theirs. -/
theorem lookup_decideIn_ne {y : String} (h : y ≠ x) (t : Ty) (f : Scope) :
    (decideIn x t f).lookup y = f.lookup y := by
  induction f with
  | nil => rfl
  | cons l ls ih =>
    rw [decideIn]
    split
    · next he =>
      rw [List.lookup_cons, List.lookup_cons, beq_false_of_ne h, beq_false_of_ne (he ▸ h)]
    · rw [List.lookup_cons, List.lookup_cons, ih]

/-- What is decided on in the first scope is so in the second. -/
def Lasts (f f₁ : Scope) : Prop := ∀ x,
  ((f.lookup x).isSome → (f₁.lookup x).isSome) ∧
    ∀ t, f.lookup x = some (some t) → f₁.lookup x = some (some t)

/-- A scope lasts in itself. -/
theorem Lasts.refl (f : Scope) : Lasts f f := fun _ => ⟨id, fun _ => id⟩

/-- What lasts twice lasts. -/
theorem Lasts.trans {f₂ : Scope} (h : Lasts f f₁) (h' : Lasts f₁ f₂) : Lasts f f₂ := fun x =>
  ⟨fun hx => (h' x).1 ((h x).1 hx), fun t ht => (h' x).2 t ((h x).2 t ht)⟩

/-- Nothing is lost where a name without a type is decided on. -/
theorem lasts_decideIn (h : f.lookup x = some none) (t : Ty) : Lasts f (decideIn x t f) := fun y => by
  by_cases hy : y = x
  · subst hy
    rw [lookup_decideIn_self (h ▸ rfl)]
    exact ⟨fun _ => rfl, fun t ht => by rw [h] at ht; nomatch ht⟩
  · rw [lookup_decideIn_ne hy]
    exact ⟨id, fun _ => id⟩

/-- What is decided on in the first scopes is so in the second ones. -/
def Later (ss ss₁ : List Scope) : Prop := List.Forall₂ Lasts ss ss₁

/-- Scopes are no earlier than themselves. -/
theorem Later.refl (ss : List Scope) : Later ss ss :=
  List.forall₂_same.mpr fun f _ => .refl f

/-- What comes later than something later comes later. -/
theorem Later.trans {ss₂ : List Scope} (h : Later ss ss₁) (h' : Later ss₁ ss₂) : Later ss ss₂ := by
  induction h generalizing ss₂ with
  | nil => exact h'
  | cons hf _ ih =>
    obtain _ | ⟨hf', hrest'⟩ := h'
    exact .cons (hf.trans hf') (ih hrest')

/-- Scopes in which a local is decided on come later. -/
theorem later_decideLocal (h : lookupLocal ss x = some none) (t : Ty) :
    Later ss (decideLocal x t ss) := by
  -- by the scopes, of which the first one that has the name is changed
  induction ss with
  | nil => nomatch h
  | cons f ss ih =>
    rw [lookupLocal_cons] at h
    rw [decideLocal]
    split
    · next hx =>
      obtain ⟨o, ho⟩ := Option.isSome_iff_exists.mp hx
      rw [ho] at h
      exact .cons (lasts_decideIn (ho.trans h) t) (Later.refl ss)
    · next hx =>
      rw [Option.not_isSome_iff_eq_none.mp hx] at h
      exact .cons (.refl f) (ih h)

/-! ### Scopes that are ahead -/

/-- The locals of the scope at depth `k` that are decided on have the types that `future` gives. -/
def Foretold (future : String → Option Ty) (k : Nat) (ss : List Scope) : Prop :=
  ∀ f, ss[k]? = some f → ∀ x t, f.lookup x = some (some t) → future x = some t

/-- What is foretold of scopes is foretold of earlier ones. -/
theorem Foretold.earlier (h : Foretold future k ss₁) (hl : Later ss ss₁) : Foretold future k ss := by
  induction hl generalizing k with
  | nil => nofun
  | cons hf _ ih =>
    cases k with
    | zero =>
      rintro _ ⟨⟩ x t ht
      exact h _ rfl x t ((hf x).2 t ht)
    | succ k => exact ih h

/-- The second scope knows some types ahead that nothing has been decided on in the first. -/
def Foreseen (future : String → Option Ty) (f f' : Scope) : Prop :=
  ∀ x, f'.lookup x = f.lookup x ∨
    f.lookup x = some none ∧ ∃ t, future x = some t ∧ f'.lookup x = some (some t)

/-- The same names are bound. -/
theorem Foreseen.isSome (h : Foreseen future f f') (x : String) :
    (f'.lookup x).isSome = (f.lookup x).isSome := by
  rcases h x with he | ⟨hnone, t, -, ht⟩
  · rw [he]
  · rw [hnone, ht]
    rfl

/-- The same local is decided on. -/
theorem Foreseen.decide (h : Foreseen future f f') (hx : (f.lookup x).isSome) (t : Ty) :
    Foreseen future (decideIn x t f) (decideIn x t f') := fun y => by
  by_cases hy : y = x
  · subst hy
    rw [lookup_decideIn_self hx, lookup_decideIn_self (h.isSome y ▸ hx)]
    exact .inl rfl
  · rw [lookup_decideIn_ne hy, lookup_decideIn_ne hy]
    exact h y

/-- Scopes that differ at depth `k` only, where the second ones are ahead. -/
inductive Ahead (future : String → Option Ty) : Nat → List Scope → List Scope → Prop
  | here {f f' : Scope} {rest : List Scope} (h : Foreseen future f f') :
    Ahead future 0 (f :: rest) (f' :: rest)
  | there {k : Nat} {f : Scope} {ss ss' : List Scope} (h : Ahead future k ss ss') :
    Ahead future (k + 1) (f :: ss) (f :: ss')

namespace Ahead

/-- A local is the same one, or known ahead. -/
theorem lookup (h : Ahead future k ss ss') (x : String) :
    lookupLocal ss' x = lookupLocal ss x ∨
      lookupLocal ss x = some none ∧ ∃ t, lookupLocal ss' x = some (some t) := by
  induction h with
  | here h =>
    rw [lookupLocal_cons, lookupLocal_cons]
    -- in the scope that differs, the local is the same or only known ahead
    rcases h x with he | ⟨hnone, t, -, ht⟩
    · exact .inl (by rw [he])
    · exact .inr ⟨by rw [hnone]; rfl, t, by rw [ht]; rfl⟩
  | @there _ f _ _ _ ih =>
    rw [lookupLocal_cons, lookupLocal_cons]
    cases f.lookup x with
    | none => exact ih
    | some _ => exact .inl rfl

/-- A local is decided on in both. -/
theorem decide (h : Ahead future k ss ss') (x : String) (t : Ty) :
    Ahead future k (decideLocal x t ss) (decideLocal x t ss') := by
  induction h with
  | here h =>
    rw [decideLocal, decideLocal, h.isSome x]
    split
    · next hx => exact .here (h.decide hx t)
    · exact .here h
  | there h ih =>
    rw [decideLocal, decideLocal]
    split
    · exact .there h
    · exact .there ih

/-- **A local that is known ahead** is decided on as it was foretold. -/
theorem decided (h : Ahead future k ss ss') (hx : lookupLocal ss x = some none)
    (hx' : lookupLocal ss' x = some (some t')) (hfuture : Foretold future k (decideLocal x t ss)) :
    t' = t ∧ Ahead future k (decideLocal x t ss) ss' := by
  induction h with
  | @here f f' rest h =>
    rw [lookupLocal_cons] at hx hx'
    rcases h x with he | ⟨hnone, u, hu, hu'⟩
    · -- a local that is the same on both sides cannot be known on one of them only
      rw [he, hx] at hx'
      nomatch hx'
    · have hsome : (f.lookup x).isSome := hnone ▸ rfl
      rw [hu'] at hx'
      obtain rfl : u = t' := Option.some.inj (Option.some.inj hx')
      rw [decideLocal, if_pos hsome] at hfuture ⊢
      have ht := hfuture _ rfl x t (lookup_decideIn_self hsome t)
      obtain rfl : u = t := Option.some.inj (hu.symm.trans ht)
      refine ⟨rfl, .here fun y => ?_⟩
      -- all other locals of that scope are as they were
      by_cases hy : y = x
      · rw [hy, lookup_decideIn_self hsome, hu']
        exact .inl rfl
      · rw [lookup_decideIn_ne hy]
        exact h y
  | @there _ f _ _ h ih =>
    rw [lookupLocal_cons] at hx hx'
    rw [decideLocal] at hfuture ⊢
    -- a scope further in that binds the name would have hidden the difference
    cases hf : f.lookup x with
    | some _ =>
      rw [hf] at hx hx'
      nomatch hx.symm.trans hx'
    | none =>
      rw [hf] at hx hx' hfuture
      rw [if_neg nofun] at hfuture ⊢
      obtain ⟨rfl, h⟩ := ih hx hx' hfuture
      exact ⟨rfl, .there h⟩

end Ahead

/-! ### Steps -/

/-- Where the step succeeds without diagnostics, it goes the same way when types are known ahead that
are decided on in the end. -/
structure Foresees (future : String → Option Ty) (m : Check α) : Prop where
  runs : ∀ {k s a s₁ ss'}, Gives m s a s₁ → s₁.diagnostics = [] → Foretold future k s₁.scopes →
    Ahead future k s.scopes ss' →
    ∃ ss₁', Gives m { s with scopes := ss' } a { s₁ with scopes := ss₁' } ∧
      Ahead future k s₁.scopes ss₁'
  later : ∀ {s a s₁}, Gives m s a s₁ → Later s.scopes s₁.scopes
  confined : Confined (fun _ => True) (fun _ => True) m

namespace Foresees

/-- A step that only answers goes the same way. -/
theorem pure (a : α) : Foresees future (pure a : Check α) where
  runs h _ _ hs := by
    obtain ⟨rfl, rfl⟩ := gives_pure.mp h
    exact ⟨_, gives_pure.mpr ⟨rfl, rfl⟩, hs⟩
  later h := (gives_pure.mp h).2 ▸ .refl _
  confined := .pure a

/-- Steps that go the same way, one after the other, do so together. -/
theorem bind {m : Check α} {g : α → Check β} (hm : Foresees future m)
    (hg : ∀ a, Foresees future (g a)) : Foresees future (m >>= g) where
  runs h hclean hfuture hs := by
    obtain ⟨a, s₁, h₁, h₂⟩ := gives_bind.mp h
    have hclean₁ := ((hg a).confined.grows h₂).clean hclean
    -- what is foretold of the end is foretold of the state in between, as nothing decided on is lost
    have hfuture₁ := hfuture.earlier ((hg a).later h₂)
    obtain ⟨ss₁', h₁', hs₁⟩ := hm.runs h₁ hclean₁ hfuture₁ hs
    obtain ⟨ss₂', h₂', hs₂⟩ := (hg a).runs h₂ hclean hfuture hs₁
    exact ⟨ss₂', gives_bind.mpr ⟨a, _, h₁', h₂'⟩, hs₂⟩
  later h := by
    obtain ⟨a, s₁, h₁, h₂⟩ := gives_bind.mp h
    exact (hm.later h₁).trans ((hg a).later h₂)
  confined := hm.confined.bind fun a => (hg a).confined

/-- A step that does not look at the state goes the same way. -/
theorem lift (r : Except Fault α) : Foresees future (liftM r : Check α) where
  runs h _ _ hs := by
    obtain ⟨hr, rfl⟩ := gives_lift.mp h
    exact ⟨_, gives_lift.mpr ⟨hr, rfl⟩, hs⟩
  later h := (gives_lift.mp h).2 ▸ .refl _
  confined := .lift r

/-- A step that fails has no way to go. -/
theorem throw (f : Fault) : Foresees future (throw f : Check α) where
  runs h := absurd h not_gives_throw
  later h := absurd h not_gives_throw
  confined := .throw f

/-- A step that does not look at the scopes. -/
theorem modify {g : State → State}
    (hg : ∀ s ss, g { s with scopes := ss } = { g s with scopes := ss })
    (hconfined : Confined (fun _ => True) (fun _ => True) (modify g : Check Unit)) :
    Foresees future (modify g : Check Unit) := by
  have hsame (s : State) : (g s).scopes = s.scopes := by
    have h := congrArg State.scopes (hg s s.scopes)
    exact h
  refine ⟨fun {_ s _ _ ss'} h _ _ hs => ?_, fun {s _ _} h => ?_, hconfined⟩
  · obtain rfl := gives_modify.mp h
    exact ⟨ss', gives_modify.mpr (hg s ss'), (hsame s).symm ▸ hs⟩
  · obtain rfl := gives_modify.mp h
    exact (hsame s).symm ▸ .refl _

end Foresees

/-- Reporting goes the same way, though no run without diagnostics does it. -/
theorem report_foresees (p : Problem) (span : Span) : Foresees future (report p span) :=
  .modify (fun _ _ => rfl) (report_confined p span)

/-- Resolving a written type does not look at locals. -/
theorem resolve_foresees (e : TypeExpr) : Foresees future (resolve c e) := by
  refine (Foresees.modify (fun _ _ => rfl) ?_).bind fun _ => .pure _
  exact .modify fun s => .reported s (resolveType_errors c.scope e)

/-- Nor does filing a type. -/
theorem setType_foresees (i : NodeId) (t : Ty) : Foresees future (setType i t) :=
  .modify (fun _ _ => rfl) (setType_confined trivial t)

/-- Nor does filing a method. -/
theorem setMethod_foresees (i : NodeId) (r : Resolution) : Foresees future (setMethod i r) :=
  .modify (fun _ _ => rfl) (setMethod_confined trivial r)

/-- Nor does filing a declaration. -/
theorem setPath_foresees (i : NodeId) (d : Decl) : Foresees future (setPath i d) :=
  .modify (fun _ _ => rfl) (setPath_confined trivial d)

/-- Nor does filing an adjustment. -/
theorem setAdjusted_foresees (i : NodeId) : Foresees future (setAdjusted i) :=
  .modify (fun _ _ => rfl) (setAdjusted_confined trivial)

/-- What is filed of a step that goes the same way is the same. -/
theorem filed_foresees {i : NodeId} {m : Check Ty} (h : Foresees future m) :
    Foresees future (filed i m) :=
  h.bind fun _ => (setType_foresees i _).bind fun _ => .pure _

/-- A coercion does not look at locals. -/
theorem coerceTo_foresees (e : Expr) (actual : Ty) (expected : Option Ty) :
    Foresees future (coerceTo c e actual expected) := by
  cases expected with
  | none => exact .pure ()
  | some t =>
    refine (Foresees.lift _).bind fun fits => ?_
    cases fits with
    | exact => exact .pure ()
    | adjusted => exact setAdjusted_foresees _
    | mismatch =>
      exact (Foresees.lift _).bind fun _ => (Foresees.lift _).bind fun _ => report_foresees _ _

/-- Nor does asking for a written type. -/
theorem writtenOr_foresees (written : Option TypeExpr) (otherwise : Option Ty) :
    Foresees future (writtenOr c written otherwise) := by
  cases written with
  | none => exact .pure _
  | some _ => exact (resolve_foresees _).bind fun _ => .pure _

variable {node : Node}

/-- Nor does looking up a path that is no local. -/
theorem checkGlobal_foresees (segments : Path) : Foresees future (checkGlobal c node segments) := by
  unfold checkGlobal
  split
  · exact (setPath_foresees _ _).bind fun _ => .pure _
  · split
    · exact (report_foresees _ _).bind fun _ => .pure _
    · unfold checkAssociated
      dsimp only
      -- what the front names does not depend on the locals
      generalize ownerType? c segments.dropLast = owner
      generalize (if owner.isSome then none else c.registry.findTrait? segments.dropLast) = traitPath
      split
      · exact (report_foresees _ _).bind fun _ => .pure _
      · split
        · exact (setPath_foresees _ _).bind fun _ => .pure _
        · exact (report_foresees _ _).bind fun _ => .pure _
        · exact .throw _

/-! ### Paths -/

/-- A local that is decided on without diagnostics takes the type that is expected. -/
theorem decideType_clean {expected : Option Ty} (h : Gives (decideType node x expected) s t s')
    (hclean : s'.diagnostics = []) :
    expected.filter (fun t => t.kind ≠ .unknown) = some t ∧
      s' = { s with scopes := decideLocal x t s.scopes } := by
  unfold decideType at h
  split at h
  · next u hu =>
    obtain ⟨_, hdecide, rfl⟩ := gives_bind_pure.mp h
    exact ⟨hu, (gives_modify.mp hdecide).symm⟩
  · obtain ⟨_, s₁, h₁, h⟩ := gives_bind.mp h
    obtain ⟨_, h₂, -⟩ := gives_bind_pure.mp h
    rw [← gives_modify.mp h₂, ← gives_modify.mp h₁] at hclean
    exact absurd hclean (List.append_ne_nil_of_right_ne_nil _ (List.cons_ne_nil _ _))

/-- A local of which a type is expected is decided to have it. -/
theorem gives_decideType {expected : Option Ty}
    (h : expected.filter (fun t => t.kind ≠ .unknown) = some t) (s : State) :
    Gives (decideType node x expected) s t { s with scopes := decideLocal x t s.scopes } := by
  unfold decideType
  rw [h]
  exact gives_bind_pure.mpr ⟨(), gives_modify.mpr rfl, rfl⟩

/-- **A path to a local that is known ahead** has the type that it would be decided to have. -/
theorem checkPath_foresees (segments : Path) (expected : Option Ty) :
    Foresees future (checkPath c node segments expected) := by
  unfold checkPath
  split
  case h_2 => exact checkGlobal_foresees _
  case h_1 name =>
    refine ⟨fun {k s t s₁ ss'} h hclean hfuture hs => ?_, fun {s t s₁} h => ?_,
      checkPath_confined trivial [name] _⟩
    · have h := gives_get_bind.mp h
      simp only [gives_get_bind]
      -- either the local is the same in both runs, or one decides on it and the other knows its type
      rcases hs.lookup name with he | ⟨hnone, t', ht'⟩
      · rw [he]
        cases hl : lookupLocal s.scopes name with
        | none =>
          rw [hl] at h
          exact (checkGlobal_foresees _).runs h hclean hfuture hs
        | some o =>
          rw [hl] at h
          cases o with
          | none =>
            -- both runs decide on it in the same way
            obtain ⟨ht, rfl⟩ := decideType_clean h hclean
            exact ⟨_, gives_decideType ht _, hs.decide name t⟩
          | some u =>
            obtain ⟨rfl, rfl⟩ := gives_pure.mp h
            exact ⟨ss', gives_pure.mpr ⟨rfl, rfl⟩, hs⟩
      · rw [hnone] at h
        rw [ht']
        obtain ⟨-, rfl⟩ := decideType_clean h hclean
        -- what was foretold is what this run decides on
        obtain ⟨rfl, hs₁⟩ := hs.decided hnone ht' hfuture
        exact ⟨ss', gives_pure.mpr ⟨rfl, rfl⟩, hs₁⟩
    · have h := gives_get_bind.mp h
      split at h
      · rw [(gives_pure.mp h).2]
        exact .refl _
      · next hnone =>
        unfold decideType at h
        split at h
        · obtain ⟨_, h₁, -⟩ := gives_bind_pure.mp h
          rw [← gives_modify.mp h₁]
          exact later_decideLocal hnone _
        · obtain ⟨_, s₂, h₁, h⟩ := gives_bind.mp h
          obtain ⟨_, h₂, -⟩ := gives_bind_pure.mp h
          rw [← gives_modify.mp h₂, ← gives_modify.mp h₁]
          exact later_decideLocal hnone _
      · exact (checkGlobal_foresees _ : Foresees future _).later h

/-! ### What follows on a callee or a receiver -/

/-- Following a type does not look at locals. -/
theorem derefType_foresees (type : Ty) : Foresees future (derefType c node type) := by
  refine (Foresees.lift _).bind fun target => ?_
  split
  · exact .pure _
  · split
    · exact (Foresees.lift _).bind fun _ => (report_foresees _ _).bind fun _ => .pure _
    · exact .pure _

variable {args : List Expr}

/-- Comparing the number of arguments does not either, and checking these goes the same way. -/
theorem arguments_foresees {callable : String} {params : List Ty} {ret : Ty}
    (h : ∀ expected, Foresees future (checkArgs c args expected)) :
    Foresees future (do
      checkArgs c args (← expectedArgs callable node args.length params)
      return ret) := by
  have hexpected : Foresees future (expectedArgs callable node args.length params) := by
    unfold expectedArgs
    split
    · exact .pure _
    · exact (report_foresees _ _).bind fun _ => .pure _
  exact hexpected.bind fun _ => (h _).bind fun _ => .pure _

/-- Once the callee has a type, a call goes the same way. -/
theorem callRest_foresees {callee : Expr} (type : Ty)
    (h : ∀ expected, Foresees future (checkArgs c args expected)) :
    Foresees future (callRest c node callee args type) := by
  unfold callRest
  split
  · exact (Foresees.lift _).bind fun _ => (Foresees.lift _).bind fun _ => arguments_foresees h
  · split
    · exact (Foresees.lift _).bind fun _ => (report_foresees _ _).bind fun _ =>
        (h _).bind fun _ => .pure _
    · exact (h _).bind fun _ => .pure _

/-- Once the receiver has a type, so does a method call. -/
theorem methodRest_foresees {receiver : Expr} {method : String} (type : Ty)
    (h : ∀ expected, Foresees future (checkArgs c args expected)) :
    Foresees future (methodRest c node receiver method args type) := by
  unfold methodRest
  split
  · exact (h _).bind fun _ => .pure _
  · split
    · exact .throw _
    · exact (report_foresees _ _).bind fun _ => (h _).bind fun _ => .pure _
    · next r _ =>
      -- with an adjusted receiver or not, the rest is the same
      have hrest : Foresees future (do
          let params ← (r.decl.type.substSelf r.step).fnParams
          let ret ← (r.decl.type.substSelf r.step).fnRet
          checkArgs c args (← expectedArgs "method" node args.length (params.drop 1))
          return ret) :=
        (Foresees.lift _).bind fun _ => (Foresees.lift _).bind fun _ => arguments_foresees h
      refine (setMethod_foresees _ _).bind fun _ => ?_
      dsimp only
      split
      · exact (setAdjusted_foresees _).bind fun _ => hrest
      · exact hrest

/-! ### Expressions -/

/-- The body of a closure goes the same way, and so does the coercion of its result. -/
theorem closureResult_foresees {ret : Option TypeExpr} {body : Expr} {otherwise : Option Ty}
    (h : ∀ expected, Foresees future (checkExpr c body expected)) :
    Foresees future (closureResult c ret body otherwise) :=
  (writtenOr_foresees _ _).bind fun _ => (h _).bind fun _ =>
    (coerceTo_foresees _ _ _).bind fun _ => .pure _

/-- **A closure inside** has parameters of its own. So what is known ahead is further out. -/
theorem closure_foresees {params : List Param} {ret : Option TypeExpr} {body : Expr}
    {signature : Option (List Ty × Ty)}
    (h : ∀ expected, Foresees future (checkExpr c body expected)) :
    Foresees future (inScope (closureInside c params ret body signature)) := by
  have hresult : Foresees future (closureResult c ret body (signature.map Prod.snd)) :=
    closureResult_foresees h
  refine ⟨fun {k s t s₁ ss'} hg hclean hfuture hs => ?_, fun {s t s₁} hg => ?_,
    .inScope (closureInside_confined trivial fun _ => (h _).confined)⟩
  -- the parameters are bound in a scope that is new in both runs
  · obtain ⟨new, result, types, s₂, hnew, h₂, htypes, rfl, rfl⟩ := (gives_closure hclean).mp hg
    obtain ⟨f, rest, hf, -, hs₂⟩ := List.forall₂_cons_left_iff.mp (hresult.later h₂)
    have hfuture₂ : Foretold future (k + 1) s₂.scopes := by
      rw [hs₂] at hfuture ⊢
      exact hfuture
    obtain ⟨ss₂', h₂', hahead⟩ := hresult.runs h₂ hclean hfuture₂ (.there hs)
    rw [hs₂] at hahead
    obtain _ | @⟨_, _, _, rest', hrest⟩ := hahead
    refine ⟨rest', ?_, ?_⟩
    · -- the names of the parameters are all bound in the scope of the closure
      have htypes' : List.Forall₂ (HasType c (f :: rest')) params types := by
        rw [hs₂] at htypes
        exact hasTypes_top htypes (fun x hx =>
          (hf x).1 (isSome_lookup_iff.mpr ((hnew.names x).mpr hx))) rest'
      exact (gives_closure (by exact hclean)).mpr
        ⟨new, result, types, { s₂ with scopes := f :: rest' }, hnew, h₂', htypes', rfl, rfl⟩
    · rw [hs₂]
      exact hrest
  · obtain ⟨s₃, hinside, rfl⟩ := gives_inScope.mp hg
    rw [closureInside_eq] at hinside
    obtain ⟨_, s₀, h₀, hinside⟩ := gives_bind.mp hinside
    obtain ⟨result, s₂, h₂, hinside⟩ := gives_bind.mp hinside
    obtain ⟨types, htypes, -⟩ := gives_bind_pure.mp hinside
    obtain ⟨new, hnew, -⟩ := bindParams_binds h₀ [] s.scopes rfl
    obtain ⟨f, rest, -, hrest, hs₂⟩ := List.forall₂_cons_left_iff.mp (hnew ▸ hresult.later h₂)
    change Later s.scopes (s₃.scopes.drop 1)
    rw [paramTypes_scopes htypes, hs₂]
    exact hrest

mutual

/-- **The checker goes the same way** when types are known ahead. -/
theorem checkExpr_foresees : (e : Expr) → (expected : Option Ty) →
    Foresees future (checkExpr c e expected)
  | .path node segments, expected => filed_foresees (checkPath_foresees segments expected)
  | .int .., _ | .str .., _ => filed_foresees (.pure _)
  -- by induction on the expression: only paths look at locals, and only closures bind any
  | .borrow _ _ subject, expected => by
    rw [checkExpr_borrow]
    exact filed_foresees <| (Foresees.lift _).bind fun _ =>
      (checkExpr_foresees subject _).bind fun _ => .pure _
  | .deref _ subject, expected => by
    rw [checkExpr_deref]
    exact filed_foresees <| (checkExpr_foresees subject _).bind fun _ => derefType_foresees _
  | .field _ subject _, expected => by
    rw [checkExpr_field]
    exact filed_foresees <| (checkExpr_foresees subject _).bind fun _ => .pure _
  | .call _ callee args, expected => by
    rw [checkExpr_call]
    exact filed_foresees <| (checkExpr_foresees callee _).bind fun _ =>
      callRest_foresees _ (checkArgs_foresees args)
  | .methodCall _ receiver _ args, expected => by
    rw [checkExpr_methodCall]
    exact filed_foresees <| (checkExpr_foresees receiver _).bind fun _ =>
      methodRest_foresees _ (checkArgs_foresees args)
  | .closure _ params ret body, expected => by
    rw [checkExpr_closure]
    exact filed_foresees <| (Foresees.lift _).bind fun _ =>
      closure_foresees (checkExpr_foresees body)

/-- So it does with arguments. -/
theorem checkArgs_foresees : (es : List Expr) → (expected : List (Option Ty)) →
    Foresees future (checkArgs c es expected)
  | [], _ => .pure ()
  | e :: es, expected => by
    rw [checkArgs_cons]
    exact (checkExpr_foresees e _).bind fun _ => (coerceTo_foresees _ _ _).bind fun _ =>
      checkArgs_foresees es _

end

end ClosureLint.Typing
