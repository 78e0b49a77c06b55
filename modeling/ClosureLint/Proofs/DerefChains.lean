import Mathlib.Data.List.Chain
import Mathlib.Data.List.Nodup
import ClosureLint.Proofs.Checking.Steps
import ClosureLint.Proofs.Types.WellFormed

/-!
# What a deref chain consists of

A method is looked for on the types that its receiver derefs to, and an explicit `*e` derefs one type.
Both follow the same rule. A table of targets may lead round in a circle or on for ever, and a chain
through it ends all the same: before the first type that repeats, and after 17 types.

* `Ty.DerefsTo` — the rule: what a reference refers to, and the declared target of a struct.
* `Typing.DerefTyped`, `Typing.DerefRefused` — what the checker makes of an explicit dereference.
* `Ty.Walked` — the way to a type, which one step more extends.
* `IsDerefChain` — a chain that follows the rule as far as it may.
* `derefChain_follows` — every well-formed type has such a chain, whatever the targets.
-/

namespace ClosureLint

open ClosureLint.Core (Expr Node)

variable {targets : DerefTable} {t u cur : Ty}

/-! ### One step -/

namespace Ty

/-- What a type dereferences to. -/
inductive DerefsTo (targets : DerefTable) : Ty → Ty → Prop
  | reference {t u : Ty} {rest : List Ty} : t.kind = .ref → t.params = u :: rest →
    DerefsTo targets t u
  | target {t u : Ty} : t.kind = .nominal → targets.lookup t.name = some u → DerefsTo targets t u

theorem deref?_eq_some : t.deref? targets = .ok (some u) ↔ t.DerefsTo targets u := by
  constructor
  · intro h
    unfold deref? at h
    split at h
    · next hk =>
      -- a reference without a part is malformed
      cases hps : t.params with
      | nil =>
        rw [hps] at h
        nomatch h
      | cons p rest =>
        rw [hps] at h
        obtain rfl := Option.some.inj (Except.ok.inj h)
        exact .reference hk hps
    · next hk => exact .target hk (pure_eq_ok.mp h)
    · nomatch h
  · rintro (⟨hk, hps⟩ | ⟨hk, hu⟩)
    · rw [deref?, hk, hps]
      rfl
    · rw [deref?, hk, hu]
      rfl

theorem not_derefsTo (h : t.deref? targets = .ok none) (u : Ty) : ¬ t.DerefsTo targets u :=
  fun hu => nomatch h.symm.trans (deref?_eq_some.mpr hu)

/-- Dereferencing fails for want of a part only. -/
theorem deref?_eq_error {f : Fault} (h : t.deref? targets = .error f) : f = .missingPart := by
  unfold deref? at h
  split at h
  · cases hps : t.params with
    | nil =>
      rw [hps] at h
      exact (Except.error.inj h).symm
    | cons p rest =>
      rw [hps] at h
      nomatch h
  · nomatch h
  · nomatch h

end Ty

namespace Typing

/-- Wherever the checker gives an expression the type `t`, it gives its dereference the type `u`, and
has nothing to report about that. -/
def DerefTyped (targets : DerefTable) (t u : Ty) : Prop :=
  ∀ (c : Context) (node : Node) (e : Expr) (expected : Option Ty) (s s' : State),
    c.targets = targets → Gives (checkExpr c e none) s t s' →
    ∃ s'', Gives (checkExpr c (.deref node e) expected) s u s'' ∧ s''.diagnostics = s'.diagnostics

/-- Wherever the checker gives an expression the type `t`, it cannot give its dereference a type, and
reports that unless nothing is known about `t` either. -/
def DerefRefused (targets : DerefTable) (t : Ty) : Prop :=
  ∀ (c : Context) (node : Node) (e : Expr) (expected : Option Ty) (s s' : State),
    c.targets = targets → Gives (checkExpr c e none) s t s' →
    ∃ s'', Gives (checkExpr c (.deref node e) expected) s .unknown s'' ∧
      if t.kind = .unknown then s''.diagnostics = s'.diagnostics
      else ∃ text, t.text = .ok text ∧ s''.diagnostics
        = s'.diagnostics ++ [(Problem.notDereferenceable text).diagnostic node.span]

variable {c : Context} {node : Node} {e : Expr} {expected : Option Ty} {s s' s'' : State}

/-- An explicit dereference checks the expression first, and files its own type last. -/
theorem gives_deref (he : Gives (checkExpr c e none) s t s') (h : Gives (derefType c node t) s' u s'') :
    Gives (checkExpr c (.deref node e) expected) s u
      { s'' with tables := { s''.tables with types := (node.id, u) :: s''.tables.types } } := by
  rw [checkExpr_deref]
  exact gives_filed.mpr ⟨s'', gives_bind.mpr ⟨t, s', he, h⟩, gives_modify.mpr rfl⟩

theorem derefTyped (h : t.DerefsTo targets u) : DerefTyped targets t u := by
  rintro c node e expected s s' rfl he
  have hstep : Gives (derefType c node t) s' u s' :=
    gives_lift_bind.mpr ⟨some u, Ty.deref?_eq_some.mpr h, gives_pure.mpr ⟨rfl, rfl⟩⟩
  exact ⟨_, gives_deref he hstep, rfl⟩

theorem derefRefused (ht : t.WellFormed) (h : t.deref? targets = .ok none) :
    DerefRefused targets t := by
  rintro c node e expected s s' rfl he
  -- for an unknown type no second diagnostic is added
  by_cases hk : t.kind = .unknown
  · have hstep : Gives (derefType c node t) s' .unknown s' := by
      refine gives_lift_bind.mpr ⟨none, h, ?_⟩
      dsimp only
      rw [if_neg (not_not_intro hk)]
      exact gives_pure.mpr ⟨rfl, rfl⟩
    exact ⟨_, gives_deref he hstep, (if_pos hk).mpr rfl⟩
  · obtain ⟨text, htext, -⟩ := Ty.WellFormed.text t ht
    have hstep : Gives (derefType c node t) s' .unknown { s' with diagnostics :=
        s'.diagnostics ++ [(Problem.notDereferenceable text).diagnostic node.span] } := by
      refine gives_lift_bind.mpr ⟨none, h, ?_⟩
      dsimp only
      rw [if_pos hk, htext]
      exact gives_lift_bind.mpr
        ⟨text, rfl, gives_modify_bind.mpr (gives_pure.mpr ⟨rfl, rfl⟩)⟩
    exact ⟨_, gives_deref he hstep, (if_neg hk).mpr ⟨text, htext, rfl⟩⟩

end Typing

/-! ### The way through a table -/

/-- `chain` starts at `t` and follows the rule, and so explicit dereferences, as far as it may. -/
structure IsDerefChain (targets : DerefTable) (t : Ty) (chain : List Ty) : Prop where
  begins : chain.head? = some t
  distinct : chain.Nodup
  bounded : chain.length ≤ 17
  /-- Each type derefs to the next, and the checker gives a dereference that type. -/
  steps : chain.IsChain fun a b => a.DerefsTo targets b ∧ Typing.DerefTyped targets a b
  /-- The last type cannot be dereferenced, or derefs to one of the chain, or there are 17. -/
  ends : ∀ last ∈ chain.getLast?,
    ((∀ u, ¬ last.DerefsTo targets u) ∧ (last.WellFormed → Typing.DerefRefused targets last)) ∨
      (∃ u ∈ chain, last.DerefsTo targets u) ∨ chain.length = 17

namespace Ty

variable {seen chain : List Ty} {fuel : Nat}

/-- `seen` are the types from `t` on to `cur`, each of which derefs to the next. -/
structure Walked (targets : DerefTable) (t cur : Ty) (seen : List Ty) : Prop where
  begins : seen.head? = some t
  current : seen.getLast? = some cur
  distinct : seen.Nodup
  steps : seen.IsChain (DerefsTo targets)

namespace Walked

theorem start (targets : DerefTable) (t : Ty) : Walked targets t t [t] :=
  ⟨rfl, rfl, List.nodup_singleton t, .singleton t⟩

/-- **One step more**, to a type that was not there. -/
theorem step (h : Walked targets t cur seen) (hu : cur.DerefsTo targets u) (hnew : u ∉ seen) :
    Walked targets t u (seen ++ [u]) where
  begins := by rw [List.head?_append, h.begins, Option.some_or]
  current := List.getLast?_concat
  distinct := List.concat_eq_append ▸ h.distinct.concat hnew
  steps := by
    refine h.steps.append (.singleton u) fun x hx y hy => ?_
    obtain rfl := Option.some.inj (h.current.symm.trans hx)
    obtain rfl := Option.some.inj hy
    exact hu

/-- Where the walk may not go on, it has made a deref chain. -/
theorem isDerefChain (h : Walked targets t cur seen) (hlength : seen.length ≤ 17)
    (hends : cur.deref? targets = .ok none ∨ (∃ u ∈ seen, cur.DerefsTo targets u) ∨
      seen.length = 17) : IsDerefChain targets t seen where
  begins := h.begins
  distinct := h.distinct
  bounded := hlength
  steps := h.steps.imp fun _ _ hab => ⟨hab, Typing.derefTyped hab⟩
  ends last hlast := by
    obtain rfl := Option.some.inj (h.current.symm.trans hlast)
    exact hends.imp_left fun hnone => ⟨not_derefsTo hnone, fun hwf => Typing.derefRefused hwf hnone⟩

/-- **The rest of a walk**: what the search for further types gives is a deref chain, when the types
so far and the steps that are left make 17. -/
theorem derefFrom (h : Walked targets t cur seen) (hlength : seen.length + fuel = 17)
    (hchain : derefFrom targets fuel seen cur = .ok chain) : IsDerefChain targets t chain := by
  -- on the steps that are left, along with the walk so far
  induction fuel generalizing seen cur with
  | zero =>
    obtain rfl := pure_eq_ok.mp hchain
    exact h.isDerefChain hlength.le (.inr (.inr hlength))
  | succ fuel ih =>
    have hshort : seen.length ≤ 17 := by omega
    rw [Ty.derefFrom] at hchain
    obtain ⟨next, hnext, hchain⟩ := bind_eq_ok.mp hchain
    cases next with
    | none =>
      obtain rfl := pure_eq_ok.mp hchain
      exact h.isDerefChain hshort (.inl hnext)
    | some u =>
      have hu := deref?_eq_some.mp hnext
      dsimp only at hchain
      split at hchain
      -- the circle is closed
      · next hmem =>
        obtain rfl := pure_eq_ok.mp hchain
        exact h.isDerefChain hshort (.inr (.inl ⟨u, hmem, hu⟩))
      · next hnew =>
        refine ih (h.step hu hnew) ?_ hchain
        rw [List.length_append, List.length_singleton]
        omega

end Walked

theorem derefFrom_eq_error {f : Fault} (h : derefFrom targets fuel seen cur = .error f) :
    f = .missingPart := by
  induction fuel generalizing seen cur with
  | zero => cases h
  | succ fuel ih =>
    rw [derefFrom] at h
    -- the step fails, or a later one does
    rcases bind_eq_error.mp h with h | ⟨next, -, h⟩
    · exact deref?_eq_error h
    · cases next with
      | none => cases h
      | some u =>
        dsimp only at h
        split at h
        · cases h
        · exact ih h

end Ty

/-- **The deref chain of a well-formed type**, for any targets, whatever circles they make and however
far they lead: it starts with the type, repeats none and has at most 17, each of them is what the
checker gives to a dereference of the one before, and it ends only where there is nothing more to
follow. There is no chain only if the walk comes to a reference to nothing, for which a target in the
table has to be malformed itself. -/
theorem derefChain_follows (h : t.WellFormed) (targets : DerefTable) :
    (∃ chain, t.derefChain targets = .ok chain ∧ IsDerefChain targets t chain) ∨
      t.derefChain targets = .error .missingPart ∧ ∃ d ∈ targets, ¬ d.2.WellFormed := by
  cases hchain : t.derefChain targets with
  | ok chain => exact .inl ⟨chain, rfl, (Ty.Walked.start targets t).derefFrom rfl hchain⟩
  | error f =>
    refine .inr ⟨congrArg _ (Ty.derefFrom_eq_error hchain), ?_⟩
    by_contra hall
    obtain ⟨chain, hok, -⟩ := h.derefChain fun d hd => by_contra fun hd' => hall ⟨d, hd, hd'⟩
    nomatch hchain.symm.trans hok

/-- Two structs that deref to each other, one through a reference, and a struct behind 20 references to
itself. -/
def windingTargets : DerefTable :=
  [("Left", .ref (.nominal "Right")), ("Right", .nominal "Left"),
    ("Deep", Nat.repeat (Ty.ref ·) 20 (.nominal "Deep"))]

/-- **A circle is followed until it closes**, which is not where the arguments of a struct differ. -/
theorem derefChain_circle :
    (Ty.ref (.nominal "Left" [.str]) true).WellFormed ∧ windingTargets.WellFormed ∧
      (Ty.ref (.nominal "Left" [.str]) true).derefChain windingTargets
        = .ok [.ref (.nominal "Left" [.str]) true, .nominal "Left" [.str], .ref (.nominal "Right"),
          .nominal "Right", .nominal "Left"] ∧
      IsDerefChain windingTargets (.ref (.nominal "Left" [.str]) true)
        [.ref (.nominal "Left" [.str]) true, .nominal "Left" [.str], .ref (.nominal "Right"),
          .nominal "Right", .nominal "Left"] := by
  have htype : (Ty.ref (.nominal "Left" [.str]) true).WellFormed := by decide
  have htargets : ∀ d ∈ windingTargets, d.2.WellFormed := by decide
  have hchain : (Ty.ref (.nominal "Left" [.str]) true).derefChain windingTargets
      = .ok [.ref (.nominal "Left" [.str]) true, .nominal "Left" [.str], .ref (.nominal "Right"),
        .nominal "Right", .nominal "Left"] := rfl
  refine ⟨htype, htargets, hchain, ?_⟩
  rcases derefChain_follows htype windingTargets with ⟨chain, hok, h⟩ | ⟨-, d, hd, hmalformed⟩
  · obtain rfl := Except.ok.inj (hchain.symm.trans hok)
    exact h
  · exact absurd (htargets d hd) hmalformed

/-- A struct behind many references is not reached again. -/
example : ((Ty.nominal "Deep").derefChain windingTargets).map List.length = .ok 17 := rfl

end ClosureLint
