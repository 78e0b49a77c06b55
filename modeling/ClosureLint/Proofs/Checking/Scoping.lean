import ClosureLint.Proofs.Checking.Closures
import Mathlib.Data.List.Forall2

/-!
# Scopes over time

What a check does to the scopes is told by the stacks of scopes at the moments it goes through. A
scope that is open stays in its place until it is closed; its locals stay in it, and a local whose
type is decided keeps this type.

* `SameLocal`, `SameLocals`, `Grown` — a local, the locals of a scope, and a scope that gets new
  locals, at two moments.
* `Chronicle` — the stacks that a check goes through, above the scopes that were open before it.
* `Chronicle.pairwise` — any two moments of a chronicle.
* `settle_decideLocal` — deciding on a local that is not decided yet.
* `KeepsScopes` — steps that leave the scopes alone.
-/

namespace ClosureLint.Typing

open ClosureLint.Core
open ClosureLint.Syntax (Path TypeExpr)

variable {c : Context} {s s' : State} {α β : Type}

/-! ### Locals at two moments -/

/-- A local at two moments. Its type may have been decided on in between, if it was not before. -/
structure SameLocal (l l' : String × Option Ty) : Prop where
  name : l'.1 = l.1
  type : l'.2 = l.2 ∨ l.2 = none ∧ ∃ t, l'.2 = some t

/-- Names stay, and a type that is decided on stays too, however many moments go by. -/
instance sameLocal_preorder : IsPreorder (String × Option Ty) SameLocal where
  refl _ := ⟨rfl, .inl rfl⟩
  trans l l' l'' h h' := by
    refine ⟨h'.name.trans h.name, ?_⟩
    rcases h.type with he | ⟨hnone, t, ht⟩
    · rw [← he]
      exact h'.type
    · -- a type that has been decided on stays
      rcases h'.type with he' | ⟨hnone', -⟩
      · exact .inr ⟨hnone, t, he'.trans ht⟩
      · exact absurd (ht.symm.trans hnone') (Option.some_ne_none t)

/-- The locals of a scope at two moments, when none comes in between. -/
def SameLocals (f f' : Scope) : Prop := List.Forall₂ SameLocal f f'

/-- The locals of a scope at two moments, when new ones may come in between. -/
def Grown (f f' : Scope) : Prop := ∃ new kept, f' = new ++ kept ∧ SameLocals f kept

/-- Lists are compared place by place, so a preorder of places is one of lists. -/
instance forall₂_preorder {γ : Type} {R : γ → γ → Prop} [IsPreorder γ R] :
    IsPreorder (List γ) (List.Forall₂ R) where
  refl := List.forall₂_refl
  trans as bs cs h h' := by
    induction h generalizing cs with
    | nil => exact h'
    | cons hab _ ih =>
      obtain _ | ⟨hbc, hrest⟩ := h'
      exact .cons (Trans.trans hab hbc) (ih _ hrest)

/-- What is related to two lists in a row falls into two parts. -/
theorem forall₂_append_split {γ δ : Type} {R : γ → δ → Prop} {as bs : List γ} {cs : List δ}
    (h : List.Forall₂ R (as ++ bs) cs) :
    ∃ as' bs', cs = as' ++ bs' ∧ List.Forall₂ R as as' ∧ List.Forall₂ R bs bs' := by
  induction as generalizing cs with
  | nil => exact ⟨[], cs, rfl, .nil, h⟩
  | cons a as ih =>
    obtain _ | ⟨ha, hrest⟩ := h
    obtain ⟨as', bs', rfl, has, hbs⟩ := ih hrest
    exact ⟨_ :: as', bs', rfl, .cons ha has, hbs⟩

/-- The locals of a scope, compared one by one. -/
instance sameLocals_preorder : IsPreorder Scope SameLocals := forall₂_preorder

/-- A scope that gets no new locals has grown, by none. -/
theorem Grown.of_same {f f' : Scope} (h : SameLocals f f') : Grown f f' := ⟨[], f', rfl, h⟩

/-- A scope that grows twice has grown: the new locals of the second moment stand in front. -/
instance grown_preorder : IsPreorder Scope Grown where
  refl f := .of_same (refl f)
  trans := by
    rintro f f' f'' ⟨new, kept, rfl, h⟩ ⟨new', kept', rfl, h'⟩
    -- the old locals at the second moment are behind the new ones, and so they are at the third
    obtain ⟨front, back, rfl, -, hback⟩ := forall₂_append_split h'
    exact ⟨new' ++ front, back, (List.append_assoc ..).symm, trans_of SameLocals h hback⟩

/-! ### Stacks of scopes over time -/

variable {R R' : Scope → Scope → Prop} {base base' base₁ base₂ : List Scope}
  {inside inside' : List (List Scope)}

/-- A time at whose start `base` is the stack of scopes, and `base'` is what has become of it in the
end. At the moments in between the stacks are `inside`: more scopes may be open then, but those of
`base` are still at the bottom. -/
inductive Chronicle (R : Scope → Scope → Prop) :
    (base : List Scope) → (inside : List (List Scope)) → (base' : List Scope) → Prop
  | nil {base base' : List Scope} : List.Forall₂ R base base' → Chronicle R base [] base'
  | cons {base base₁ base' top : List Scope} {inside : List (List Scope)} :
    List.Forall₂ R base base₁ → Chronicle R base₁ inside base' →
    Chronicle R base ((top ++ base₁) :: inside) base'

namespace Chronicle

/-- What happens before the first moment of a chronicle may be added at its start. -/
theorem start [IsPreorder Scope R] (h : List.Forall₂ R base base₁)
    (h' : Chronicle R base₁ inside base') : Chronicle R base inside base' := by
  cases h' with
  | nil h' => exact .nil (Trans.trans h h')
  | cons h' hrest => exact .cons (Trans.trans h h') hrest

/-- One time follows the other. -/
theorem append [IsPreorder Scope R] (h : Chronicle R base inside base₁)
    (h' : Chronicle R base₁ inside' base') : Chronicle R base (inside ++ inside') base' := by
  -- what the first time does to the scopes at its end is put in front of the second
  induction h with
  | nil h => exact start h h'
  | cons h _ ih => exact .cons h (ih h')

/-- The stack at the end of a chronicle, compared with the one at its start. -/
theorem whole [IsPreorder Scope R] (h : Chronicle R base inside base') :
    List.Forall₂ R base base' := by
  induction h with
  | nil h => exact h
  | cons h _ ih => exact Trans.trans h ih

/-- A chronicle under a relation is one under any weaker relation. -/
theorem mono (hRR' : ∀ {f f'}, R f f' → R' f f') (h : Chronicle R base inside base') :
    Chronicle R' base inside base' := by
  have hstack {ss ss' : List Scope} (h : List.Forall₂ R ss ss') : List.Forall₂ R' ss ss' :=
    h.imp fun _ _ => hRR'
  induction h with
  | nil h => exact .nil (hstack h)
  | cons h _ ih => exact .cons (hstack h) ih

/-- **What is told of a stack** is told of the scopes at its bottom. -/
theorem bottom {top : List Scope} (h : Chronicle R (top ++ base) inside base') :
    ∃ top' base'', base' = top' ++ base'' ∧ top'.length = top.length ∧
      Chronicle R base inside base'' := by
  -- the stack has to be a variable before the induction on the chronicle
  generalize hwhole : top ++ base = whole at h
  induction h generalizing top base with
  | nil h =>
    subst hwhole
    obtain ⟨top', base'', rfl, htop, hbase⟩ := forall₂_append_split h
    exact ⟨top', base'', rfl, htop.length_eq.symm, .nil hbase⟩
  | @cons _ _ _ upper inside h _ ih =>
    subst hwhole
    -- the upper part of the next stack has what has become of `top`, and what was opened above it
    obtain ⟨top₁, base₁, rfl, htop, hbase⟩ := forall₂_append_split h
    obtain ⟨top', base'', rfl, hlength, hrest⟩ := ih rfl
    refine ⟨top', base'', rfl, hlength.trans htop.length_eq.symm, ?_⟩
    rw [← List.append_assoc]
    exact .cons hbase hrest

end Chronicle

/-- The `n` outermost scopes. -/
def outermost (n : Nat) (ss : List Scope) : List Scope := ss.drop (ss.length - n)

/-- The scopes at the bottom are what is left when those above them are dropped. -/
theorem outermost_append (top base : List Scope) : outermost base.length (top ++ base) = base := by
  rw [outermost, List.length_append, Nat.add_sub_cancel, List.drop_left]

/-- **Any two moments of a chronicle**: what was open at its start is still there. -/
theorem Chronicle.pairwise [IsPreorder Scope R] (h : Chronicle R base inside base') :
    (∀ ss ∈ inside, List.Forall₂ R base (outermost base.length ss)) ∧
      inside.Pairwise fun ss ss' =>
        List.Forall₂ R (outermost base.length ss) (outermost base.length ss') := by
  induction h with
  | nil => exact ⟨nofun, .nil⟩
  | @cons base base₁ _ top inside h _ ih =>
    obtain ⟨hall, hpairs⟩ := ih
    -- the stacks keep their height, so the outermost scopes of all moments are counted alike
    rw [← h.length_eq] at hall hpairs
    have hfirst : outermost base.length (top ++ base₁) = base₁ := by
      rw [h.length_eq, outermost_append]
    -- the first moment against the start, the later ones against the start, and the first against the
    -- later ones
    refine ⟨List.forall_mem_cons.mpr ⟨?_, fun ss hss => ?_⟩, List.pairwise_cons.mpr ⟨?_, hpairs⟩⟩
    · rw [hfirst]
      exact h
    · exact Trans.trans h (hall ss hss)
    · rw [hfirst]
      exact hall

/-! ### Deciding on a local -/

/-- A scope keeps its locals when one of them that is not decided yet gets its type. -/
theorem sameLocals_decideIn {f : Scope} {x : String} (h : f.lookup x = some none) (t : Ty) :
    SameLocals f (decideIn x t f) := by
  induction f with
  | nil => nomatch h
  | cons l ls ih =>
    rw [decideIn]
    split
    · next hname =>
      -- this is the local that is looked up, so its type is not decided
      subst hname
      rw [List.lookup_cons_self] at h
      exact .cons ⟨rfl, .inr ⟨Option.some.inj h, t, rfl⟩⟩ (List.forall₂_refl ls)
    · next hname =>
      -- another local of the scope, which stays as it is
      rw [List.lookup_cons, beq_false_of_ne fun he => hname he.symm] at h
      exact .cons (refl l) (ih h)

/-- **A local that is not decided yet** may be decided on. -/
theorem settle_decideLocal {ss : List Scope} {x : String} (h : lookupLocal ss x = some none)
    (t : Ty) : List.Forall₂ SameLocals ss (decideLocal x t ss) := by
  induction ss with
  | nil => nomatch h
  | cons f ss ih =>
    -- the local is looked up and decided on in the same scope, the first that has one of the name
    rw [lookupLocal_cons] at h
    rw [decideLocal]
    split
    · next hsome =>
      obtain ⟨type, htype⟩ := Option.isSome_iff_exists.mp hsome
      rw [htype] at h
      exact .cons (sameLocals_decideIn (htype.trans h) t) (List.forall₂_refl ss)
    · next hnone =>
      rw [Option.not_isSome_iff_eq_none.mp hnone] at h
      exact .cons (refl f) (ih h)

/-! ### Steps that leave the scopes alone -/

/-- A step that leaves the scopes as they are, if it succeeds. -/
structure KeepsScopes (m : Check α) : Prop where
  kept : ∀ {s a s'}, Gives m s a s' → s'.scopes = s.scopes

namespace KeepsScopes

/-- A step that does nothing. -/
theorem pure (a : α) : KeepsScopes (pure a : Check α) := ⟨fun h => by rw [(gives_pure.mp h).2]⟩

/-- A step that only answers, or fails. -/
theorem lift (x : Except Fault α) : KeepsScopes (liftM x : Check α) :=
  ⟨fun h => by rw [(gives_lift.mp h).2]⟩

/-- A step that fails leaves no scopes behind. -/
theorem throw (f : Fault) : KeepsScopes (throw f : Check α) := ⟨fun h => absurd h not_gives_throw⟩

/-- A step that writes to the state, but not to its scopes. -/
theorem modify {g : State → State} (hg : ∀ s, (g s).scopes = s.scopes) :
    KeepsScopes (modify g : Check Unit) := ⟨fun h => by rw [← gives_modify.mp h, hg]⟩

/-- Two steps in a row. -/
theorem bind {m : Check α} {f : α → Check β} (hm : KeepsScopes m) (hf : ∀ a, KeepsScopes (f a)) :
    KeepsScopes (m >>= f) where
  kept h := by
    obtain ⟨a, s₁, h₁, h₂⟩ := gives_bind.mp h
    exact ((hf a).kept h₂).trans (hm.kept h₁)

end KeepsScopes

/-- A diagnostic is no matter of scopes. -/
theorem report_keepsScopes (p : Problem) (span : Span) : KeepsScopes (report p span) :=
  .modify fun _ => rfl

/-- Neither is a type that is recorded, -/
theorem setType_keepsScopes (id : NodeId) (t : Ty) : KeepsScopes (setType id t) :=
  .modify fun _ => rfl

/-- what a path denotes, -/
theorem setPath_keepsScopes (id : NodeId) (d : Decl) : KeepsScopes (setPath id d) :=
  .modify fun _ => rfl

/-- the method of a call, -/
theorem setMethod_keepsScopes (id : NodeId) (r : Resolution) : KeepsScopes (setMethod id r) :=
  .modify fun _ => rfl

/-- or the mark of an adjustment. -/
theorem setAdjusted_keepsScopes (id : NodeId) : KeepsScopes (setAdjusted id) :=
  .modify fun _ => rfl

variable {node : Node}

/-- A path that is no local is looked for among the declarations. -/
theorem checkGlobal_keepsScopes (segments : Path) : KeepsScopes (checkGlobal c node segments) := by
  unfold checkGlobal
  split
  · exact (setPath_keepsScopes _ _).bind fun _ => .pure _
  · split
    · exact (report_keepsScopes _ _).bind fun _ => .pure _
    · unfold checkAssociated
      -- the two lookups only decide between the branches
      dsimp only
      generalize ownerType? c segments.dropLast = owner
      generalize (if owner.isSome then none else c.registry.findTrait? segments.dropLast)
        = traitPath
      split
      · exact (report_keepsScopes _ _).bind fun _ => .pure _
      · split
        · exact (setPath_keepsScopes _ _).bind fun _ => .pure _
        · exact (report_keepsScopes _ _).bind fun _ => .pure _
        · exact .throw _

/-- Whether a type can be dereferenced has nothing to do with the locals. -/
theorem derefType_keepsScopes (type : Ty) : KeepsScopes (derefType c node type) := by
  refine (KeepsScopes.lift _).bind fun target => ?_
  split
  · exact .pure _
  · split
    · exact (KeepsScopes.lift _).bind fun _ => (report_keepsScopes _ _).bind fun _ => .pure _
    · exact .pure _

/-- Nor has the number of arguments. -/
theorem expectedArgs_keepsScopes (callable : String) (given : Nat) (params : List Ty) :
    KeepsScopes (expectedArgs callable node given params) := by
  unfold expectedArgs
  split
  · exact .pure _
  · exact (report_keepsScopes _ _).bind fun _ => .pure _

/-- **A path may decide on a local**, and does nothing else to the scopes. -/
theorem checkPath_settles {segments : Path} {expected : Option Ty} {t : Ty}
    (h : Gives (checkPath c node segments expected) s t s') :
    List.Forall₂ SameLocals s.scopes s'.scopes := by
  -- all but one of the branches leave the scopes alone
  have hkept {s'' : State} (he : s''.scopes = s.scopes) :
      List.Forall₂ SameLocals s.scopes s''.scopes := by
    rw [he]
    exact List.forall₂_refl _
  unfold checkPath at h
  split at h
  · have h := gives_get_bind.mp h
    split at h
    · exact hkept (by rw [(gives_pure.mp h).2])
    -- a local without a type yet, which the use of it decides
    · next hnone =>
      unfold decideType at h
      split at h
      · obtain ⟨_, hdecide, -⟩ := gives_bind_pure.mp h
        rw [← gives_modify.mp hdecide]
        exact settle_decideLocal hnone _
      -- nothing is expected either: this is reported, and the local has the type of an error
      · obtain ⟨_, s₁, hreport, h⟩ := gives_bind.mp h
        obtain ⟨_, hdecide, -⟩ := gives_bind_pure.mp h
        rw [← gives_modify.mp hdecide, ← report_scopes hreport] at *
        exact settle_decideLocal hnone _
    · exact hkept ((checkGlobal_keepsScopes _).kept h)
  · exact hkept ((checkGlobal_keepsScopes _).kept h)

end ClosureLint.Typing
