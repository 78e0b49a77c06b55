import ClosureLint.Proofs.Types.Regular

/-!
# The kinds in a type

A written type that gives rise to no diagnostics is known at every depth, and it holds a type parameter
only where `Self` stands for one.

* `Ty.Every` — every part of a type has a kind with some property.
* `Ty.Every.substSelf` — where no part is a parameter, there is no `Self` to replace.
* `Kind.Settled`, `resolveType_settled` — the kinds in the meaning of a written type.
-/

namespace ClosureLint

open ClosureLint.Syntax (TypeExpr)

namespace Ty

variable {P : Kind → Prop} {t u : Ty} {params : List Ty} {ret : Ty} {isUnsafe : Bool}

/-- Every part of the type, at every depth, has a kind with the property `P`. -/
inductive Every (P : Kind → Prop) : Ty → Prop
  | intro {t : Ty} : P t.kind → (∀ u ∈ t.params, Every P u) → Every P t

/-- The type holds no type parameter. -/
abbrev Closed (t : Ty) : Prop := t.Every (· ≠ .param)

/-- No part of the type is unknown. -/
abbrev Known (t : Ty) : Prop := t.Every (· ≠ .unknown)

namespace Every

theorem kind (h : t.Every P) : P t.kind := by
  obtain ⟨h, -⟩ := h
  exact h

theorem parts (h : t.Every P) : ∀ u ∈ t.params, u.Every P := by
  obtain ⟨-, h⟩ := h
  exact h

theorem mono {Q : Kind → Prop} (h : t.Every P) (hPQ : ∀ k, P k → Q k) : t.Every Q := by
  induction h with
  | intro h _ ih => exact .intro (hPQ _ h) ih

theorem of_params_eq_nil (h : P t.kind) (hparams : t.params = []) : t.Every P :=
  .intro h fun _ hu => absurd (hparams ▸ hu) List.not_mem_nil

theorem function_iff : (Ty.function params ret isUnsafe).Every P ↔
    P .function ∧ (∀ p ∈ params, p.Every P) ∧ ret.Every P := by
  constructor
  · intro h
    obtain ⟨hparams, hret⟩ := List.forall_mem_append.mp h.parts
    exact ⟨h.kind, hparams, List.forall_mem_singleton.mp hret⟩
  · rintro ⟨h, hparams, hret⟩
    exact .intro h (List.forall_mem_append.mpr ⟨hparams, List.forall_mem_singleton.mpr hret⟩)

theorem ref_iff {isMut : Bool} : (Ty.ref t isMut).Every P ↔ P .ref ∧ t.Every P := by
  constructor
  · exact fun h => ⟨h.kind, h.parts t (List.mem_singleton_self t)⟩
  · rintro ⟨h, ht⟩
    exact .intro h (List.forall_mem_singleton.mpr ht)

/-- **Where no part is a parameter**, there is no `Self` to replace. -/
theorem substSelf (h : t.Closed) (s : Ty) : t.substSelf s = t := by
  induction h with
  | @intro t hkind _ ih =>
    obtain ⟨k, name, ps, isMut, length, isUnsafe⟩ := t
    have hps : substSelfAll ps s = ps := by
      rw [substSelfAll_eq_map]
      exact (List.map_congr_left ih).trans (List.map_id ps)
    rw [Ty.substSelf, if_neg fun h => hkind h.1, hps]

end Every

end Ty

/-- A kind that says something, and is that of a parameter only if parameters may occur. -/
def Kind.Settled (isOpen : Bool) (k : Kind) : Prop := k ≠ .unknown ∧ (k = .param → isOpen = true)

theorem Kind.settled_of_ne {isOpen : Bool} {k : Kind} (hunknown : k ≠ .unknown) (hparam : k ≠ .param) :
    k.Settled isOpen := ⟨hunknown, fun h => absurd h hparam⟩

variable {s : TypeScope} {isOpen : Bool}

theorem primitive?_settled {name : String} {t : Ty} (h : Ty.primitive? name = some t) :
    t.Every (Kind.Settled isOpen) := by
  obtain ⟨ht, hkinds⟩ := Ty.primitive?_eq_some h
  refine .of_params_eq_nil (Kind.settled_of_ne ?_ ?_) (congrArg Ty.params ht)
  · exact fun hk => absurd (hk ▸ hkinds) (by decide)
  · exact fun hk => absurd (hk ▸ hkinds) (by decide)

mutual

/-- **A written type without diagnostics** is known at every depth. -/
theorem resolveType_settled (hs : ∀ t ∈ s.selfType, t.Every (Kind.Settled isOpen)) :
    (e : TypeExpr) → (resolveType s e).2 = [] → (resolveType s e).1.Every (Kind.Settled isOpen)
  | .named l path args, h => by
    rw [resolveType] at h ⊢
    split at h
    · next hu =>
      rcases builtIn_eq_type hu with hself | ⟨_, hprimitive⟩
      · exact hs _ hself
      · exact primitive?_settled hprimitive
    · nomatch h
    -- a name that means no struct is reported
    · split at h
      · nomatch h
      · exact .intro (Kind.settled_of_ne nofun nofun) (resolveTypes_settled hs args h)
  | .ref _ _ inner, h =>
    Ty.Every.ref_iff.mpr ⟨Kind.settled_of_ne nofun nofun, resolveType_settled hs inner h⟩
  | .array _ elem _, h | .slice _ elem, h =>
    .intro (Kind.settled_of_ne nofun nofun)
      (List.forall_mem_singleton.mpr (resolveType_settled hs elem h))
  | .tuple _ elems, h =>
    .intro (Kind.settled_of_ne nofun nofun) (resolveTypes_settled hs elems h)
  | .fnPtr _ _ params none, h =>
    Ty.Every.function_iff.mpr ⟨Kind.settled_of_ne nofun nofun, resolveTypes_settled hs params h,
      .of_params_eq_nil (Kind.settled_of_ne nofun nofun) rfl⟩
  | .fnPtr _ _ params (some ret), h => by
    -- parameters and result report one after the other
    obtain ⟨hparams, hret⟩ := List.append_eq_nil_iff.mp h
    exact Ty.Every.function_iff.mpr ⟨Kind.settled_of_ne nofun nofun,
      resolveTypes_settled hs params hparams, resolveType_settled hs ret hret⟩

theorem resolveTypes_settled (hs : ∀ t ∈ s.selfType, t.Every (Kind.Settled isOpen)) :
    (es : List TypeExpr) → (resolveTypes s es).2 = [] →
    ∀ t ∈ (resolveTypes s es).1, t.Every (Kind.Settled isOpen)
  | [], _ => List.forall_mem_nil _
  | e :: es, h => by
    obtain ⟨he, hes⟩ := List.append_eq_nil_iff.mp h
    exact List.forall_mem_cons.mpr ⟨resolveType_settled hs e he, resolveTypes_settled hs es hes⟩

end

end ClosureLint
