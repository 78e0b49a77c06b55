import ClosureLint.Proofs.Checking.Steps
import ClosureLint.Proofs.Types.Shape

/-!
# What is coerced

A value that fits where another type is expected is used as it is, or it is coerced: a reference is
taken to something else, or a function counts as an unsafe one.

* `Reborrows`, `Coerces` — the coercions.
* `NeedsCoercion` — a value has to be coerced where another type is expected.
* `fit_eq_adjusted` — that is when it is adjusted.
* `coerceTo_adjusted` — what accepting an expression leaves about its adjustment.
-/

namespace ClosureLint.Typing

open ClosureLint.Core

variable {targets : DerefTable} {actual expected t u : Ty}

/-- A reference to a value of type `t` may be used as one to a value of type `u`. -/
inductive Reborrows (targets : DerefTable) (t u : Ty) : Prop where
  | same : t = u → Reborrows targets t u
  | unsize {elem : Ty} : t.kind = .array → u.kind = .slice → Ty.firstPart t.params = .ok elem →
      Ty.firstPart u.params = .ok elem → Reborrows targets t u
  | deref {steps : List Ty} : t.derefChain targets = .ok steps → u ∈ steps.drop 1 →
      Reborrows targets t u

/-- There is a coercion from one type to the other. -/
inductive Coerces (targets : DerefTable) (actual expected : Ty) : Prop where
  | ref {t u : Ty} : actual.kind = .ref → expected.kind = .ref →
      (expected.isMut = true → actual.isMut = true) → Ty.firstPart actual.params = .ok t →
      Ty.firstPart expected.params = .ok u → Reborrows targets t u → Coerces targets actual expected
  | function {ts us : List Ty} : actual.kind = .function → expected.kind = .function →
      actual.fnParams = .ok ts → expected.fnParams = .ok us → ts.length = us.length →
      expected.isUnsafe = true → actual.isUnsafe = false → Coerces targets actual expected

/-- A value of type `actual` has to be coerced where `expected` is expected. -/
structure NeedsCoercion (targets : DerefTable) (actual expected : Ty) : Prop where
  known : actual.kind ≠ .unknown ∧ actual.kind ≠ .param
  expectedKnown : expected.kind ≠ .unknown ∧ expected.kind ≠ .param
  differ : actual ≠ expected
  coerces : Coerces targets actual expected

theorem isLenient_eq_false : t.isLenient = false ↔ t.kind ≠ .unknown ∧ t.kind ≠ .param := by
  rw [Ty.isLenient, Bool.or_eq_false_iff, beq_eq_false_iff_ne, beq_eq_false_iff_ne]

/-- What is later in the chain of an array is nothing. -/
private theorem ne_array_of_deref {steps : List Ty} (h : t.derefChain targets = .ok steps)
    (hu : u ∈ steps.drop 1) : t.kind ≠ .array := by
  intro hk
  rw [Ty.derefChain_single (by rw [hk]; decide) (by rw [hk]; decide) h] at hu
  exact absurd hu List.not_mem_nil

/-- **A reference that is coerced** can be reborrowed as what is expected. -/
theorem ref_of_isRefCoercion (h : isRefCoercion targets actual expected = .ok true) :
    actual.kind = .ref ∧ expected.kind = .ref ∧ (expected.isMut = true → actual.isMut = true) ∧
      ∃ t u, Ty.firstPart actual.params = .ok t ∧ Ty.firstPart expected.params = .ok u ∧
        Reborrows targets t u := by
  unfold isRefCoercion at h
  split at h
  · cases pure_eq_ok.mp h
  next hkinds =>
  obtain ⟨hactual, hexpected⟩ := not_or.mp hkinds
  refine ⟨Decidable.not_not.mp hactual, Decidable.not_not.mp hexpected, ?_⟩
  dsimp only at h
  split at h
  · cases pure_eq_ok.mp h
  next hmut =>
  -- a `&` cannot be coerced to a `&mut`
  have hmut : expected.isMut = true → actual.isMut = true := by
    intro he
    rw [he, Bool.true_and, Bool.not_eq_true', Bool.not_eq_false] at hmut
    exact hmut
  obtain ⟨t, ht, h⟩ := bind_eq_ok.mp h
  obtain ⟨u, hu, h⟩ := bind_eq_ok.mp h
  refine ⟨hmut, t, u, ht, hu, ?_⟩
  -- what is left is to find the type further down the deref chain
  have hlater (h : (do return ((← t.derefChain targets).drop 1).contains u) = Except.ok true) :
      Reborrows targets t u := by
    obtain ⟨steps, hsteps, h⟩ := bind_eq_ok.mp h
    exact .deref hsteps (List.contains_iff_mem.mp (pure_eq_ok.mp h))
  split at h
  · next hsame => exact .same hsame
  · split at h
    · next hkinds =>
      obtain ⟨elem, helem, h⟩ := bind_eq_ok.mp h
      obtain ⟨elem', helem', h⟩ := bind_eq_ok.mp h
      split at h
      · next hsame => exact .unsize hkinds.1 hkinds.2 helem (hsame ▸ helem')
      · exact hlater h
    · exact hlater h

/-- And every such reference is coerced. -/
theorem isRefCoercion_of_reborrows (hactual : actual.kind = .ref) (hexpected : expected.kind = .ref)
    (hmut : expected.isMut = true → actual.isMut = true) (ht : Ty.firstPart actual.params = .ok t)
    (hu : Ty.firstPart expected.params = .ok u) (h : Reborrows targets t u) :
    isRefCoercion targets actual expected = .ok true := by
  have hkinds : ¬ (actual.kind ≠ .ref ∨ expected.kind ≠ .ref) :=
    not_or.mpr ⟨not_not_intro hactual, not_not_intro hexpected⟩
  have hmut' : ¬ (expected.isMut && !actual.isMut) = true := by
    cases he : expected.isMut with
    | false => rw [Bool.false_and]; exact Bool.false_ne_true
    | true => rw [hmut he, Bool.not_true, Bool.and_false]; exact Bool.false_ne_true
  unfold isRefCoercion
  rw [if_neg hkinds, ht, hu]
  refine (if_neg hmut').trans ?_
  by_cases hsame : t = u
  · exact if_pos hsame
  refine (if_neg hsame).trans ?_
  cases h with
  | same hsame' => exact absurd hsame' hsame
  | unsize hk hk' helem helem' =>
    refine (if_pos ⟨hk, hk'⟩).trans ?_
    rw [helem, helem']
    exact if_pos rfl
  | deref hsteps hmem =>
    -- an array has no deref chain to go down
    refine (if_neg fun hk => ne_array_of_deref hsteps hmem hk.1).trans ?_
    rw [hsteps]
    exact congrArg Except.ok (List.contains_iff_mem.mpr hmem)

/-- A value is adjusted where it has to be coerced, and nowhere else. -/
theorem fit_eq_adjusted :
    fit targets actual expected = .ok .adjusted ↔ NeedsCoercion targets actual expected := by
  unfold fit
  constructor
  · intro h
    split at h
    · cases pure_eq_ok.mp h
    next hexact =>
    rw [Bool.or_eq_true, Bool.or_eq_true, not_or, not_or, Bool.not_eq_true, Bool.not_eq_true,
      beq_iff_eq] at hexact
    obtain ⟨⟨hexpected, hactual⟩, hne⟩ := hexact
    refine ⟨isLenient_eq_false.mp hactual, isLenient_eq_false.mp hexpected, hne, ?_⟩
    obtain ⟨isCoercion, hcoercion, h⟩ := bind_eq_ok.mp h
    split at h
    · next htrue =>
      obtain ⟨hk, hk', hmut, t, u, ht, hu, hreborrows⟩ := ref_of_isRefCoercion (htrue ▸ hcoercion)
      exact .ref hk hk' hmut ht hu hreborrows
    · split at h
      · next hkinds =>
        obtain ⟨ts, hts, h⟩ := bind_eq_ok.mp h
        obtain ⟨us, hus, h⟩ := bind_eq_ok.mp h
        split at h
        · next hfits =>
          have h := pure_eq_ok.mp h
          split at h
          · cases h
          · next hdiffer =>
            -- of the four cases only one is a coercion that adjusts
            have hunsafe : expected.isUnsafe = true ∧ actual.isUnsafe = false := by
              revert hdiffer hfits
              cases actual.isUnsafe <;> cases expected.isUnsafe <;> simp
            exact .function hkinds.1 hkinds.2 hts hus hfits.1 hunsafe.1 hunsafe.2
        · cases pure_eq_ok.mp h
      · cases pure_eq_ok.mp h
  -- a coercion is tried only where neither type is lenient and they differ
  · rintro ⟨hknown, hexpected, hne, hcoerces⟩
    have hexact : ¬ (expected.isLenient || actual.isLenient || actual == expected) = true := by
      rw [isLenient_eq_false.mpr hknown, isLenient_eq_false.mpr hexpected, Bool.or_false,
        Bool.false_or, beq_iff_eq]
      exact hne
    rw [if_neg hexact]
    cases hcoerces with
    | ref hk hk' hmut ht hu hreborrows =>
      rw [isRefCoercion_of_reborrows hk hk' hmut ht hu hreborrows]
      rfl
    | function hk hk' hts hus hlength hunsafe hsafe =>
      -- functions are no references
      have href : isRefCoercion targets actual expected = .ok false := by
        unfold isRefCoercion
        exact if_pos (.inl (by rw [hk]; decide))
      rw [href, hts, hus, hunsafe, hsafe]
      exact (if_pos ⟨hk, hk'⟩).trans (if_pos ⟨hlength, rfl⟩)

/-! ### The step -/

/-- Accepting an expression adjusts it where it has to be coerced, and leaves it alone elsewhere. -/
theorem coerceTo_adjusted {c : Context} {s s' : State} {e : Expr} {o : Option Ty} {v : Unit}
    (h : Gives (coerceTo c e t o) s v s') :
    e.id ∈ s'.tables.adjusted ↔
      (∃ u, o = some u ∧ NeedsCoercion c.targets t u) ∨ e.id ∈ s.tables.adjusted := by
  cases o with
  | none =>
    obtain ⟨-, rfl⟩ := gives_pure.mp h
    exact ⟨.inr, fun h => h.resolve_left fun ⟨_, hu, _⟩ => by cases hu⟩
  | some u =>
    obtain ⟨f, hf, h⟩ := gives_lift_bind.mp h
    -- what is recorded depends on how the types fit
    have hiff : (∃ v, some u = some v ∧ NeedsCoercion c.targets t v) ↔ f = .adjusted := by
      rw [← Except.ok.injEq (ε := Fault), ← hf, fit_eq_adjusted]
      exact ⟨fun ⟨_, hv, hneeds⟩ => Option.some.inj hv ▸ hneeds, fun hneeds => ⟨u, rfl, hneeds⟩⟩
    rw [hiff]
    cases f with
    | exact =>
      obtain ⟨-, rfl⟩ := gives_pure.mp h
      exact ⟨.inr, fun h => h.resolve_left nofun⟩
    | adjusted =>
      obtain rfl := gives_modify.mp h
      exact ⟨fun _ => .inl rfl, fun _ => List.mem_cons_self⟩
    | mismatch =>
      obtain ⟨_, -, h⟩ := gives_lift_bind.mp h
      obtain ⟨_, -, h⟩ := gives_lift_bind.mp h
      obtain rfl := gives_modify.mp h
      exact ⟨.inr, fun h => h.resolve_left nofun⟩

end ClosureLint.Typing
