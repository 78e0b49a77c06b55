import ClosureLint.Proofs.Types.Regular

/-!
# What is reported

Everything that checking reports is an error of the type checking phase.

* `Diagnostic.OfChecking` — a diagnostic is one.
* `ofChecking_diagnostic` — so is every problem.
* `resolveType_errors` — so is what a written type gives rise to.
* `resolveType_known` — a written type that gives rise to nothing means something.
-/

namespace ClosureLint

open ClosureLint.Syntax (TypeExpr Path)

/-- An error that the type checking phase reports. -/
structure Diagnostic.OfChecking (d : Diagnostic) : Prop where
  isError : d.isError = true
  phase : d.phase = some "typecheck"

theorem ofChecking_diagnostic (p : Problem) (span : Span) : (p.diagnostic span).OfChecking :=
  ⟨(by decide : ("error" == "error") = true), rfl⟩

mutual

/-- All diagnostics of a written type are such errors. -/
theorem resolveType_errors (s : TypeScope) : (t : TypeExpr) →
    ∀ d ∈ (resolveType s t).2, d.OfChecking
  | .named l path args => by
    rw [resolveType]
    split
    · exact List.forall_mem_nil _
    · exact List.forall_mem_singleton.mpr (ofChecking_diagnostic _ _)
    · split
      · exact List.forall_mem_singleton.mpr (ofChecking_diagnostic _ _)
      · exact resolveTypes_errors s args
  | .ref _ _ inner => resolveType_errors s inner
  | .array _ elem _ => resolveType_errors s elem
  | .slice _ elem => resolveType_errors s elem
  | .tuple _ elems => resolveTypes_errors s elems
  | .fnPtr _ _ params none => resolveTypes_errors s params
  | .fnPtr _ _ params (some ret) =>
    List.forall_mem_append.mpr ⟨resolveTypes_errors s params, resolveType_errors s ret⟩

theorem resolveTypes_errors (s : TypeScope) : (ts : List TypeExpr) →
    ∀ d ∈ (resolveTypes s ts).2, d.OfChecking
  | [] => List.forall_mem_nil _
  | t :: ts =>
    List.forall_mem_append.mpr ⟨resolveType_errors s t, resolveTypes_errors s ts⟩

end

theorem primitive?_known {name : String} {t : Ty} (h : Ty.primitive? name = some t) :
    t.kind ≠ .unknown := by
  intro hk
  have hmem := (Ty.primitive?_eq_some h).2
  rw [hk] at hmem
  exact absurd hmem (by decide)

/-- A written type that is not reported means something, unless `Self` stands for the unknown
type. -/
theorem resolveType_known {s : TypeScope} (hs : ∀ t ∈ s.selfType, t.kind ≠ .unknown) (t : TypeExpr)
    (h : (resolveType s t).2 = []) : (resolveType s t).1.kind ≠ .unknown := by
  cases t with
  | named l path args =>
    rw [resolveType] at h ⊢
    split at h
    · next hu =>
      rcases builtIn_eq_type hu with hself | ⟨_, hprimitive⟩
      · exact hs _ hself
      · exact primitive?_known hprimitive
    · nomatch h
    · split at h
      · nomatch h
      · exact nofun
  | fnPtr _ _ _ ret => cases ret <;> exact nofun
  | ref | array | slice | tuple => exact nofun

end ClosureLint
