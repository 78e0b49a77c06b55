import ClosureLint.Proofs.Checking.Closures
import ClosureLint.Proofs.Registry.Resolve

/-!
# How a path is checked

A path that is no local is filed with the declaration that it means. Its type is that of the
declaration; behind a type, `Self` is replaced in it by that type.

* `itemType` — the type of a path that means an item.
* `checkPath_effect` — what the check of a path files, and what it answers.
* `Visited.path` — the type that a path with a meaning has in the end.
-/

namespace ClosureLint.Typing

open ClosureLint.Core
open ClosureLint.Syntax (Path TypeExpr)

variable {c : Context} {s s' : State} {node : Node} {segments : Path} {t : Ty}
  {expected : Option Ty}

/-- The type of a path with the given front that means `d`. -/
def itemType (c : Context) (front : Path) (d : Decl) : Ty :=
  match ownerType? c front with
  | some owner => d.type.substSelf owner
  | none => d.type

/-- The step from `s` to `s'` that answers `t` files nothing under a path, or it files a declaration
under `node` whose type is `t`, up to what `Self` means. -/
def FilesPath (c : Context) (node : Node) (segments : Path) (s : State) (t : Ty) (s' : State) :
    Prop :=
  s'.tables.paths = s.tables.paths ∨
    ∃ d ∈ c.registry.decls, s'.tables.paths = (node.id, d) :: s.tables.paths ∧
      (t = d.type ∨ t = itemType c segments.dropLast d)

/-- A problem with a path files nothing. -/
private theorem report_filesPath {p : Problem} {span : Span}
    (h : Gives (do report p span; return .unknown) s t s') : FilesPath c node segments s t s' := by
  obtain ⟨_, hreport, -⟩ := gives_bind_pure.mp h
  rw [FilesPath, ← gives_modify.mp hreport]
  exact .inl rfl

theorem checkAssociated_effect (h : Gives (checkAssociated c node segments) s t s') :
    FilesPath c node segments s t s' := by
  unfold checkAssociated at h
  dsimp only at h
  generalize (if (ownerType? c segments.dropLast).isSome then none
    else c.registry.findTrait? segments.dropLast) = traitPath at h
  split at h
  · exact report_filesPath h
  · split at h
    · next d hd =>
      obtain ⟨_, hset, rfl⟩ := gives_bind_pure.mp h
      refine .inr ⟨d, Registry.resolveAssociated_mem hd, ?_, .inr rfl⟩
      rw [← gives_modify.mp hset]
    · exact report_filesPath h
    · exact absurd h not_gives_throw

theorem checkGlobal_effect (h : Gives (checkGlobal c node segments) s t s') :
    FilesPath c node segments s t s' := by
  unfold checkGlobal at h
  split at h
  · next d hd =>
    obtain ⟨_, hset, rfl⟩ := gives_bind_pure.mp h
    refine .inr ⟨d, (Registry.getFree?_mem hd).1, ?_, .inl rfl⟩
    rw [← gives_modify.mp hset]
  · split at h
    · exact report_filesPath h
    · exact checkAssociated_effect h

theorem checkPath_effect (h : Gives (checkPath c node segments expected) s t s') :
    FilesPath c node segments s t s' := by
  unfold checkPath at h
  split at h
  · obtain ⟨_, _, hget, h⟩ := gives_bind.mp h
    obtain ⟨rfl, rfl⟩ := gives_get.mp hget
    split at h
    · obtain ⟨-, rfl⟩ := gives_pure.mp h
      exact .inl rfl
    · exact .inl (congrArg Tables.paths (decideType_tables h))
    · exact checkGlobal_effect h
  · exact checkGlobal_effect h

/-- **The type of a path with a meaning** is that of the declaration, up to what `Self` means. -/
theorem Visited.path {final : State} {d : Decl} (h : Visited c (.path node segments) final)
    (hd : final.tables.paths.lookup node.id = some d) :
    d ∈ c.registry.decls ∧ ∃ t, final.tables.types.lookup node.id = some t ∧
      (t = d.type ∨ t = itemType c segments.dropLast d) := by
  obtain ⟨hfresh, hg, -, hfinal⟩ := h
  have hself : Among (Expr.path node segments).walk node.id :=
    among_of_mem (Expr.mem_walk_self (.path node segments))
  obtain ⟨s₁, hpath, hset⟩ := gives_filed.mp hg
  rw [hfinal.paths _ hself, ← gives_modify.mp hset] at hd
  rw [hfinal.types _ hself, ← gives_modify.mp hset]
  rcases checkPath_effect hpath with hsame | ⟨d', hmem, hfiled, htype⟩
  · have hnone := hfresh.paths _ hself
    rw [hsame, hnone] at hd
    nomatch hd
  · rw [hfiled, List.lookup_cons_self] at hd
    obtain rfl := Option.some.inj hd
    exact ⟨hmem, _, List.lookup_cons_self, htype⟩

end ClosureLint.Typing
