import ClosureLint.Proofs.Core.Paths
import ClosureLint.Proofs.Coupling
import ClosureLint.Typing.Program

/-!
# Contexts that accord

What a path means is looked up among the structs, the traits and the functions. Two contexts may be
asked for the same paths and give the same answers, even if they do not hold the same declarations.

* `TypeScope.Accords`, `Registry.Accords`, `Context.Accords` — the answers for the paths in `A` are the
  same, up to declarations that are related by `V`.
* `Tables.Accords` — results that are the same, up to declarations that are related by `V`.
* `resolveType_accords` — what a written type means whose paths are in `A`.
-/

namespace ClosureLint

open ClosureLint.Core (NodeId)
open ClosureLint.Syntax (Path TypeExpr)

variable {A : Path → Prop} {V : Decl → Decl → Prop}

/-! ### Look-ups -/

/-- The scopes say the same of the structs that paths in `A` name. -/
structure TypeScope.Accords (A : Path → Prop) (s s' : TypeScope) : Prop where
  structs : ∀ path, A path → s'.names.find? path = s.names.find? path
  file : s'.file = s.file
  selfType : s'.selfType = s.selfType

/-- Two methods that calls mean, with declarations that are related by `V`. -/
structure Resolution.Accords (V : Decl → Decl → Prop) (r r' : Resolution) : Prop where
  decl : V r.decl r'.decl
  step : r'.step = r.step
  receiverAdjusted : r'.receiverAdjusted = r.receiverAdjusted

/-- The registries answer alike for functions and traits that paths in `A` name, and for methods. -/
structure Registry.Accords (A : Path → Prop) (V : Decl → Decl → Prop) (r r' : Registry) : Prop where
  types : ∀ d d', V d d' → d'.type = d.type
  functions : ∀ path, A path → Option.Rel V (r.getFree? path.text) (r'.getFree? path.text)
  traits : ∀ path, A path → r'.findTrait? path = r.findTrait? path
  methods : ∀ targets receiver name, Outcomes (Resolution.Accords V)
    (r.resolveMethod targets receiver name) (r'.resolveMethod targets receiver name)
  items : ∀ owner front name, A front → Outcomes V
    (r.resolveAssociated owner (if owner.isSome then none else r.findTrait? front) name)
    (r'.resolveAssociated owner (if owner.isSome then none else r.findTrait? front) name)

theorem Resolution.Accords.refl (r : Resolution) : r.Accords Eq r := ⟨rfl, rfl, rfl⟩

theorem TypeScope.Accords.refl (s : TypeScope) : s.Accords A s := ⟨fun _ _ => rfl, rfl, rfl⟩

theorem Registry.Accords.refl (r : Registry) : r.Accords A Eq r where
  types _ _ h := h ▸ rfl
  functions path _ := by
    cases r.getFree? path.text with
    | none => exact .none
    | some d => exact .some rfl
  traits _ _ := rfl
  methods _ _ _ := .refl Resolution.Accords.refl _
  items _ _ _ _ := .refl (fun _ => rfl) _

/-! ### Written types -/

theorem TypeScope.Accords.builtIn {s s' : TypeScope} (h : s.Accords A s') (path : Path)
    (hasArgs : Bool) : s'.builtIn path hasArgs = s.builtIn path hasArgs := by
  unfold TypeScope.builtIn
  rw [h.selfType]

theorem TypeScope.Accords.unresolved {s s' : TypeScope} (h : s.Accords A s') (l : Loc)
    (p : Problem) : s'.unresolved l p = s.unresolved l p := by
  rw [TypeScope.unresolved, TypeScope.unresolved, h.file]

mutual

/-- **A written type whose paths are in `A`** means the same. -/
theorem resolveType_accords {s s' : TypeScope} (h : s.Accords A s') : (t : TypeExpr) →
    (∀ path ∈ t.paths, A path) → resolveType s' t = resolveType s t
  | .named l path args, ht => by
    rw [TypeExpr.paths, List.forall_mem_cons] at ht
    rw [resolveType, resolveType, h.builtIn, h.structs path ht.1, resolveTypes_accords h args ht.2]
    simp only [h.unresolved]
  | .ref _ _ t, ht | .array _ t _, ht | .slice _ t, ht => by
    rw [resolveType, resolveType, resolveType_accords h t ht]
  | .tuple _ ts, ht => by rw [resolveType, resolveType, resolveTypes_accords h ts ht]
  | .fnPtr _ _ params none, ht => by
    rw [resolveType, resolveType, resolveTypes_accords h params ht]
  | .fnPtr _ _ params (some ret), ht => by
    rw [TypeExpr.paths, List.forall_mem_append] at ht
    rw [resolveType, resolveType, resolveTypes_accords h params ht.1]
    dsimp only
    rw [resolveType_accords h ret ht.2]

theorem resolveTypes_accords {s s' : TypeScope} (h : s.Accords A s') : (ts : List TypeExpr) →
    (∀ path ∈ TypeExpr.pathsAll ts, A path) → resolveTypes s' ts = resolveTypes s ts
  | [], _ => rfl
  | t :: ts, ht => by
    rw [TypeExpr.pathsAll, List.forall_mem_append] at ht
    rw [resolveTypes, resolveTypes, resolveType_accords h t ht.1, resolveTypes_accords h ts ht.2]

end

namespace Typing

/-! ### Contexts and results -/

/-- The contexts give the same meaning to the paths in `A`, up to declarations that are related by
`V`. With a path of several segments its front is in `A` too. -/
structure Context.Accords (A : Path → Prop) (V : Decl → Decl → Prop) (c c' : Context) : Prop where
  fronts : ∀ path, A path → path.length ≠ 1 → A path.dropLast
  scope : c.scope.Accords A c'.scope
  targets : c'.targets = c.targets
  registry : c.registry.Accords A V c'.registry

theorem Context.Accords.refl (c : Context) : c.Accords (fun _ => True) Eq c :=
  ⟨fun _ _ _ => trivial, .refl _, rfl, .refl _⟩

theorem Context.Accords.ownerType? {c c' : Context} (h : c.Accords A V c') {front : Path}
    (hfront : A front) : ownerType? c' front = ownerType? c front := by
  unfold Typing.ownerType?
  rw [h.scope.selfType, h.scope.structs front hfront]

end Typing

/-- Results under the same node, related by `W`. -/
def Filed {α β : Type} (W : α → β → Prop) (a : NodeId × α) (b : NodeId × β) : Prop :=
  b.1 = a.1 ∧ W a.2 b.2

/-- The results are the same, up to declarations that are related by `V`. -/
structure Tables.Accords (V : Decl → Decl → Prop) (t t' : Tables) : Prop where
  types : t'.types = t.types
  adjusted : t'.adjusted = t.adjusted
  methods : List.Forall₂ (Filed (Resolution.Accords V)) t.methods t'.methods
  paths : List.Forall₂ (Filed V) t.paths t'.paths

theorem Filed.eq {α : Type} {W : α → α → Prop} (hW : ∀ a b, W a b → b = a) {l l' : List (NodeId × α)}
    (h : List.Forall₂ (Filed W) l l') : l' = l := by
  induction h with
  | nil => rfl
  | cons hab _ ih => rw [ih, Prod.ext hab.1 (hW _ _ hab.2)]

/-- Results are the same if their declarations are. -/
theorem Tables.Accords.eq {t t' : Tables} (h : t.Accords Eq t') : t' = t := by
  have hresolution (r r' : Resolution) (h : r.Accords Eq r') : r' = r := by
    obtain ⟨decl, step, receiverAdjusted⟩ := r'
    obtain ⟨rfl, rfl, rfl⟩ := h
    rfl
  obtain ⟨types, adjusted, methods, paths⟩ := t
  obtain ⟨types', adjusted', methods', paths'⟩ := t'
  obtain ⟨rfl, rfl, hmethods, hpaths⟩ := h
  obtain rfl := Filed.eq hresolution hmethods
  obtain rfl := Filed.eq (fun _ _ h => h.symm) hpaths
  rfl

theorem Tables.Accords.refl (t : Tables) : t.Accords Eq t :=
  ⟨rfl, rfl, List.forall₂_same.mpr fun _ _ => ⟨rfl, .refl _⟩,
    List.forall₂_same.mpr fun _ _ => ⟨rfl, rfl⟩⟩

end ClosureLint
