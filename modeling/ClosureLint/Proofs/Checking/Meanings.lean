import ClosureLint.Proofs.Checking.Paths

/-!
# What a path of several segments means

A path of several segments means the function of that path, or else an item of what its front names,
wherever it stands. No local comes into it.

* `Means`, `means_iff` — what such a path means.
* `gives_means` — how it is checked.
* `Owns` — the front of a path leads to a method.
* `itemOf_iff` — exactly then the path means the method, if no function has the path.
-/

namespace ClosureLint.Typing

open ClosureLint.Core
open ClosureLint.Syntax (Path)

variable {c : Context} {front : Path} {name : String} {d : Decl}

/-- The path `segments` means the declaration `d` under `c`, wherever it stands. -/
def Means (c : Context) (segments : Path) (d : Decl) : Prop :=
  ∀ node expected s, ∃ t s', Gives (checkPath c node segments expected) s t s' ∧
    s'.tables.paths.lookup node.id = some d

/-- What the front of a path names: a type, or else a trait. -/
def itemOf (c : Context) (front : Path) (name : String) : Except (Failure ResolutionError) Decl :=
  c.registry.resolveAssociated (ownerType? c front)
    (if (ownerType? c front).isSome then none else c.registry.findTrait? front) name

theorem checkPath_concat (hfront : front ≠ []) (node : Node) (expected : Option Ty) :
    checkPath c node (front ++ [name]) expected = checkGlobal c node (front ++ [name]) := by
  obtain ⟨a, rest, rfl⟩ := List.exists_cons_of_ne_nil hfront
  cases rest <;> rfl

/-- What a path means under `c`, if anything. -/
def meaning? (c : Context) (segments : Path) : Option Decl :=
  match checkPath c {} segments none {} with
  | .ok (_, s) => s.tables.paths.lookup 0
  | .error _ => none

theorem Means.meaning? {segments : Path} (h : Means c segments d) :
    meaning? c segments = some d := by
  obtain ⟨t, s, hg, hlookup⟩ := h {} none {}
  rw [Typing.meaning?, show checkPath c {} segments none {} = .ok (t, s) from hg]
  exact hlookup

theorem length_concat_ne_one (hfront : front ≠ []) : (front ++ [name]).length ≠ 1 := by
  have := List.length_pos_iff.mpr hfront
  rw [List.length_append, List.length_singleton]
  omega

/-- An item of what the front names is filed under the path. -/
private theorem checkAssociated_ok (hd : itemOf c front name = .ok d) (node : Node) (s : State) :
    Gives (checkAssociated c node (front ++ [name])) s (itemType c front d)
      { s with tables := { s.tables with paths := (node.id, d) :: s.tables.paths } } := by
  unfold itemOf at hd
  unfold checkAssociated itemType
  rw [List.dropLast_concat, show Path.last (front ++ [name]) = name from List.getLastD_concat ..]
  dsimp only
  -- the front is looked up first, in the same way on both sides
  generalize (if (ownerType? c front).isSome then none else c.registry.findTrait? front) = traitPath
    at hd ⊢
  generalize ownerType? c front = owner at hd ⊢
  split
  · next hnone =>
    obtain ⟨howner, htrait⟩ := Bool.and_eq_true_iff.mp hnone
    rw [Option.isNone_iff_eq_none.mp howner, Option.isNone_iff_eq_none.mp htrait] at hd
    nomatch hd
  · rw [hd]
    exact gives_bind_pure.mpr ⟨(), gives_modify.mpr rfl, by cases owner <;> rfl⟩

/-- Without one nothing is filed. -/
private theorem checkAssociated_paths {node : Node} {s s' : State} {t : Ty}
    (h : Gives (checkAssociated c node (front ++ [name])) s t s') :
    (∃ d, itemOf c front name = .ok d ∧ s'.tables.paths = (node.id, d) :: s.tables.paths) ∨
      s'.tables.paths = s.tables.paths := by
  unfold itemOf
  unfold checkAssociated at h
  rw [List.dropLast_concat, show Path.last (front ++ [name]) = name from List.getLastD_concat ..] at h
  dsimp only at h
  generalize (if (ownerType? c front).isSome then none else c.registry.findTrait? front) = traitPath
    at h ⊢
  split at h
  · obtain ⟨_, hreport, -⟩ := gives_bind_pure.mp h
    -- nothing is known by that front, which is reported
    rw [← gives_modify.mp hreport]
    exact .inr rfl
  · split at h
    · next d hd =>
      obtain ⟨_, hset, -⟩ := gives_bind_pure.mp h
      rw [← gives_modify.mp hset]
      exact .inl ⟨d, hd, rfl⟩
    · obtain ⟨_, hreport, -⟩ := gives_bind_pure.mp h
      rw [← gives_modify.mp hreport]
      exact .inr rfl
    · exact absurd h not_gives_throw

/-- What a path of several segments is looked up as: a function, or else an item of what its front
names. -/
theorem found_of_meaning? (hfront : front ≠ []) (h : meaning? c (front ++ [name]) = some d) :
    c.registry.getFree? (Path.text (front ++ [name])) = some d ∨
      c.registry.getFree? (Path.text (front ++ [name])) = none ∧ itemOf c front name = .ok d := by
  unfold meaning? at h
  split at h
  · next t s' hg =>
    have hg : Gives (checkPath c {} (front ++ [name]) none) {} t s' := hg
    rw [checkPath_concat hfront, checkGlobal] at hg
    -- a function of the whole path comes before the item
    cases hfree : c.registry.getFree? (Path.text (front ++ [name])) with
    | some f =>
      rw [hfree] at hg
      obtain ⟨_, hset, -⟩ := gives_bind_pure.mp hg
      rw [← gives_modify.mp hset] at h
      exact .inl h
    | none =>
      rw [hfree] at hg
      dsimp only at hg
      rw [if_neg (length_concat_ne_one hfront)] at hg
      rcases checkAssociated_paths hg with ⟨e, he, hpaths⟩ | hpaths
      · rw [hpaths] at h
        obtain rfl : e = d := Option.some.inj h
        exact .inr ⟨rfl, he⟩
      · rw [hpaths] at h
        nomatch h
  · nomatch h

/-- **What a path of several segments means**: the function of that path, or else the item of what
its front names. -/
theorem means_iff (hfront : front ≠ []) :
    Means c (front ++ [name]) d ↔
      c.registry.getFree? (Path.text (front ++ [name])) = some d ∨
        c.registry.getFree? (Path.text (front ++ [name])) = none ∧ itemOf c front name = .ok d := by
  refine ⟨fun h => found_of_meaning? hfront h.meaning?, ?_⟩
  rintro (hfree | ⟨hfree, hitem⟩) node expected s
  · rw [checkPath_concat hfront, checkGlobal, hfree]
    exact ⟨_, _, gives_bind.mpr ⟨(), _, gives_modify.mpr rfl, gives_pure.mpr ⟨rfl, rfl⟩⟩,
      List.lookup_cons_self⟩
  · rw [checkPath_concat hfront, checkGlobal, hfree]
    dsimp only
    rw [if_neg (length_concat_ne_one hfront)]
    exact ⟨_, _, checkAssociated_ok hitem node s, List.lookup_cons_self⟩

/-- The path `front` leads to the item `d` of the name: to its trait, where it names no type; to a type
filed like the one in whose impl it was declared; or to a type that has no item of the name itself,
while `d` is that of the first trait implemented for it that has one. -/
inductive Owns (c : Context) (front : Path) (name : String) (d : Decl) : Prop
  | trait {path : String} : d.origin = .traitItem path → ownerType? c front = none →
    Owns c front name d
  | own {target owner : Ty} {key : String} : d.origin = .inherent target key →
    ownerType? c front = some owner → owner.implKey = .ok key → Owns c front name d
  | implemented {owner : Ty} {paths : List String} : ownerType? c front = some owner →
    c.registry.getInherent? owner name = .ok none → c.registry.traitsOf owner = .ok paths →
    paths.findSome? (fun path => c.registry.getTraitMethod? path name) = some d →
    Owns c front name d

/-- **The path means the method** that was found on some type exactly if its front leads to it. A front
that names no type is supposed to name the method's trait. -/
theorem itemOf_iff {step : Ty} (h : Registry.MethodAt c.registry name step d)
    (htrait : ∀ path, d.origin = .traitItem path → ownerType? c front = none →
      c.registry.findTrait? front = some path) :
    itemOf c front name = .ok d ↔ Owns c front name d := by
  unfold itemOf
  cases howner : ownerType? c front with
  -- the front is the name of a trait
  | none =>
    rw [if_neg (by decide)]
    constructor
    · intro hd
      unfold Registry.resolveAssociated at hd
      split at hd
      · next hnone _ => nomatch hnone
      · split at hd
        · next hitem =>
          obtain rfl := pure_eq_ok.mp hd
          exact .trait (Registry.getTraitMethod?_mem hitem).2 howner
        · nomatch hd
      · nomatch hd
    · intro hd
      cases hd with
      | own _ h _ | implemented h _ _ _ => nomatch howner.symm.trans h
      | @trait path ho _ =>
        obtain ⟨path', ho', hitem⟩ | ⟨_, _, ho', -⟩ := h.item
        · obtain rfl := Origin.traitItem.inj (ho.symm.trans ho')
          rw [htrait path ho howner, Registry.resolveAssociated, hitem]
          rfl
        · nomatch ho.symm.trans ho'
  -- the front is a type, whose own items come before those of its traits
  | some owner =>
    rw [if_pos (show (some owner).isSome = true from rfl), Registry.resolveAssociated]
    constructor
    · intro hd
      obtain ⟨found, hfound, hd⟩ := bind_eq_ok.mp hd
      have hfound := mapError_eq_ok.mp hfound
      cases found with
      | some e =>
        obtain rfl := pure_eq_ok.mp hd
        obtain ⟨key, hkey, hitem⟩ := Registry.getInherent?_eq_ok hfound
        obtain ⟨-, target, ho⟩ := Registry.getInherentByKey?_mem hitem
        exact .own ho howner hkey
      | none =>
        obtain ⟨paths, hpaths, hd⟩ := bind_eq_ok.mp hd
        split at hd
        · next hfirst =>
          obtain rfl := pure_eq_ok.mp hd
          exact .implemented howner hfound (mapError_eq_ok.mp hpaths) hfirst
        · obtain ⟨_, -, hd⟩ := bind_eq_ok.mp hd
          nomatch hd
    · intro hd
      cases hd with
      | trait _ h => nomatch howner.symm.trans h
      -- the method was found among the type's own items, so it is there for the path too
      | @own target owner' key ho howner' hkey =>
        obtain rfl := Option.some.inj (howner.symm.trans howner')
        obtain ⟨_, ho', -⟩ | ⟨_, _, ho', -, hitem⟩ := h.item
        · nomatch ho.symm.trans ho'
        · obtain ⟨-, rfl⟩ := Origin.inherent.inj (ho.symm.trans ho')
          have hfound : c.registry.getInherent? owner name = .ok (some d) :=
            bind_eq_ok.mpr ⟨key, hkey, congrArg Except.ok hitem⟩
          exact bind_eq_ok.mpr ⟨some d, mapError_eq_ok.mpr hfound, rfl⟩
      | @implemented owner' paths howner' hfound hpaths hfirst =>
        obtain rfl := Option.some.inj (howner.symm.trans howner')
        refine bind_eq_ok.mpr ⟨none, mapError_eq_ok.mpr hfound, ?_⟩
        refine bind_eq_ok.mpr ⟨paths, mapError_eq_ok.mpr hpaths, ?_⟩
        rw [hfirst]
        rfl

end ClosureLint.Typing
