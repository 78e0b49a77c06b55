import ClosureLint.Proofs.Outcome
import ClosureLint.Registry.Resolve

/-!
# Where a use finds its callable

* `getFree?_mem`, `getInherentByKey?_mem`, … — what a look-up finds is declared.
* `MethodAt` — a type has a method of a name, of its own or from one trait.
* `resolveOn_eq_ok` — a method call means the method of the first type of the chain that has one.
-/

namespace ClosureLint

namespace Decl

variable {d : Decl}

theorem traitPath?_eq_some {path : String} : d.traitPath? = some path ↔ d.origin = .traitItem path := by
  unfold traitPath?
  cases d.origin with
  | traitItem p => simp
  | _ => exact ⟨nofun, nofun⟩

theorem isInherent_iff : d.isInherent = true ↔ ∃ target key, d.origin = .inherent target key := by
  unfold isInherent
  cases d.origin with
  | inherent target key => exact ⟨fun _ => ⟨target, key, rfl⟩, fun _ => rfl⟩
  | _ => exact ⟨nofun, nofun⟩

end Decl

namespace Registry

variable {r : Registry} {name : String} {d : Decl}

theorem getFree?_mem {path : String} (h : r.getFree? path = some d) :
    d ∈ r.decls ∧ d.origin = .free := by
  have ho := List.find?_some h
  exact ⟨List.mem_of_find?_eq_some h, (of_decide_eq_true ho).1⟩

theorem getTraitMethod?_mem {traitPath : String} (h : r.getTraitMethod? traitPath name = some d) :
    d ∈ r.decls ∧ d.origin = .traitItem traitPath := by
  have ho := List.find?_some h
  exact ⟨List.mem_of_find?_eq_some h, (of_decide_eq_true ho).1⟩

theorem getInherentByKey?_mem {key : String} (h : r.getInherentByKey? key name = some d) :
    d ∈ r.decls ∧ ∃ target, d.origin = .inherent target key := by
  refine ⟨List.mem_of_find?_eq_some h, ?_⟩
  have ho := List.find?_some h
  split at ho
  · next target k he =>
    obtain ⟨rfl, -⟩ := decide_eq_true_eq.mp ho
    exact ⟨target, he⟩
  · exact absurd ho Bool.false_ne_true

theorem getInherent?_eq_ok {t : Ty} (h : r.getInherent? t name = .ok (some d)) :
    ∃ key, t.implKey = .ok key ∧ r.getInherentByKey? key name = some d := by
  obtain ⟨key, hk, h⟩ := bind_eq_ok.mp h
  exact ⟨key, hk, pure_eq_ok.mp h⟩

/-- The type `step` has the method `d`: of its own, or else from the one trait implemented for it
that has an item of the name. -/
inductive MethodAt (r : Registry) (name : String) (step : Ty) (d : Decl) : Prop where
  | inherent : r.getInherent? step name = .ok (some d) → d.isMethod = true → MethodAt r name step d
  | traitItem : r.traitCandidates step name = .ok [d] → MethodAt r name step d

theorem MethodAt.mem {step : Ty} (h : MethodAt r name step d) :
    d ∈ r.decls ∧ d.isMethod = true := by
  cases h with
  | inherent hd hm =>
    obtain ⟨key, -, hk⟩ := getInherent?_eq_ok hd
    exact ⟨(getInherentByKey?_mem hk).1, hm⟩
  | traitItem h =>
    obtain ⟨paths, -, hp⟩ := bind_eq_ok.mp h
    have hd : d ∈ paths.filterMap fun path => (r.getTraitMethod? path name).filter Decl.isMethod :=
      pure_eq_ok.mp hp ▸ List.mem_singleton_self d
    obtain ⟨path, -, hd⟩ := List.mem_filterMap.mp hd
    obtain ⟨hd, hm⟩ := Option.filter_eq_some_iff.mp hd
    exact ⟨(getTraitMethod?_mem hd).1, hm⟩

/-- What a method that is found on a type is an item of. -/
theorem MethodAt.item {step : Ty} (h : MethodAt r name step d) :
    (∃ path, d.origin = .traitItem path ∧ r.getTraitMethod? path name = some d) ∨
      ∃ target key, d.origin = .inherent target key ∧ step.implKey = .ok key ∧
        r.getInherentByKey? key name = some d := by
  cases h with
  | inherent hd _ =>
    obtain ⟨key, hkey, hitem⟩ := getInherent?_eq_ok hd
    obtain ⟨-, target, ho⟩ := getInherentByKey?_mem hitem
    exact .inr ⟨target, key, ho, hkey, hitem⟩
  | traitItem hd =>
    obtain ⟨paths, -, hp⟩ := bind_eq_ok.mp hd
    have hmem : d ∈ paths.filterMap fun path => (r.getTraitMethod? path name).filter Decl.isMethod :=
      pure_eq_ok.mp hp ▸ List.mem_singleton_self d
    obtain ⟨path, -, hitem⟩ := List.mem_filterMap.mp hmem
    have hitem := (Option.filter_eq_some_iff.mp hitem).1
    exact .inl ⟨path, (getTraitMethod?_mem hitem).2, hitem⟩

private theorem resolution_eq_ok {step receiver : Ty} {res : Resolution}
    (h : resolution d step receiver = .ok res) : res.decl = d ∧ res.step = step ∧
      ∃ expected, expectedReceiver d step = .ok expected ∧
        res.receiverAdjusted = (expected != receiver) := by
  obtain ⟨expected, he, h⟩ := bind_eq_ok.mp h
  rw [← pure_eq_ok.mp h]
  exact ⟨rfl, rfl, expected, he, rfl⟩

/-- **A method call means the method of the first type that has one**; references are passed over,
and so is every type in front without a method of its own. -/
theorem resolveOn_eq_ok {receiver : Ty} {steps : List Ty} {res : Resolution}
    (h : r.resolveOn receiver name steps = .ok res) :
    ∃ before after, steps = before ++ res.step :: after ∧ res.step.isRef = false ∧
      (∀ u ∈ before, u.isRef = true ∨
        ∃ found, r.getInherent? u name = .ok found ∧ found.filter Decl.isMethod = none) ∧
      MethodAt r name res.step res.decl ∧
      ∃ expected, expectedReceiver res.decl res.step = .ok expected ∧
        res.receiverAdjusted = (expected != receiver) := by
  -- along the steps, of which the first that has the method is taken
  induction steps with
  | nil =>
    rw [resolveOn] at h
    obtain ⟨_, -, h⟩ := bind_eq_ok.mp h
    nomatch h
  | cons step steps ih =>
    rw [resolveOn] at h
    split at h
    · next href =>
      obtain ⟨before, after, rfl, hrest⟩ := ih h
      exact ⟨step :: before, after, rfl, hrest.1,
        List.forall_mem_cons.mpr ⟨.inl href, hrest.2.1⟩, hrest.2.2⟩
    · next href =>
      obtain ⟨found, hfound, h⟩ := bind_eq_ok.mp h
      have hfound := mapError_eq_ok.mp hfound
      have href := Bool.eq_false_iff.mpr href
      cases hf : found.filter Decl.isMethod with
      | some d =>
        rw [hf] at h
        obtain ⟨hd, rfl, hex⟩ := resolution_eq_ok (mapError_eq_ok.mp h)
        obtain ⟨rfl, hm⟩ := Option.filter_eq_some_iff.mp hf
        rw [hd]
        exact ⟨[], steps, rfl, href, nofun, .inherent hfound hm, hex⟩
      | none =>
        rw [hf] at h
        obtain ⟨candidates, hcandidates, h⟩ := bind_eq_ok.mp h
        have hcandidates := mapError_eq_ok.mp hcandidates
        -- no candidate lets the search go on, and several are an error
        match candidates, h with
        | [], h =>
          obtain ⟨before, after, rfl, hrest⟩ := ih h
          exact ⟨step :: before, after, rfl, hrest.1,
            List.forall_mem_cons.mpr ⟨.inr ⟨found, hfound, hf⟩, hrest.2.1⟩, hrest.2.2⟩
        | [d], h =>
          obtain ⟨hd, rfl, hex⟩ := resolution_eq_ok (mapError_eq_ok.mp h)
          rw [hd]
          exact ⟨[], steps, rfl, href, nofun, .traitItem hcandidates, hex⟩

/-- The same for a call on a receiver, whose type is the first of the chain. -/
theorem resolveMethod_eq_ok {targets : DerefTable} {receiver : Ty} {res : Resolution}
    (h : r.resolveMethod targets receiver name = .ok res) :
    ∃ steps, receiver.derefChain targets = .ok steps ∧ r.resolveOn receiver name steps = .ok res := by
  obtain ⟨steps, hs, h⟩ := bind_eq_ok.mp h
  exact ⟨steps, mapError_eq_ok.mp hs, h⟩

/-- What a path means is declared. -/
theorem resolveAssociated_mem {owner : Option Ty} {traitPath : Option String}
    (h : r.resolveAssociated owner traitPath name = .ok d) : d ∈ r.decls := by
  unfold resolveAssociated at h
  split at h
  -- an item of the type itself, or of a trait that it implements
  · obtain ⟨found, hfound, h⟩ := bind_eq_ok.mp h
    cases found with
    | some e =>
      obtain ⟨key, -, hk⟩ := getInherent?_eq_ok (mapError_eq_ok.mp hfound)
      exact pure_eq_ok.mp h ▸ (getInherentByKey?_mem hk).1
    | none =>
      obtain ⟨paths, -, h⟩ := bind_eq_ok.mp h
      split at h
      · next hd =>
        obtain ⟨path, -, hd⟩ := List.exists_of_findSome?_eq_some hd
        exact pure_eq_ok.mp h ▸ (getTraitMethod?_mem hd).1
      · obtain ⟨_, -, h⟩ := bind_eq_ok.mp h
        nomatch h
  · split at h
    · next hd => exact pure_eq_ok.mp h ▸ (getTraitMethod?_mem hd).1
    · nomatch h
  · nomatch h

end Registry

end ClosureLint
