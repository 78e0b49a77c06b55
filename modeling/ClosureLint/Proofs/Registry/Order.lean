import ClosureLint.Proofs.Registry.Runs
import ClosureLint.Proofs.Registry.Wider

/-!
# Registrations in another order

What a successful call adds to the registry depends on the call alone, and not on what was
registered before: a declaration, up to its number, or an implementation. So when the same calls are
made in another order, and again they all succeed, the registry holds the same declarations and the
same implementations. No two declarations share a key, so that every look-up finds the same.

* `Registry.accepts` — whether every call of a run succeeds.
* `Registration.declared?`, `Registration.implemented?` — what a call adds.
* `Registry.run_induction` — what every successful call keeps, a run keeps.
* `Registry.contents_run`, `Registry.forall_decls_run`, `Registry.forall_impls_run` — what a run adds.
* `Registry.Filed` — the items of impls are filed under the keys of their types.
* `Registry.Reordered` — registries that hold the same in perhaps another order.
* `Registry.reordered_of_perm` — the calls of a run may be made in any order that is accepted.
* `Registry.Reordered.resolveMethod` — the order does not matter to the search for a method.
-/

namespace ClosureLint

/-! ### What a call adds -/

/-- Whether every one of the calls succeeds. -/
def Registry.accepts (r : Registry) : List Registration → Bool
  | [] => true
  | c :: cs => (c.call r).isOk && (c.perform r).accepts cs

namespace Registration

variable {r r' : Registry} {o : Option Decl}

/-- The declaration that a successful call adds, without its number. -/
def declared? : Registration → Option Decl
  | free path type => some ⟨0, lastSegment path, path, .free, type, none⟩
  | inherent target name type mode =>
    target.implKey.toOption.map fun key =>
      ⟨0, name, key ++ "::" ++ name, .inherent target key, type, mode⟩
  | traitMethod traitPath name type mode =>
    some ⟨0, name, traitPath ++ "::" ++ name, .traitItem traitPath, type, mode⟩
  | trait _ | traitImpl .. => none

/-- The implementation that a successful call adds. -/
def implemented? : Registration → Option (String × String)
  | traitImpl traitPath target => target.implKey.toOption.map fun key => (key, traitPath)
  | _ => none

/-- An item of an impl comes from one call, and is filed under the key of the type. -/
theorem declared?_inherent {c : Registration} {d : Decl} {target : Ty} {key : String}
    (h : c.declared? = some d) (ho : d.origin = .inherent target key) :
    c = .inherent target d.name d.type d.selfMode ∧ target.implKey = .ok key := by
  cases c with
  | inherent target' name type mode =>
    rw [declared?, Option.map_eq_some_iff] at h
    obtain ⟨key', hkey, rfl⟩ := h
    obtain ⟨rfl, rfl⟩ := Origin.inherent.inj ho
    exact ⟨rfl, toOption_eq_some.mp hkey⟩
  -- other calls declare under other origins
  | free | traitMethod =>
    obtain rfl := Option.some.inj h
    cases ho
  | trait | traitImpl => cases h

/-- The path of a trait's item begins with that of the trait. -/
theorem declared?_traitItem {c : Registration} {d : Decl} {traitPath : String}
    (h : c.declared? = some d) (ho : d.origin = .traitItem traitPath) :
    d.path = traitPath ++ "::" ++ d.name := by
  cases c with
  | traitMethod path name type mode =>
    obtain rfl := Option.some.inj h
    obtain rfl := Origin.traitItem.inj ho
    rfl
  | inherent target name type mode =>
    rw [declared?, Option.map_eq_some_iff] at h
    obtain ⟨key, -, rfl⟩ := h
    cases ho
  | free =>
    obtain rfl := Option.some.inj h
    cases ho
  | trait | traitImpl => cases h

/-- An implementation comes from one call, and is filed under the key of the type. -/
theorem implemented?_eq_some {c : Registration} {key path : String} :
    c.implemented? = some (key, path) ↔ ∃ target, c = .traitImpl path target ∧ target.implKey = .ok key := by
  constructor
  · intro h
    cases c with
    | traitImpl traitPath target =>
      rw [implemented?, Option.map_eq_some_iff] at h
      obtain ⟨key', hkey, he⟩ := h
      obtain ⟨rfl, rfl⟩ := Prod.mk.inj he
      exact ⟨target, rfl, toOption_eq_some.mp hkey⟩
    | free | inherent | trait | traitMethod => cases h
  · rintro ⟨target, rfl, hkey⟩
    rw [implemented?, hkey]
    rfl

/-- The second registry holds what the call adds behind what the first holds. -/
structure AddsOwn (c : Registration) (r r' : Registry) : Prop where
  decls : r'.decls.map Decl.unnumbered = r.decls.map Decl.unnumbered ++ c.declared?.toList
  impls : r'.impls = r.impls ++ c.implemented?.toList

/-- A call that adds the declaration `d`. -/
private theorem addsOwn_add {c : Registration} {name path : String} {origin : Origin} {type : Ty}
    {mode : Option SelfMode} (hdecl : c.declared? = some ⟨0, name, path, origin, type, mode⟩)
    (himpl : c.implemented? = none) : c.AddsOwn r (r.add name path origin type mode).2 where
  decls := by
    rw [hdecl, Registry.add, List.map_append]
    rfl
  impls := by
    rw [himpl]
    exact (List.append_nil _).symm

/-- **What a successful call adds** is said by the call alone. -/
theorem addsOwn_of_call {c : Registration} (h : c.call r = .ok (o, r')) : c.AddsOwn r r' := by
  cases c with
  | free path type =>
    simp only [call, Registry.registerFree] at h
    split at h
    · cases h
    · obtain ⟨-, rfl⟩ := Prod.mk.inj (Except.ok.inj h)
      exact addsOwn_add rfl rfl
  | inherent target name type mode =>
    simp only [call, Registry.registerInherent] at h
    cases hkey : target.implKey with
    | error f => rw [hkey] at h; cases h
    | ok k =>
      rw [hkey] at h
      change Except.map _ (if (r.getInherentByKey? k name).isSome then _ else _) = _ at h
      split at h
      · cases htext : target.text <;> rw [htext] at h <;> cases h
      · obtain ⟨-, rfl⟩ := Prod.mk.inj (Except.ok.inj h)
        exact addsOwn_add (by rw [declared?, hkey]; rfl) rfl
  | trait path =>
    simp only [call, Registry.registerTrait] at h
    split at h
    · cases h
    · obtain ⟨-, rfl⟩ := Prod.mk.inj (Except.ok.inj h)
      exact ⟨(List.append_nil _).symm, (List.append_nil _).symm⟩
  | traitMethod traitPath name type mode =>
    simp only [call, Registry.registerTraitMethod] at h
    split at h
    · cases h
    · split at h
      · cases h
      · obtain ⟨-, rfl⟩ := Prod.mk.inj (Except.ok.inj h)
        exact addsOwn_add rfl rfl
  -- an implementation declares nothing
  | traitImpl traitPath target =>
    obtain ⟨key, hkey, -, -, -, rfl⟩ := call_traitImpl_eq_ok.mp h
    refine ⟨(List.append_nil _).symm, ?_⟩
    rw [implemented?, hkey]
    rfl

end Registration

namespace Registry

variable {r r' : Registry} {cs cs' : List Registration}

/-- A successful call leads to what it answers. -/
theorem run_cons {c : Registration} {o : Option Decl} (hcall : c.call r = .ok (o, r')) :
    r.run (c :: cs) = r'.run cs := by
  rw [run, List.foldl_cons, Registration.perform, hcall]
  rfl

/-- A run is accepted if its first call succeeds and the others are accepted behind it. -/
theorem accepts_cons {c : Registration} :
    r.accepts (c :: cs) ↔ ∃ o r', c.call r = .ok (o, r') ∧ r'.accepts cs := by
  rw [accepts, Bool.and_eq_true, Registration.perform]
  constructor
  · rintro ⟨hok, hrest⟩
    cases hcall : c.call r with
    | error f => rw [hcall] at hok; cases hok
    | ok a =>
      rw [hcall] at hrest
      exact ⟨a.1, a.2, rfl, hrest⟩
  · rintro ⟨o, r', hcall, hrest⟩
    rw [hcall]
    exact ⟨rfl, hrest⟩

theorem accepts_append {more : List Registration} :
    r.accepts (cs ++ more) ↔ r.accepts cs ∧ (r.run cs).accepts more := by
  induction cs generalizing r with
  | nil => exact ⟨fun h => ⟨rfl, h⟩, And.right⟩
  | cons c cs ih =>
    rw [List.cons_append, accepts, Bool.and_eq_true, ih, accepts, Bool.and_eq_true, and_assoc]
    rfl

/-- **What an accepted run adds** is said by its calls. -/
theorem contents_run (h : r.accepts cs) :
    (r.run cs).decls.map Decl.unnumbered
        = r.decls.map Decl.unnumbered ++ cs.filterMap Registration.declared? ∧
      (r.run cs).impls = r.impls ++ cs.filterMap Registration.implemented? := by
  induction cs generalizing r with
  | nil => exact ⟨(List.append_nil _).symm, (List.append_nil _).symm⟩
  | cons c cs ih =>
    -- what the first call adds depends on the call alone
    obtain ⟨o, r', hcall, hrest⟩ := accepts_cons.mp h
    have hown := Registration.addsOwn_of_call hcall
    have hcons {β : Type} (f : Registration → Option β) :
        (c :: cs).filterMap f = (f c).toList ++ cs.filterMap f := by
      rw [List.filterMap_cons]
      cases f c <;> rfl
    obtain ⟨hdecls, himpls⟩ := ih hrest
    rw [run_cons hcall, hcons, hcons]
    constructor
    · rw [hdecls, hown.decls, List.append_assoc]
    · rw [himpls, hown.impls, List.append_assoc]

/-- What every successful call keeps, a run keeps: a call that fails changes nothing. -/
theorem run_induction {I : Registry → Prop} (hr : I r)
    (hstep : ∀ c ∈ cs, ∀ r o r', c.call r = .ok (o, r') → I r → I r') : I (r.run cs) := by
  induction cs generalizing r with
  | nil => exact hr
  | cons c cs ih =>
    refine ih ?_ fun c hc => hstep c (List.mem_cons_of_mem _ hc)
    unfold Registration.perform
    split
    · next o r' hcall => exact hstep c List.mem_cons_self r o r' hcall hr
    · exact hr

/-- What is true of all that the calls add is true of all that a run on a new registry holds,
whichever of the calls fail. -/
theorem forall_decls_run {P : Decl → Prop}
    (hcs : ∀ c ∈ cs, ∀ d, c.declared? = some d → P d) : ∀ d ∈ (run {} cs).decls, P d.unnumbered := by
  have hall : ∀ d ∈ (run {} cs).decls.map Decl.unnumbered, P d := by
    refine run_induction (I := fun r => ∀ d ∈ r.decls.map Decl.unnumbered, P d) nofun ?_
    intro c hc r o r' hcall hr
    rw [(Registration.addsOwn_of_call hcall).decls]
    exact List.forall_mem_append.mpr ⟨hr, fun d hd => hcs c hc d (Option.mem_toList.mp hd)⟩
  exact List.forall_mem_map.mp hall

/-- The same is true of the implementations. -/
theorem forall_impls_run {P : String × String → Prop}
    (hcs : ∀ c ∈ cs, ∀ i, c.implemented? = some i → P i) : ∀ i ∈ (run {} cs).impls, P i := by
  refine run_induction (I := fun r => ∀ i ∈ r.impls, P i) nofun ?_
  intro c hc r o r' hcall hr
  rw [(Registration.addsOwn_of_call hcall).impls]
  exact List.forall_mem_append.mpr ⟨hr, fun i hi => hcs c hc i (Option.mem_toList.mp hi)⟩

/-- A call of the run stands behind every declaration. -/
theorem exists_declared {d : Decl} (hd : d ∈ (run {} cs).decls) :
    ∃ c ∈ cs, c.declared? = some d.unnumbered :=
  forall_decls_run (P := fun d => ∃ c ∈ cs, c.declared? = some d) (fun c hc _ h => ⟨c, hc, h⟩) d hd

/-- And behind every implementation. -/
theorem exists_implemented {i : String × String} (hi : i ∈ (run {} cs).impls) :
    ∃ c ∈ cs, c.implemented? = some i :=
  forall_impls_run (P := fun i => ∃ c ∈ cs, c.implemented? = some i) (fun c hc _ h => ⟨c, hc, h⟩) i hi

/-- What a look-up of items needs of a registry: no two declarations share a key, and the items of
impls are filed under the keys of their types. -/
structure Filed (r : Registry) : Prop extends r.Sound where
  filed : ∀ d ∈ r.decls, ∀ target key, d.origin = .inherent target key → target.implKey = .ok key

theorem filed_run (cs : List Registration) : Filed (run {} cs) := by
  refine ⟨sound_empty.run cs, fun d hd target key ho => ?_⟩
  obtain ⟨c, -, hdeclared⟩ := exists_declared hd
  exact (Registration.declared?_inherent hdeclared ho).2

/-! ### Registries that hold the same -/

/-- The registries hold the same declarations, up to their numbers, and the same implementations,
each in an order of its own. -/
structure Reordered (r r' : Registry) : Prop where
  decls : Decl.SameAll r.decls r'.decls
  impls : r.impls.Perm r'.impls

/-- **The same calls in another order** make registries that hold the same, where both runs are
accepted. -/
theorem reordered_of_perm (hperm : cs.Perm cs') (h : accepts {} cs) (h' : accepts {} cs') :
    Reordered (run {} cs) (run {} cs') := by
  obtain ⟨hdecls, himpls⟩ := contents_run h
  obtain ⟨hdecls', himpls'⟩ := contents_run h'
  refine ⟨?_, ?_⟩
  · rw [Decl.SameAll, hdecls, hdecls']
    exact (hperm.filterMap _).append_left _
  · rw [himpls, himpls']
    exact (hperm.filterMap _).append_left _

namespace Reordered

variable (h : r.Reordered r')
include h

theorem symm : r'.Reordered r := ⟨h.decls.symm, h.impls.symm⟩

theorem exists_same {d : Decl} (hd : d ∈ r.decls) : ∃ d' ∈ r'.decls, d.Same d' := by
  obtain ⟨d', hd', heq⟩ := List.mem_map.mp (h.decls.subset (List.mem_map_of_mem hd))
  exact ⟨d', hd', Decl.Same.iff_unnumbered.mpr heq⟩

/-- Every key finds the same declaration. -/
theorem ofKey? (hr : r.Sound) (hr' : r'.Sound) (k : Key) :
    Option.Rel Decl.Same (r.ofKey? k) (r'.ofKey? k) := by
  have hkey {d d' : Decl} (hsame : d.Same d') : d'.key = d.key := by
    rw [Decl.key, hsame.origin, hsame.path, hsame.name, Decl.key]
  cases hfound : r.ofKey? k with
  | some d =>
    obtain ⟨hd, rfl⟩ := hr.ofKey?_eq_some.mp hfound
    obtain ⟨d', hd', hsame⟩ := h.exists_same hd
    rw [hr'.ofKey?_eq_some.mpr ⟨hd', hkey hsame⟩]
    exact .some hsame
  | none =>
    cases hfound' : r'.ofKey? k with
    | none => exact .none
    | some d' =>
      -- what the second registry finds, the first one holds too
      obtain ⟨hd', rfl⟩ := hr'.ofKey?_eq_some.mp hfound'
      obtain ⟨d, hd, hsame⟩ := h.symm.exists_same hd'
      have hk := hkey hsame
      exact absurd (hk ▸ List.mem_map_of_mem hd) (ofKey?_eq_none.mp hfound)

theorem getInherent? (hr : r.Sound) (hr' : r'.Sound) (target : Ty) (item : String) :
    Outcomes (Option.Rel Decl.Same) (r.getInherent? target item) (r'.getInherent? target item) := by
  refine .bind (.refl (fun _ => Eq.refl _) target.implKey) ?_
  rintro k _ rfl
  rw [getInherentByKey?_eq, getInherentByKey?_eq]
  exact .ok (h.ofKey? hr hr' _)

/-- A type's traits may be listed in another order, and so are the items that they have. -/
theorem traitCandidates (hr : r.Sound) (hr' : r'.Sound) (step : Ty) (item : String) :
    Outcomes Decl.SameAll (r.traitCandidates step item) (r'.traitCandidates step item) := by
  -- from the same traits in the same order
  have hitems (ts : List String) : Decl.SameAll
      (ts.filterMap fun t => (r.getTraitMethod? t item).filter Decl.isMethod)
      (ts.filterMap fun t => (r'.getTraitMethod? t item).filter Decl.isMethod) := by
    refine Decl.SameAll.of_forall₂ (List.rel_filterMap ?_ (List.forall₂_same.mpr fun t _ => Eq.refl t))
    rintro t _ rfl
    dsimp only
    rw [getTraitMethod?_eq, getTraitMethod?_eq]
    exact Decl.Same.filter (h.ofKey? hr hr' _)
  have htraits : Outcomes List.Perm (r.traitsOf step) (r'.traitsOf step) := by
    refine .bind (.refl (fun _ => Eq.refl _) step.implKey) ?_
    rintro k _ rfl
    exact .ok ((h.impls.filter _).map _)
  refine .bind htraits fun ts ts' hts => .ok ?_
  exact (hitems ts).trans ((hts.filterMap _).map _)

/-- **The search for a method** finds the same in both. -/
theorem resolveMethod (hr : r.Sound) (hr' : r'.Sound) (targets : DerefTable) (receiver : Ty)
    (item : String) :
    Outcomes (Resolution.Accords Decl.Same) (r.resolveMethod targets receiver item)
      (r'.resolveMethod targets receiver item) := by
  refine .bind (Outcomes.refl (fun _ => Eq.refl _) (receiver.derefChain targets)).lift ?_
  rintro steps _ rfl
  exact resolveOn_same (h.getInherent? hr hr' · item) (h.traitCandidates hr hr' · item) receiver steps

end Reordered

end Registry

end ClosureLint
