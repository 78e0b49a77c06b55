import ClosureLint.Proofs.Registry.Order
import ClosureLint.Proofs.Registry.Resolve
import ClosureLint.Proofs.Types.WellFormed

/-!
# The search for a method

A method is looked for along the deref chain of its receiver's type. The first type of the chain
that is no reference and has a method of the name settles the search: by its own method, or else by
that of the only trait implemented for it that has one; two such traits make the call ambiguous.
What is registered under the name without a receiver is no method, and hides none.

* `Registry.OwnMethod`, `Registry.TraitMethod` — the methods of a type, by what is registered.
* `Registry.Hit` — a type that settles the search.
* `Registry.AnswersAt`, `Registry.FirstHit` — the answer, by the first hit of the chain.
* `Registry.resolveOn_firstHit` — the search along any types.
* `Registry.firstHit_resolves` — the search for a receiver, after any run of registrations in any
  order.
-/

namespace ClosureLint

/-- A method that is registered with the type of its receiver spelled out has one: the first of its
parameters. -/
def Registration.GivesReceiver (c : Registration) : Prop :=
  ∀ d, c.declared? = some d → d.selfMode = some .typed →
    ∃ self params, d.type.fnParams = .ok (self :: params)

namespace Registry

variable {r : Registry} {name path : String} {step receiver : Ty} {d : Decl}

/-! ### The methods of a type -/

/-- The method `d` of the given name was registered for `step`, or for a type filed under the same
key. -/
structure OwnMethod (r : Registry) (step : Ty) (name : String) (d : Decl) : Prop where
  declared : d ∈ r.decls
  named : d.name = name
  receives : d.isMethod = true
  item : ∃ target key, d.origin = .inherent target key ∧ target.implKey = .ok key ∧
    step.implKey = .ok key

/-- The method `d` of the given name is an item of the trait `path`, which is implemented for
`step`. -/
structure TraitMethod (r : Registry) (step : Ty) (name path : String) (d : Decl) : Prop where
  declared : d ∈ r.decls
  named : d.name = name
  receives : d.isMethod = true
  item : d.origin = .traitItem path
  implemented : ∃ key, step.implKey = .ok key ∧ (key, path) ∈ r.impls

/-- The type is no reference, and it has a method of the name, of its own or from a trait. -/
def Hit (r : Registry) (name : String) (step : Ty) : Prop :=
  step.isRef = false ∧
    ((∃ d, r.OwnMethod step name d) ∨ ∃ path d, r.TraitMethod step name path d)

/-- A trait as an error names it. -/
def shownTrait (path : String) : String := if path.isEmpty then "?" else path

/-- What a search answers that `step` settles. -/
inductive AnswersAt (r : Registry) (name : String) (receiver step : Ty) :
    Except (Failure ResolutionError) Resolution → Prop
  | own {d : Decl} {needed : Ty} : r.OwnMethod step name d → (∀ d', r.OwnMethod step name d' → d' = d) →
    expectedReceiver d step = .ok needed →
    AnswersAt r name receiver step (.ok ⟨d, step, needed != receiver⟩)
  | onlyTrait {path : String} {d : Decl} {needed : Ty} : (∀ d', ¬ r.OwnMethod step name d') →
    r.TraitMethod step name path d →
    (∀ path' d', r.TraitMethod step name path' d' → path' = path ∧ d' = d) →
    expectedReceiver d step = .ok needed →
    AnswersAt r name receiver step (.ok ⟨d, step, needed != receiver⟩)
  | ambiguous {paths shown : List String} : (∀ d', ¬ r.OwnMethod step name d') → paths.Nodup →
    2 ≤ paths.length → (∀ path, path ∈ paths ↔ ∃ d, r.TraitMethod step name path d) →
    shown.Perm (paths.map shownTrait) →
    AnswersAt r name receiver step (.error (.refused (.ambiguous name shown)))

/-- What a search along `steps` answers: that there is no method, or what the first hit says. -/
inductive FirstHit (r : Registry) (name : String) (receiver : Ty) :
    List Ty → Except (Failure ResolutionError) Resolution → Prop
  | noHit {steps : List Ty} {text : String} : (∀ s ∈ steps, ¬ r.Hit name s) → receiver.text = .ok text →
    FirstHit r name receiver steps (.error (.refused (.noMethod name text)))
  | hit {before after : List Ty} {s : Ty} {x : Except (Failure ResolutionError) Resolution} :
    (∀ u ∈ before, ¬ r.Hit name u) → r.Hit name s → r.AnswersAt name receiver s x →
    FirstHit r name receiver (before ++ s :: after) x

theorem FirstHit.skip {steps : List Ty} {x : Except (Failure ResolutionError) Resolution}
    (hstep : ¬ r.Hit name step) (h : r.FirstHit name receiver steps x) :
    r.FirstHit name receiver (step :: steps) x := by
  cases h with
  | noHit hsteps htext => exact .noHit (List.forall_mem_cons.mpr ⟨hstep, hsteps⟩) htext
  | hit hbefore hs hx =>
    rw [← List.cons_append]
    exact .hit (List.forall_mem_cons.mpr ⟨hstep, hbefore⟩) hs hx

/-! ### What the look-ups find -/

/-- What the search needs of a registry: no two declarations share a key, the items of impls are
filed under the keys of their types, and the receivers that are asked for are there. -/
structure Searchable (r : Registry) : Prop extends r.Sound where
  filed : ∀ d ∈ r.decls, ∀ target key, d.origin = .inherent target key → target.implKey = .ok key
  receivers : ∀ d ∈ r.decls, d.selfMode = some .typed →
    ∃ self params, d.type.fnParams = .ok (self :: params)

/-- **A run of registrations** makes such a registry. -/
theorem searchable_run {cs : List Registration} (hcs : ∀ c ∈ cs, c.GivesReceiver) :
    Searchable (run {} cs) := by
  refine ⟨sound_empty.run cs, (filed_run cs).filed, ?_⟩
  exact forall_decls_run (P := fun d => d.selfMode = some .typed →
    ∃ self params, d.type.fnParams = .ok (self :: params)) hcs

/-- What the search takes from the impls of a type is its own method. -/
theorem ownMethod_iff (h : r.Searchable) {found : Option Decl}
    (hfound : r.getInherent? step name = .ok found) :
    found.filter Decl.isMethod = some d ↔ r.OwnMethod step name d := by
  obtain ⟨key, hkey, hk⟩ := bind_eq_ok.mp hfound
  obtain rfl := pure_eq_ok.mp hk
  rw [Option.filter_eq_some_iff, h.getInherentByKey?_eq_some]
  constructor
  · rintro ⟨⟨hd, hname, target, ho⟩, hm⟩
    exact ⟨hd, hname, hm, target, key, ho, h.filed d hd target key ho, hkey⟩
  -- both types have the one key that this type has
  · rintro ⟨hd, hname, hm, target, key', ho, -, hkey'⟩
    obtain rfl := Except.ok.inj (hkey.symm.trans hkey')
    exact ⟨⟨hd, hname, target, ho⟩, hm⟩

/-- What the search takes from a trait. -/
theorem getTraitMethod?_method (h : r.Searchable) :
    (r.getTraitMethod? path name).filter Decl.isMethod = some d ↔
      d ∈ r.decls ∧ d.name = name ∧ d.isMethod = true ∧ d.origin = .traitItem path := by
  rw [Option.filter_eq_some_iff, h.getTraitMethod?_eq_some]
  constructor
  · rintro ⟨⟨hd, hname, ho⟩, hm⟩
    exact ⟨hd, hname, hm, ho⟩
  · rintro ⟨hd, hname, hm, ho⟩
    exact ⟨⟨hd, hname, ho⟩, hm⟩

theorem mem_traitsByKey {key : String} : path ∈ r.traitsByKey key ↔ (key, path) ∈ r.impls := by
  rw [traitsByKey, List.mem_map]
  constructor
  · rintro ⟨i, hi, rfl⟩
    obtain ⟨hi, hk⟩ := List.mem_filter.mp hi
    rwa [← of_decide_eq_true hk]
  · intro hi
    exact ⟨(key, path), List.mem_filter.mpr ⟨hi, decide_eq_true rfl⟩, rfl⟩

/-- A trait has at most one method of a name. -/
theorem TraitMethod.unique (h : r.Searchable) {d' : Decl} (hd : r.TraitMethod step name path d)
    (hd' : r.TraitMethod step name path d') : d' = d := by
  have hfound {e : Decl} (he : r.TraitMethod step name path e) :
      (r.getTraitMethod? path name).filter Decl.isMethod = some e :=
    (getTraitMethod?_method h).mpr ⟨he.declared, he.named, he.receives, he.item⟩
  exact Option.some.inj ((hfound hd').symm.trans (hfound hd))

/-- What is kept of a list, next to what it gives. -/
theorem forall₂_filterMap {α β : Type} (f : α → Option β) (l : List α) :
    List.Forall₂ (fun a b => a ∈ l ∧ f a = some b) (l.filter fun a => (f a).isSome)
      (l.filterMap f) := by
  induction l with
  | nil => exact .nil
  | cons a l ih =>
    have hrest := ih.imp fun b c ⟨hb, hc⟩ => (⟨List.mem_cons_of_mem a hb, hc⟩ : b ∈ a :: l ∧ _)
    rw [List.filter_cons, List.filterMap_cons]
    cases ha : f a with
    | none => exact hrest
    | some b => exact .cons ⟨List.mem_cons_self, ha⟩ hrest

/-- **What the search takes from traits** are the methods of the type's traits, each trait once. -/
theorem traitMethods_of_candidates (h : r.Searchable) {ds : List Decl}
    (hds : r.traitCandidates step name = .ok ds) :
    ∃ paths, paths.Nodup ∧ List.Forall₂ (r.TraitMethod step name) paths ds ∧
      ∀ path, path ∈ paths ↔ ∃ d, r.TraitMethod step name path d := by
  obtain ⟨ts, hts, hp⟩ := bind_eq_ok.mp hds
  have hnodup := h.traitsOf_nodup hts
  obtain ⟨key, hkey, hts⟩ := bind_eq_ok.mp hts
  obtain rfl := pure_eq_ok.mp hts
  obtain rfl := pure_eq_ok.mp hp
  -- a trait is looked at for the item exactly where it is implemented for the key
  have hitem (path : String) (d : Decl) : path ∈ r.traitsByKey key ∧
      (r.getTraitMethod? path name).filter Decl.isMethod = some d ↔
        r.TraitMethod step name path d := by
    rw [getTraitMethod?_method h, mem_traitsByKey]
    constructor
    · rintro ⟨himpl, hd, hname, hm, ho⟩
      exact ⟨hd, hname, hm, ho, key, hkey, himpl⟩
    · rintro ⟨hd, hname, hm, ho, key', hkey', himpl⟩
      obtain rfl := Except.ok.inj (hkey.symm.trans hkey')
      exact ⟨himpl, hd, hname, hm, ho⟩
  refine ⟨_, hnodup.filter _, (forall₂_filterMap _ _).imp fun path d => (hitem path d).mp, ?_⟩
  intro path
  rw [List.mem_filter, Option.isSome_iff_exists, ← exists_and_left]
  exact exists_congr (hitem path)

/-- The error names the traits of the candidates. -/
theorem candidateTraits_perm {paths : List String} {ds : List Decl}
    (h : List.Forall₂ (r.TraitMethod step name) paths ds) :
    (candidateTraits ds).Perm (paths.map shownTrait) := by
  have hpaths : ds.filterMap Decl.traitPath? = paths := by
    induction h with
    | nil => rfl
    | cons hd _ ih =>
      rw [List.filterMap_cons, Decl.traitPath?_eq_some.mpr hd.item]
      exact congrArg _ ih
  rw [candidateTraits, hpaths]
  exact List.mergeSort_perm _ _

/-! ### The search -/

/-- A method asks for some receiver type. -/
theorem exists_expectedReceiver (h : r.Searchable) (hd : d ∈ r.decls) (hm : d.isMethod = true)
    (step : Ty) : ∃ needed, expectedReceiver d step = .ok needed := by
  obtain ⟨mode, hmode⟩ := Option.isSome_iff_exists.mp hm
  unfold expectedReceiver
  rw [hmode]
  cases mode with
  | byRef | byRefMut | byValue => exact ⟨_, rfl⟩
  | typed =>
    -- a written receiver type is the first parameter, which is there
    obtain ⟨self, params, hparams⟩ := h.receivers d hd hmode
    have hself : d.selfType? = .ok (some self) := by
      rw [Decl.selfType?, hmode]
      dsimp only
      rw [hparams]
      rfl
    dsimp only
    rw [hself]
    exact ⟨_, rfl⟩

theorem resolution_eq {needed : Ty} (h : expectedReceiver d step = .ok needed) :
    (liftM (resolution d step receiver) : Except (Failure ResolutionError) Resolution)
      = .ok ⟨d, step, needed != receiver⟩ := by
  rw [resolution, h]
  rfl

theorem FirstHit.here {steps : List Ty} {x : Except (Failure ResolutionError) Resolution}
    (hhit : r.Hit name step) (hx : r.AnswersAt name receiver step x) :
    r.FirstHit name receiver (step :: steps) x :=
  show r.FirstHit name receiver ([] ++ step :: steps) x from .hit nofun hhit hx

/-- A type without a method of its own: no candidate lets the search go on, and several are an
error. -/
theorem firstHit_of_candidates (h : r.Searchable) (href : step.isRef = false)
    (hno : ∀ d, ¬ r.OwnMethod step name d) {steps : List Ty}
    (hrest : r.FirstHit name receiver steps (r.resolveOn receiver name steps)) {ds : List Decl}
    {x : Except (Failure ResolutionError) Resolution}
    (hx : x = match ds with
      | [] => r.resolveOn receiver name steps
      | [d] => liftM (resolution d step receiver)
      | ds => throw (.refused (.ambiguous name (candidateTraits ds))))
    (hds : r.traitCandidates step name = .ok ds) : r.FirstHit name receiver (step :: steps) x := by
  subst hx
  obtain ⟨paths, hnodup, hpaths, hall⟩ := traitMethods_of_candidates h hds
  -- no candidate, one candidate, or two and more
  rcases hpaths with _ | @⟨path, d, _, _, hd, _ | @⟨path', d', paths, ds, hd', hmore⟩⟩
  · refine hrest.skip fun ⟨_, hhit⟩ => ?_
    obtain ⟨d, hd⟩ | ⟨path, hd⟩ := hhit
    · exact hno d hd
    · exact absurd ((hall path).mpr hd) List.not_mem_nil
  · have honly (path' : String) (d' : Decl) (hd' : r.TraitMethod step name path' d') :
        path' = path ∧ d' = d := by
      obtain rfl := List.mem_singleton.mp ((hall path').mpr ⟨d', hd'⟩)
      exact ⟨rfl, hd.unique h hd'⟩
    obtain ⟨needed, hneeded⟩ := exists_expectedReceiver h hd.declared hd.receives step
    dsimp only
    rw [resolution_eq hneeded]
    exact .here ⟨href, .inr ⟨path, d, hd⟩⟩ (.onlyTrait hno hd honly hneeded)
  · have htwo : 2 ≤ (path :: path' :: paths).length := Nat.le_add_left 2 _
    have hshown := candidateTraits_perm (.cons hd (.cons hd' hmore))
    exact .here ⟨href, .inr ⟨path, d, hd⟩⟩ (.ambiguous hno hnodup htwo hall hshown)

/-- A look-up that does not fail gives its answer. -/
theorem liftM_ok {α ε : Type} (a : α) :
    (liftM (.ok a : Except Fault α) : Except (Failure ε) α) = pure a := rfl

/-- **The search along any types** is settled by the first hit. -/
theorem resolveOn_firstHit (h : r.Searchable) (hreceiver : receiver.WellFormed) {steps : List Ty}
    (hsteps : ∀ u ∈ steps, u.WellFormed) :
    r.FirstHit name receiver steps (r.resolveOn receiver name steps) := by
  induction steps with
  | nil =>
    obtain ⟨text, htext, -⟩ := Ty.WellFormed.text receiver hreceiver
    rw [resolveOn, htext]
    exact .noHit (List.forall_mem_nil _) htext
  -- references are passed over, and each other type is asked for its own method before its traits
  | cons step steps ih =>
    obtain ⟨hstep, hsteps⟩ := List.forall_mem_cons.mp hsteps
    have hrest := ih hsteps
    rw [resolveOn]
    split
    · next href => exact hrest.skip fun hhit => Bool.eq_false_iff.mp hhit.1 href
    · next href =>
      have href := Bool.eq_false_iff.mpr href
      -- a well-formed type has a key, so neither look-up for it can fail
      obtain ⟨key, hkey, -⟩ := hstep.implKey
      obtain ⟨found, hfound⟩ : ∃ found, r.getInherent? step name = .ok found := by
        rw [getInherent?, hkey]
        exact ⟨_, rfl⟩
      obtain ⟨ds, hds⟩ : ∃ ds, r.traitCandidates step name = .ok ds := by
        rw [traitCandidates, traitsOf, hkey]
        exact ⟨_, rfl⟩
      have hown (d : Decl) : found.filter Decl.isMethod = some d ↔ r.OwnMethod step name d :=
        ownMethod_iff h hfound
      rw [hfound, liftM_ok, pure_bind]
      cases hf : found.filter Decl.isMethod with
      | some d =>
        rw [hf] at hown
        have hd := (hown d).mp rfl
        have honly (d' : Decl) (hd' : r.OwnMethod step name d') : d' = d :=
          (Option.some.inj ((hown d').mpr hd')).symm
        obtain ⟨needed, hneeded⟩ := exists_expectedReceiver h hd.declared hd.receives step
        dsimp only
        rw [resolution_eq hneeded]
        exact .here ⟨href, .inl ⟨d, hd⟩⟩ (.own hd honly hneeded)
      | none =>
        rw [hf] at hown
        have hno (d : Decl) : ¬ r.OwnMethod step name d := fun hd =>
          absurd ((hown d).mpr hd).symm (Option.some_ne_none d)
        dsimp only
        rw [hds]
        exact firstHit_of_candidates h href hno hrest rfl hds

/-! ### The search for a receiver -/

/-- **The search for a method is settled by the first hit of the receiver's deref chain**, after any
run of registrations and for any deref targets, cycles included; and it answers the same, up to the
numbers of the declarations, when the same registrations succeed in another order. -/
theorem firstHit_resolves (cs : List Registration) (targets : DerefTable) (receiver : Ty)
    (name : String) :
    ((∀ c ∈ cs, c.GivesReceiver) → targets.WellFormed → receiver.WellFormed →
      ∃ steps, receiver.derefChain targets = .ok steps ∧
        (run {} cs).FirstHit name receiver steps ((run {} cs).resolveMethod targets receiver name)) ∧
    ∀ cs', cs.Perm cs' → accepts {} cs → accepts {} cs' →
      Outcomes (Resolution.Accords Decl.Same) ((run {} cs).resolveMethod targets receiver name)
        ((run {} cs').resolveMethod targets receiver name) := by
  constructor
  · intro hcs htargets hreceiver
    obtain ⟨steps, hsteps, hall⟩ := hreceiver.derefChain htargets
    refine ⟨steps, hsteps, ?_⟩
    rw [resolveMethod, hsteps]
    exact resolveOn_firstHit (searchable_run hcs) hreceiver hall
  · intro cs' hperm h h'
    have hsame := reordered_of_perm hperm h h'
    exact hsame.resolveMethod (sound_empty.run cs) (sound_empty.run cs') targets receiver name

/-- Registrations by which `Wrap` has an item `get` without a receiver, and `Cell` a method `get`
from the trait `Show`. -/
def getterCalls : List Registration :=
  [.trait "Show",
    .traitMethod "Show" "get" (.function [.ref .selfParam] .str false) (some .typed),
    .inherent (.nominal "Wrap") "get" (.function [] .str false) none,
    .traitImpl "Show" (.nominal "Cell")]

/-- The same registrations in another order. -/
def reorderedCalls : List Registration :=
  [.inherent (.nominal "Wrap") "get" (.function [] .str false) none,
    .trait "Show",
    .traitImpl "Show" (.nominal "Cell"),
    .traitMethod "Show" "get" (.function [.ref .selfParam] .str false) (some .typed)]

/-- `Wrap` derefs to `Cell`, and `Cell` to `Wrap`. -/
def cyclicTargets : DerefTable := [("Wrap", .nominal "Cell"), ("Cell", .nominal "Wrap")]

/-- **A call on `&Wrap` finds the method of `Cell`** behind the item of `Wrap`, and does so after
the reordered registrations too. -/
theorem cyclicGetter_resolved :
    (∀ c ∈ getterCalls, c.GivesReceiver) ∧ cyclicTargets.WellFormed ∧
      (Ty.ref (.nominal "Wrap")).WellFormed ∧ getterCalls.Perm reorderedCalls ∧
      accepts {} getterCalls ∧ accepts {} reorderedCalls ∧
      (∃ steps, (Ty.ref (.nominal "Wrap")).derefChain cyclicTargets = .ok steps ∧
        (run {} getterCalls).FirstHit "get" (.ref (.nominal "Wrap")) steps
          ((run {} getterCalls).resolveMethod cyclicTargets (.ref (.nominal "Wrap")) "get")) ∧
      Outcomes (Resolution.Accords Decl.Same)
        ((run {} getterCalls).resolveMethod cyclicTargets (.ref (.nominal "Wrap")) "get")
        ((run {} reorderedCalls).resolveMethod cyclicTargets (.ref (.nominal "Wrap")) "get") ∧
      (run {} getterCalls).resolveMethod cyclicTargets (.ref (.nominal "Wrap")) "get"
        = .ok ⟨⟨1, "get", "Show::get", .traitItem "Show", .function [.ref .selfParam] .str false,
          some .typed⟩, .nominal "Cell", true⟩ := by
  have hgives : ∀ c ∈ getterCalls, c.GivesReceiver := by
    refine List.forall_mem_cons.mpr ⟨nofun, List.forall_mem_cons.mpr ⟨?_,
      List.forall_mem_cons.mpr ⟨?_, List.forall_mem_singleton.mpr nofun⟩⟩⟩
    · intro d hd _
      obtain rfl := Option.some.inj hd
      exact ⟨_, _, rfl⟩
    · intro d hd hmode
      obtain rfl := Option.some.inj hd
      nomatch hmode
  have htargets : ∀ d ∈ cyclicTargets, d.2.WellFormed := by decide
  have hreceiver : (Ty.ref (.nominal "Wrap")).WellFormed := by decide
  have hperm : getterCalls.Perm reorderedCalls := by decide
  have haccepts : accepts {} getterCalls ∧ accepts {} reorderedCalls := by decide +kernel
  have hfirst := firstHit_resolves getterCalls cyclicTargets (.ref (.nominal "Wrap")) "get"
  exact ⟨hgives, htargets, hreceiver, hperm, haccepts.1, haccepts.2,
    hfirst.1 hgives htargets hreceiver, hfirst.2 _ hperm haccepts.1 haccepts.2, by decide +kernel⟩

end Registry

end ClosureLint
