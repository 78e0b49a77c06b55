import ClosureLint.Proofs.MethodSearch

/-!
# What a path on a type means

A path `Owner::name` means the item of the owner's own impls, or else the item of a trait that is
implemented for it. Where several of these traits have such an item, a method call is refused as
ambiguous, but the path means the item of the trait that was implemented first. So what it means then
depends on the order in which impls are registered, and only then.

* `Registry.OwnItem`, `Registry.TraitItem` — the items of a type, by what is registered.
* `Registry.Contested` — several traits have an item of the name, and the type has none of its own.
* `Registry.PathAnswers` — the answer, by the order of implementation.
* `Registry.Without` — a registry without one of the implementations.
* `Registry.associatedPath_answers` — the answer after any run of registrations, and when another order
  changes it.
-/

namespace ClosureLint

namespace Registry

variable {r r' : Registry} {name path : String} {owner : Ty} {d d' : Decl} {cs : List Registration}

/-! ### The items of a type -/

/-- The item `d` of the given name was registered for `owner`, or for a type filed under the same
key. -/
structure OwnItem (r : Registry) (owner : Ty) (name : String) (d : Decl) : Prop where
  declared : d ∈ r.decls
  named : d.name = name
  item : ∃ target key, d.origin = .inherent target key ∧ target.implKey = .ok key ∧
    owner.implKey = .ok key

/-- The item `d` of the given name is one of the trait `path`, which is implemented for `owner`. -/
structure TraitItem (r : Registry) (owner : Ty) (name path : String) (d : Decl) : Prop where
  declared : d ∈ r.decls
  named : d.name = name
  item : d.origin = .traitItem path
  implemented : ∃ key, owner.implKey = .ok key ∧ (key, path) ∈ r.impls

/-- The type has no item of the name of its own, but two of its traits have one. -/
def Contested (r : Registry) (owner : Ty) (name : String) : Prop :=
  (∀ d, ¬ r.OwnItem owner name d) ∧ ∃ path path' d d', path ≠ path' ∧
    r.TraitItem owner name path d ∧ r.TraitItem owner name path' d'

/-- What is answered where nothing is found: an error with the text of the type, if that has a key and
a text. -/
def nothingFound (owner : Ty) (name : String) : Except (Failure ResolutionError) Decl := do
  let _ ← owner.implKey
  throw (.refused (.noAssociated name (← owner.text)))

/-- What a path on `owner` answers. -/
inductive PathAnswers (r : Registry) (owner : Ty) (name : String) :
    Except (Failure ResolutionError) Decl → Prop
  | own {d : Decl} : r.OwnItem owner name d → (∀ d', r.OwnItem owner name d' → d' = d) →
    PathAnswers r owner name (.ok d)
  | first {before after : List String} {path : String} {d : Decl} :
    (∀ d', ¬ r.OwnItem owner name d') → r.traitsOf owner = .ok (before ++ path :: after) →
    (∀ path' ∈ before, ∀ d', ¬ r.TraitItem owner name path' d') → r.TraitItem owner name path d →
    (∀ d', r.TraitItem owner name path d' → d' = d) → PathAnswers r owner name (.ok d)
  | none : (∀ d', ¬ r.OwnItem owner name d') → (∀ path d', ¬ r.TraitItem owner name path d') →
    PathAnswers r owner name (nothingFound owner name)

/-! ### What a path finds -/

namespace Filed

variable (h : r.Filed)
include h

theorem ownItem_iff {key : String} (hkey : owner.implKey = .ok key) :
    r.getInherentByKey? key name = some d ↔ r.OwnItem owner name d := by
  rw [h.getInherentByKey?_eq_some]
  constructor
  · rintro ⟨hd, hname, target, ho⟩
    exact ⟨hd, hname, target, key, ho, h.filed d hd target key ho, hkey⟩
  · rintro ⟨hd, hname, target, key', ho, -, hkey'⟩
    obtain rfl := Except.ok.inj (hkey.symm.trans hkey')
    exact ⟨hd, hname, target, ho⟩

theorem traitItem_iff {key : String} (hkey : owner.implKey = .ok key) :
    path ∈ r.traitsByKey key ∧ r.getTraitMethod? path name = some d ↔ r.TraitItem owner name path d := by
  rw [mem_traitsByKey, h.getTraitMethod?_eq_some]
  constructor
  · rintro ⟨himpl, hd, hname, ho⟩
    exact ⟨hd, hname, ho, key, hkey, himpl⟩
  · rintro ⟨hd, hname, ho, key', hkey', himpl⟩
    obtain rfl := Except.ok.inj (hkey.symm.trans hkey')
    exact ⟨himpl, hd, hname, ho⟩

/-- Whether an item is contested, by what the look-ups find. -/
theorem contested_iff {key : String} (hkey : owner.implKey = .ok key) :
    r.Contested owner name ↔ r.getInherentByKey? key name = none ∧
      ∃ path ∈ r.traitsByKey key, ∃ path' ∈ r.traitsByKey key, path ≠ path' ∧
        (r.getTraitMethod? path name).isSome ∧ (r.getTraitMethod? path' name).isSome := by
  -- the type has no item of its own if nothing is filed under its key
  have hown : (∀ d, ¬ r.OwnItem owner name d) ↔ r.getInherentByKey? key name = none := by
    rw [Option.eq_none_iff_forall_ne_some]
    exact forall_congr' fun d => not_congr (h.ownItem_iff hkey).symm
  rw [Contested, hown]
  refine and_congr_right fun _ => ?_
  -- a trait has the item if it is implemented and declares it
  simp only [← h.traitItem_iff hkey, Option.isSome_iff_exists]
  constructor
  · rintro ⟨path, path', d, d', hne, ⟨hpath, hd⟩, hpath', hd'⟩
    exact ⟨path, hpath, path', hpath', hne, ⟨d, hd⟩, d', hd'⟩
  · rintro ⟨path, hpath, path', hpath', hne, ⟨d, hd⟩, d', hd'⟩
    exact ⟨path, path', d, d', hne, ⟨hpath, hd⟩, hpath', hd'⟩

/-- **What a path answers** in such a registry. -/
theorem pathAnswers (owner : Ty) (traitPath : Option String) (name : String) :
    r.PathAnswers owner name (r.resolveAssociated (some owner) traitPath name) := by
  cases hkey : owner.implKey with
  -- a type without a key has no items at all
  | error f =>
    have hanswer : r.resolveAssociated (some owner) traitPath name = nothingFound owner name := by
      simp only [resolveAssociated, getInherent?, nothingFound, hkey]
      rfl
    rw [hanswer]
    refine .none (fun d' hd' => ?_) fun path d' hd' => ?_
    · obtain ⟨target, key, -, -, hkey'⟩ := hd'.item
      cases hkey.symm.trans hkey'
    · obtain ⟨key, hkey', -⟩ := hd'.implemented
      cases hkey.symm.trans hkey'
  | ok key =>
    -- both look-ups go by the key
    have hinherent : r.getInherent? owner name = .ok (r.getInherentByKey? key name) := by
      rw [getInherent?, hkey]
      rfl
    have htraits : r.traitsOf owner = .ok (r.traitsByKey key) := by
      rw [traitsOf, hkey]
      rfl
    rw [resolveAssociated, hinherent, liftM_ok, pure_bind]
    -- an item of the type's own comes before those of traits
    cases hown : r.getInherentByKey? key name with
    | some d =>
      refine .own ((h.ownItem_iff hkey).mp hown) fun d' hd' => ?_
      exact Option.some.inj (((h.ownItem_iff hkey).mpr hd').symm.trans hown)
    | none =>
      have hno : ∀ d', ¬ r.OwnItem owner name d' := fun d' hd' => by
        cases hown.symm.trans ((h.ownItem_iff hkey).mpr hd')
      dsimp only
      rw [htraits, liftM_ok, pure_bind]
      -- of the traits, the first that has the item is the one that is meant
      cases hfound : (r.traitsByKey key).findSome? fun path => r.getTraitMethod? path name with
      | some d =>
        obtain ⟨before, path, after, hsplit, hd, hbefore⟩ := List.findSome?_eq_some_iff.mp hfound
        have hpath : path ∈ r.traitsByKey key :=
          hsplit ▸ List.mem_append_right _ List.mem_cons_self
        refine .first hno (hsplit ▸ htraits) (fun path' hpath' d' hd' => ?_)
          ((h.traitItem_iff hkey).mp ⟨hpath, hd⟩) fun d' hd' => ?_
        · cases (hbefore path' hpath').symm.trans ((h.traitItem_iff hkey).mpr hd').2
        · exact Option.some.inj (((h.traitItem_iff hkey).mpr hd').2.symm.trans hd)
      | none =>
        -- none of them has it
        have hnothing : r.PathAnswers owner name (nothingFound owner name) := by
          refine .none hno fun path d' hd' => ?_
          obtain ⟨hpath, hd⟩ := (h.traitItem_iff hkey).mpr hd'
          cases (List.findSome?_eq_none_iff.mp hfound path hpath).symm.trans hd
        rw [nothingFound, hkey] at hnothing
        exact hnothing

end Filed

/-! ### Another order -/

namespace Reordered

theorem ownItem (h : r.Reordered r') (hd : r.OwnItem owner name d) :
    ∃ d', r'.OwnItem owner name d' ∧ d.Same d' := by
  obtain ⟨d', hd', hsame⟩ := h.exists_same hd.declared
  refine ⟨d', ⟨hd', hsame.name.trans hd.named, ?_⟩, hsame⟩
  rw [hsame.origin]
  exact hd.item

theorem traitItem (h : r.Reordered r') (hd : r.TraitItem owner name path d) :
    ∃ d', r'.TraitItem owner name path d' ∧ d.Same d' := by
  obtain ⟨d', hd', hsame⟩ := h.exists_same hd.declared
  obtain ⟨key, hkey, himpl⟩ := hd.implemented
  exact ⟨d', ⟨hd', hsame.name.trans hd.named, hsame.origin.trans hd.item, key, hkey,
    h.impls.mem_iff.mp himpl⟩, hsame⟩

/-- What is found in the one registry is not missing in the other. -/
theorem no_ownItem (h : r.Reordered r') (hno : ∀ d, ¬ r.OwnItem owner name d) (d : Decl) :
    ¬ r'.OwnItem owner name d := fun hd => by
  obtain ⟨d', hd', -⟩ := h.symm.ownItem hd
  exact hno d' hd'

theorem no_traitItem (h : r.Reordered r') (hno : ∀ d, ¬ r.TraitItem owner name path d) (d : Decl) :
    ¬ r'.TraitItem owner name path d := fun hd => by
  obtain ⟨d', hd', -⟩ := h.symm.traitItem hd
  exact hno d' hd'

/-- **The order does not matter** where the item is not contested. -/
theorem pathAnswers (h : r.Reordered r') (hone : ¬ r.Contested owner name)
    {x x' : Except (Failure ResolutionError) Decl} (hx : r.PathAnswers owner name x)
    (hx' : r'.PathAnswers owner name x') : Outcomes Decl.Same x x' := by
  cases hx with
  -- an item of the type's own is there in both, and it is the only one
  | own hd hunique =>
    obtain ⟨e, he, hsame⟩ := h.ownItem hd
    cases hx' with
    | own hd' hunique' => exact .ok (hunique' e he ▸ hsame)
    | first hno | none hno => exact absurd he (hno e)
  | @first before after path d hno _ _ hd _ =>
    obtain ⟨e, he, hsame⟩ := h.traitItem hd
    cases hx' with
    | own hd' => exact absurd hd' (h.no_ownItem hno _)
    | @first _ _ path' d' _ _ _ hd' hunique' =>
      -- the item of the other trait is there in both registries
      obtain ⟨e', he', -⟩ := h.symm.traitItem hd'
      obtain rfl : path = path' := by
        by_contra hne
        exact hone ⟨hno, path, path', d, e', hne, hd, he'⟩
      exact .ok (hunique' e he ▸ hsame)
    | none _ hnone => exact absurd he (hnone path e)
  -- what one registry lacks the other one lacks too
  | none hno hnone =>
    cases hx' with
    | own hd' => exact absurd hd' (h.no_ownItem hno _)
    | first _ _ _ hd' => exact absurd hd' (h.no_traitItem (hnone _) _)
    | none => exact .refl Decl.Same.refl _

end Reordered

/-! ### One implementation less -/

/-- The second registry is the first without the implementation `i` of a registered trait, and perhaps
without others. -/
structure Without (i : String × String) (r r' : Registry) : Prop where
  decls : r'.decls = r.decls
  traits : r'.traits = r.traits
  impls : ∀ j ∈ r'.impls, j ∈ r.impls
  held : i ∈ r.impls
  missing : i ∉ r'.impls
  known : r.hasTrait i.2 = true

namespace Without

variable {i : String × String} {o : Option Decl} {r₁ : Registry}

theorem hasTrait (h : Without i r r') (path : String) : r'.hasTrait path = r.hasTrait path := by
  rw [Registry.hasTrait, h.traits, Registry.hasTrait]

/-- Every callable is found in both. -/
theorem ofKey? (h : Without i r r') (k : Key) : r'.ofKey? k = r.ofKey? k := by
  rw [Registry.ofKey?, h.decls, Registry.ofKey?]

/-- The same declaration may be added to both. -/
theorem add (h : Without i r r') (name path : String) (origin : Origin) (type : Ty)
    (mode : Option SelfMode) :
    ∃ r₁, r'.add name path origin type mode = ((r.add name path origin type mode).1, r₁) ∧
      Without i (r.add name path origin type mode).2 r₁ := by
  have hid : r'.nextId = r.nextId := by rw [nextId, h.decls, nextId]
  rw [Registry.add, hid]
  exact ⟨_, rfl, congrArg (· ++ _) h.decls, h.traits, h.impls, h.held, h.missing, h.known⟩

/-- A call that succeeds with the implementation does so without it. -/
theorem call (h : Without i r r') {c : Registration} (hc : c.call r = .ok (o, r₁)) :
    ∃ r₁', c.call r' = .ok (o, r₁') ∧ Without i r₁ r₁' := by
  -- a call tests callables and traits, which are the same, and that its implementation is new
  cases c with
  | free path type =>
    simp only [Registration.call, registerFree, getFree?_eq, h.ofKey?] at hc ⊢
    -- a function of this path is there already, in both registries or in neither
    split at hc
    · cases hc
    · next hfree =>
      obtain ⟨rfl, rfl⟩ := Prod.mk.inj (Except.ok.inj hc)
      obtain ⟨r₁', hadd, hwithout⟩ := h.add (lastSegment path) path .free type none
      rw [if_neg hfree, hadd]
      exact ⟨r₁', rfl, hwithout⟩
  | inherent target name type mode =>
    simp only [Registration.call, registerInherent, getInherentByKey?_eq, h.ofKey?] at hc ⊢
    -- a target without a key is refused by both
    cases hkey : target.implKey with
    | error f => rw [hkey] at hc; cases hc
    | ok key =>
      rw [hkey] at hc
      change Except.map _ (if (r.ofKey? (.inherent key name)).isSome then _ else _) = _ at hc
      split at hc
      · cases htext : target.text <;> rw [htext] at hc <;> cases hc
      · next hfree =>
        obtain ⟨rfl, rfl⟩ := Prod.mk.inj (Except.ok.inj hc)
        obtain ⟨r₁', hadd, hwithout⟩ :=
          h.add name (key ++ "::" ++ name) (.inherent target key) type mode
        refine ⟨r₁', ?_, hwithout⟩
        change Except.map _ (if (r.ofKey? (.inherent key name)).isSome then _ else _) = _
        rw [if_neg hfree, hadd]
        rfl
  | trait path =>
    simp only [Registration.call, registerTrait, h.hasTrait] at hc ⊢
    -- a trait of this path is there already, or it is registered in both
    split at hc
    · cases hc
    · next hfree =>
      obtain ⟨rfl, rfl⟩ := Prod.mk.inj (Except.ok.inj hc)
      rw [if_neg hfree]
      refine ⟨_, rfl, h.decls, congrArg (· ++ [path]) h.traits, h.impls, h.held, h.missing, ?_⟩
      exact List.contains_iff_mem.mpr (List.mem_append_left _ (List.contains_iff_mem.mp h.known))
  | traitMethod path name type mode =>
    simp only [Registration.call, registerTraitMethod, getTraitMethod?_eq, h.ofKey?, h.hasTrait] at hc ⊢
    split at hc
    · cases hc
    · next hknown =>
      rw [if_neg hknown]
      split at hc
      · cases hc
      · next hfree =>
        obtain ⟨rfl, rfl⟩ := Prod.mk.inj (Except.ok.inj hc)
        obtain ⟨r₁', hadd, hwithout⟩ := h.add name (path ++ "::" ++ name) (.traitItem path) type mode
        rw [if_neg hfree, hadd]
        exact ⟨r₁', rfl, hwithout⟩
  | traitImpl path target =>
    -- another implementation, which is new in the one registry and so in the other
    obtain ⟨key, hkey, hknown, hnew, rfl, rfl⟩ := Registration.call_traitImpl_eq_ok.mp hc
    have hnew' : (key, path) ∉ r'.impls := fun hmem => hnew (h.impls _ hmem)
    refine ⟨_, Registration.call_traitImpl_eq_ok.mpr
      ⟨key, hkey, (h.hasTrait path).trans hknown, hnew', rfl, rfl⟩, h.decls, h.traits, ?_,
      List.mem_append_left _ h.held, ?_, h.known⟩
    · exact List.forall_mem_append.mpr ⟨fun j hj => List.mem_append_left _ (h.impls j hj),
        List.forall_mem_singleton.mpr (List.mem_append_right _ List.mem_cons_self)⟩
    · -- what the call adds is not what was left out
      rw [List.mem_append, List.mem_singleton]
      rintro (hmem | rfl)
      · exact h.missing hmem
      · exact hnew h.held

/-- **A run that is accepted** with the implementation is accepted without it. -/
theorem accepts (h : Without i r r') {cs : List Registration} (hcs : r.accepts cs) :
    r'.accepts cs ∧ Without i (r.run cs) (r'.run cs) := by
  induction cs generalizing r r' with
  | nil => exact ⟨rfl, h⟩
  | cons c cs ih =>
    obtain ⟨o, r₁, hcall, hrest⟩ := accepts_cons.mp hcs
    obtain ⟨r₁', hcall', h₁⟩ := h.call hcall
    rw [run_cons hcall, run_cons hcall']
    obtain ⟨haccepts, hwithout⟩ := ih h₁ hrest
    exact ⟨accepts_cons.mpr ⟨o, r₁', hcall', haccepts⟩, hwithout⟩

end Without

/-! ### Putting an implementation off -/

/-- **An implementation may be put off** to the end of an accepted run. -/
theorem accepts_putOff {before after : List Registration} {target : Ty} {key : String}
    (hcs : accepts {} (before ++ .traitImpl path target :: after)) (hkey : target.implKey = .ok key) :
    accepts {} (before ++ after ++ [.traitImpl path target]) ∧
      (run {} (before ++ after ++ [.traitImpl path target])).impls
        = (run {} (before ++ after)).impls ++ [(key, path)] := by
  obtain ⟨hbefore, hrest⟩ := accepts_append.mp hcs
  obtain ⟨o, r₁, hcall, hafter⟩ := accepts_cons.mp hrest
  obtain ⟨key', hkey', hknown, hnew, rfl, rfl⟩ := Registration.call_traitImpl_eq_ok.mp hcall
  obtain rfl := Except.ok.inj (hkey.symm.trans hkey')
  -- behind the implementation and without it the registries differ by that alone
  have hwithout : Without (key, path)
      { run {} before with impls := (run {} before).impls ++ [(key, path)] } (run {} before) :=
    ⟨rfl, rfl, fun j hj => List.mem_append_left _ hj, List.mem_append_right _ List.mem_cons_self,
      hnew, hknown⟩
  obtain ⟨hafter', hwithout⟩ := hwithout.accepts hafter
  -- what lacks the implementation takes it
  have hlast := Registration.call_traitImpl_eq_ok.mpr
    ⟨key, hkey, (hwithout.hasTrait path).trans hwithout.known, hwithout.missing, rfl, rfl⟩
  rw [← run_append] at hlast
  refine ⟨accepts_append.mpr ⟨accepts_append.mpr ⟨hbefore, hafter'⟩,
    accepts_cons.mpr ⟨_, _, hlast, rfl⟩⟩, ?_⟩
  rw [run_append, run_cons hlast]
  rfl

/-- A contested item is that of the first trait that has one. -/
theorem PathAnswers.of_contested {x : Except (Failure ResolutionError) Decl}
    (hx : r.PathAnswers owner name x) (h : r.Contested owner name) :
    ∃ before path after d, x = .ok d ∧ r.traitsOf owner = .ok (before ++ path :: after) ∧
      (∀ path' ∈ before, ∀ d', ¬ r.TraitItem owner name path' d') ∧ r.TraitItem owner name path d := by
  obtain ⟨hno, path, _, d, _, -, hd, -⟩ := h
  cases hx with
  | own hd' => exact absurd hd' (hno _)
  | first _ htraits hbefore hd' => exact ⟨_, _, _, _, rfl, htraits, hbefore, hd'⟩
  | none _ hnone => exact absurd hd (hnone path d)

theorem Reordered.contested (h : r.Reordered r') (hcontested : r.Contested owner name) :
    r'.Contested owner name := by
  obtain ⟨hno, path, path', d, d', hne, hd, hd'⟩ := hcontested
  obtain ⟨e, he, -⟩ := h.traitItem hd
  obtain ⟨e', he', -⟩ := h.traitItem hd'
  exact ⟨h.no_ownItem hno, path, path', e, e', hne, he, he'⟩

/-- The item of a trait has the trait's path. -/
theorem TraitItem.path_eq (h : (run {} cs).TraitItem owner name path d) :
    d.path = path ++ "::" ++ name := by
  obtain ⟨c, -, hc⟩ := exists_declared h.declared
  have hpath : d.unnumbered.path = path ++ "::" ++ d.unnumbered.name :=
    Registration.declared?_traitItem hc h.item
  exact h.named ▸ hpath

/-- Where two of a type's traits have the item, the trait that was implemented last is not the first
of them. -/
theorem Contested.first_ne_last (hr : r.Filed) (h : r.Contested owner name) {key last : String}
    {impls : List (String × String)} (hkey : owner.implKey = .ok key)
    (himpls : r.impls = impls ++ [(key, last)]) {before after : List String}
    (htraits : r.traitsOf owner = .ok (before ++ path :: after))
    (hbefore : ∀ path' ∈ before, ∀ d', ¬ r.TraitItem owner name path' d') : path ≠ last := by
  rintro rfl
  -- what was implemented last is listed last
  obtain ⟨earlier, hlisted⟩ : ∃ earlier, r.traitsByKey key = earlier ++ [path] := by
    refine ⟨(impls.filter fun i => i.1 = key).map Prod.snd, ?_⟩
    simp [traitsByKey, himpls]
  have hts : r.traitsOf owner = .ok (earlier ++ [path]) := by
    rw [traitsOf, hkey, ← hlisted]
    rfl
  -- no trait is listed twice, so what is before the last one is before it in any way to cut the list
  have hlast : path ∉ earlier := List.disjoint_singleton.mp
    (List.disjoint_of_nodup_append (hr.traitsOf_nodup hts))
  obtain ⟨rfl, -, rfl⟩ := (List.append_cons_inj_of_notMem hlast List.not_mem_nil).mp
    (Except.ok.inj (hts.symm.trans htraits))
  -- of the two traits that have the item, one is another than the last
  obtain ⟨p, d, hne, hd⟩ : ∃ p d, p ≠ path ∧ r.TraitItem owner name p d := by
    obtain ⟨-, p, p', d, d', hne, hd, hd'⟩ := h
    by_cases hp : p = path
    · exact ⟨p', d', fun hp' => hne (hp.trans hp'.symm), hd'⟩
    · exact ⟨p, d, hp, hd⟩
  have hp := ((hr.traitItem_iff hkey).mpr hd).1
  rw [hlisted, List.mem_append, List.mem_singleton] at hp
  exact hbefore p (hp.resolve_right hne) d hd

/-- **A contested item depends on the order**: put off the implementation that it comes from, and the
path means the item of another trait. -/
theorem exists_putOff (hcs : accepts {} cs) (h : (run {} cs).Contested owner name)
    (traitPath : Option String) :
    ∃ before path target after, cs = before ++ .traitImpl path target :: after ∧
      accepts {} (before ++ after ++ [.traitImpl path target]) ∧
      ∃ d d', (run {} cs).resolveAssociated (some owner) traitPath name = .ok d ∧
        (run {} (before ++ after ++ [.traitImpl path target])).resolveAssociated (some owner)
          traitPath name = .ok d' ∧ d'.path ≠ d.path := by
  -- the implementation that the answer comes from is put off
  obtain ⟨-, path, -, d, hanswer, -, -, hd⟩ :=
    ((filed_run cs).pathAnswers owner traitPath name).of_contested h
  obtain ⟨key, hkey, himpl⟩ := hd.implemented
  obtain ⟨c, hc, himplemented⟩ := exists_implemented himpl
  obtain ⟨target, rfl, htarget⟩ := Registration.implemented?_eq_some.mp himplemented
  obtain ⟨before, after, rfl⟩ := List.append_of_mem hc
  obtain ⟨hcs', himpls⟩ := accepts_putOff hcs htarget
  have hperm : (before ++ .traitImpl path target :: after).Perm
      (before ++ after ++ [.traitImpl path target]) :=
    List.perm_middle.trans (List.perm_append_singleton _ _).symm
  -- the item stays contested, so it is now found in another trait
  have h' := (reordered_of_perm hperm hcs hcs').contested h
  obtain ⟨before', path', after', d', hanswer', htraits', hbefore', hd'⟩ :=
    ((filed_run _).pathAnswers owner traitPath name).of_contested h'
  have hne := h'.first_ne_last (filed_run _) hkey himpls htraits' hbefore'
  refine ⟨before, path, target, after, rfl, hcs', d, d', hanswer, hanswer', ?_⟩
  rw [hd.path_eq, hd'.path_eq]
  exact fun heq => hne ((String.append_left_inj _).mp ((String.append_left_inj _).mp heq))

/-! ### The answer after a run -/

/-- **What a path on a type means**, after any run of registrations: its own item, or else that of the
first trait implemented for it that has one. If the item is not contested, every accepted order of the
same registrations gives the same answer. If it is, an implementation can be put off to the end so that
the path means another item. -/
theorem associatedPath_answers (cs : List Registration) (owner : Ty) (traitPath : Option String)
    (name : String) :
    (run {} cs).PathAnswers owner name
        ((run {} cs).resolveAssociated (some owner) traitPath name) ∧
      (accepts {} cs → ¬ (run {} cs).Contested owner name →
        ∀ cs', cs.Perm cs' → accepts {} cs' →
          Outcomes Decl.Same ((run {} cs).resolveAssociated (some owner) traitPath name)
            ((run {} cs').resolveAssociated (some owner) traitPath name)) ∧
      (accepts {} cs → (run {} cs).Contested owner name →
        ∃ before path target after, cs = before ++ .traitImpl path target :: after ∧
          accepts {} (before ++ after ++ [.traitImpl path target]) ∧
          ∃ d d', (run {} cs).resolveAssociated (some owner) traitPath name = .ok d ∧
            (run {} (before ++ after ++ [.traitImpl path target])).resolveAssociated (some owner)
              traitPath name = .ok d' ∧ d'.path ≠ d.path) := by
  have hanswers (cs : List Registration) := (filed_run cs).pathAnswers owner traitPath name
  refine ⟨hanswers cs, fun hcs hone cs' hperm hcs' => ?_, fun hcs h => exists_putOff hcs h traitPath⟩
  exact (reordered_of_perm hperm hcs hcs').pathAnswers hone (hanswers cs) (hanswers cs')

/-- The traits `declared` have an item `m`, and `S` implements the traits `implemented`. -/
def itemCalls (declared implemented : List String) : List Registration :=
  declared.flatMap (fun path => [.trait path,
      .traitMethod path "m" (.function [.ref .selfParam] .unit false) (some .byRef)])
    ++ implemented.map (.traitImpl · (.nominal "S"))

/-- **`S::m` means the item of the trait that is implemented first**, where a call of `m` on an `S` is
refused. Where only one of the traits is implemented, the order in which they are declared is all the
same. -/
theorem itemCalls_answer :
    accepts {} (itemCalls ["A", "B"] ["A", "B"]) ∧
      (run {} (itemCalls ["A", "B"] ["A", "B"])).Contested (.nominal "S") "m" ∧
      (∃ before path target after,
        itemCalls ["A", "B"] ["A", "B"] = before ++ .traitImpl path target :: after ∧
        accepts {} (before ++ after ++ [.traitImpl path target]) ∧
        ∃ d d', (run {} (itemCalls ["A", "B"] ["A", "B"])).resolveAssociated (some (.nominal "S")) none
            "m" = .ok d ∧
          (run {} (before ++ after ++ [.traitImpl path target])).resolveAssociated (some (.nominal "S"))
            none "m" = .ok d' ∧ d'.path ≠ d.path) ∧
      ((run {} (itemCalls ["A", "B"] ["A", "B"])).resolveAssociated (some (.nominal "S")) none "m").map
        Decl.path = .ok "A::m" ∧
      (run {} (itemCalls ["A", "B"] ["A", "B"])).resolveMethod [] (.nominal "S") "m"
        = .error (.refused (.ambiguous "m" ["A", "B"])) ∧
      accepts {} (itemCalls ["A", "B"] ["A"]) ∧
      ¬ (run {} (itemCalls ["A", "B"] ["A"])).Contested (.nominal "S") "m" ∧
      (itemCalls ["A", "B"] ["A"]).Perm (itemCalls ["B", "A"] ["A"]) ∧
      accepts {} (itemCalls ["B", "A"] ["A"]) ∧
      Outcomes Decl.Same
        ((run {} (itemCalls ["A", "B"] ["A"])).resolveAssociated (some (.nominal "S")) none "m")
        ((run {} (itemCalls ["B", "A"] ["A"])).resolveAssociated (some (.nominal "S")) none "m") := by
  -- which runs are accepted, and which items are contested, is found by running them
  have hboth : accepts {} (itemCalls ["A", "B"] ["A", "B"]) := by decide +kernel
  have hcontested : (run {} (itemCalls ["A", "B"] ["A", "B"])).Contested (.nominal "S") "m" :=
    ((filed_run _).contested_iff rfl).mpr (by decide +kernel)
  have hone : accepts {} (itemCalls ["A", "B"] ["A"]) := by decide +kernel
  have hother : accepts {} (itemCalls ["B", "A"] ["A"]) := by decide +kernel
  have huncontested : ¬ (run {} (itemCalls ["A", "B"] ["A"])).Contested (.nominal "S") "m" := fun h =>
    absurd (((filed_run _).contested_iff rfl).mp h) (by decide +kernel)
  have hperm : (itemCalls ["A", "B"] ["A"]).Perm (itemCalls ["B", "A"] ["A"]) := by decide +kernel
  -- the names in a refusal are sorted
  have hshown : ["A", "B"].mergeSort (fun a b => decide (a ≤ b)) = ["A", "B"] :=
    List.mergeSort_of_pairwise (by decide +kernel)
  have hrefused : (run {} (itemCalls ["A", "B"] ["A", "B"])).resolveMethod [] (.nominal "S") "m"
      = .error (.refused (.ambiguous "m" (["A", "B"].mergeSort fun a b => decide (a ≤ b)))) := rfl
  exact ⟨hboth, hcontested,
    (associatedPath_answers (itemCalls ["A", "B"] ["A", "B"]) (.nominal "S") none "m").2.2 hboth
      hcontested,
    by decide +kernel, hrefused.trans (by rw [hshown]), hone, huncontested, hperm, hother,
    (associatedPath_answers (itemCalls ["A", "B"] ["A"]) (.nominal "S") none "m").2.1 hone
      huncontested _ hperm hother⟩

end Registry

end ClosureLint
