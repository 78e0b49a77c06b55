import ClosureLint.Proofs.Checking.Accord
import ClosureLint.Proofs.Types.Names

/-!
# Registries that hold more

A registry may hold a further trait with its items, or a further function. Whoever asks for other
things gets the same answers from it, but the numbers of the declarations may differ.

* `Path.Avoids` — a path of which no segment is a given name.
* `StructNames.Wider`, `Registry.Wider` — more is held, all of it under `key`.
* `Registry.Wider.accords` — the answers for paths that avoid the last segment of `key`.
* `Registry.Wider.add` — what both get stays in both.
-/

namespace ClosureLint

open ClosureLint.Syntax (Path)

variable {key name : String} {path : Path}

/-! ### Paths -/

/-- None of the path's segments is `name`. -/
structure Syntax.Path.Avoids (name : String) (path : Path) : Prop extends path.Segmented where
  avoids : name ∉ path

namespace Syntax.Path.Avoids

/-- The last segment of a path that avoids a name is another one. -/
theorem lastSegment_ne (h : path.Avoids name) : lastSegment path.text ≠ name := by
  rw [lastSegment_text h.toSegmented]
  intro hlast
  refine h.avoids (hlast ▸ ?_)
  rw [Path.last, List.getLastD_eq_getLast?, List.getLast?_eq_some_getLast h.nonempty]
  exact List.getLast_mem h.nonempty

/-- A path is not spelled like one that ends otherwise. -/
theorem text_ne (h : path.Avoids (lastSegment key)) : path.text ≠ key :=
  fun heq => h.lastSegment_ne (congrArg lastSegment heq)

/-- A path of one segment that avoids a name is not that name. -/
theorem ne_of_singleton {segment : String} (h : Path.Avoids name [segment]) : name ≠ segment :=
  fun hname => h.avoids (hname ▸ List.mem_singleton_self segment)

/-- What stands in front of the last segment avoids a name if the whole path does. -/
theorem front (h : path.Avoids name) (hlength : path.length ≠ 1) :
    Path.Avoids name path.dropLast where
  nonempty hnil := by
    have hpos := List.length_pos_of_ne_nil h.nonempty
    have hfront := congrArg List.length hnil
    rw [List.length_dropLast, List.length_nil] at hfront
    omega
  plain s hs := h.plain s (List.dropLast_subset _ hs)
  avoids hs := h.avoids (List.dropLast_subset _ hs)

end Syntax.Path.Avoids

/-! ### Structs -/

/-- The second names are the first, and perhaps `key` is among them. -/
structure StructNames.Wider (key : String) (n n' : StructNames) : Prop where
  paths : ∀ x, x ≠ key → (x ∈ n'.paths ↔ x ∈ n.paths)
  endingIn : ∀ s, s ≠ lastSegment key → n'.endingIn s = n.endingIn s

namespace StructNames

variable {n n' : StructNames}

/-- Structs are no more than themselves. -/
theorem Wider.refl (n : StructNames) : n.Wider key n := ⟨fun _ _ => Iff.rfl, fun _ _ => rfl⟩

/-- The paths that end in a segment, looked up in the first group or in the others. -/
theorem endingIn_cons (paths : List String) (byLast : List (String × List String)) (last s : String)
    (ending : List String) : StructNames.endingIn ⟨paths, (last, ending) :: byLast⟩ s
      = if s = last then ending else StructNames.endingIn ⟨paths, byLast⟩ s := by
  unfold StructNames.endingIn
  rw [List.lookup_cons]
  by_cases hs : s = last
  · rw [if_pos hs, beq_iff_eq.mpr hs]
    rfl
  · rw [if_neg hs, beq_eq_false_iff_ne.mpr hs]

/-- Both take in the same path. -/
theorem Wider.insert (h : n.Wider key n') {path : String} (hpath : lastSegment path ≠ lastSegment key) :
    (n.insert path).Wider key (n'.insert path) := by
  have hmem := h.paths path fun heq => hpath (congrArg lastSegment heq)
  unfold StructNames.insert
  -- a path that is known changes nothing, and both know it or neither does
  by_cases hknown : path ∈ n.paths
  · rwa [if_pos hknown, if_pos (hmem.mpr hknown)]
  · rw [if_neg hknown, if_neg (mt hmem.mp hknown)]
    refine ⟨fun x hx => ?_, fun s hs => ?_⟩
    · rw [List.mem_append, List.mem_append, h.paths x hx]
    · dsimp only
      rw [endingIn_cons, endingIn_cons, h.endingIn _ hpath]
      split
      · rfl
      · exact h.endingIn s hs

/-- The second takes in `key`. -/
theorem Wider.insert_key (h : n.Wider key n') : n.Wider key (n'.insert key) := by
  unfold StructNames.insert
  split
  · exact h
  · refine ⟨fun x hx => ?_, fun s hs => ?_⟩
    · rw [List.mem_append, List.mem_singleton, or_iff_left hx]
      exact h.paths x hx
    · dsimp only
      rw [endingIn_cons, if_neg hs]
      exact h.endingIn s hs

/-- **One name more** among those of which none ends in the same segment. -/
theorem ofList_wider {before after : List String}
    (h : ∀ path ∈ before ++ after, lastSegment path ≠ lastSegment key) :
    (ofList (before ++ after)).Wider key (ofList (before ++ key :: after)) := by
  -- from the further name on, both sides take in the same paths
  have hfold : ∀ (paths : List String) {n n' : StructNames}, n.Wider key n' →
      (∀ path ∈ paths, lastSegment path ≠ lastSegment key) →
      (paths.foldl StructNames.insert n).Wider key (paths.foldl StructNames.insert n') := by
    intro paths
    induction paths with
    | nil => exact fun h _ => h
    | cons path paths ih =>
      intro n n' h hpaths
      obtain ⟨hpath, hpaths⟩ := List.forall_mem_cons.mp hpaths
      exact ih (h.insert hpath) hpaths
  rw [List.forall_mem_append] at h
  unfold ofList
  rw [List.foldl_append, List.foldl_append, List.foldl_cons]
  exact hfold after ((Wider.refl _).insert_key) h.2

/-- **A path that avoids the last segment of `key`** names the same struct. -/
theorem Wider.find? (h : n.Wider key n') (hpath : path.Avoids (lastSegment key)) :
    n'.find? path = n.find? path := by
  have hmem := h.paths path.text hpath.text_ne
  unfold StructNames.find?
  change (if path.text ∈ n'.paths then some path.text else _)
    = (if path.text ∈ n.paths then some path.text else _)
  -- the whole path comes first, and only one segment is looked up by its end
  by_cases hknown : path.text ∈ n.paths
  · rw [if_pos hknown, if_pos (hmem.mpr hknown)]
  · rw [if_neg hknown, if_neg (mt hmem.mp hknown)]
    split
    · next segment => rw [h.endingIn segment hpath.ne_of_singleton.symm]
    · rfl

end StructNames

/-! ### Declarations -/

/-- The same declaration, perhaps under another number. -/
structure Decl.Same (d d' : Decl) : Prop where
  name : d'.name = d.name
  path : d'.path = d.path
  origin : d'.origin = d.origin
  type : d'.type = d.type
  selfMode : d'.selfMode = d.selfMode

/-- The declaration without its number. -/
def Decl.unnumbered (d : Decl) : Decl := { d with id := 0 }

/-- The function of path `key`, or an item of the trait of that path. -/
def Decl.isUnder (key : String) (d : Decl) : Bool :=
  d.origin = .traitItem key ∨ d.origin = .free ∧ d.path = key

namespace Decl.Same

variable {d d' : Decl}

/-- A declaration says what it says. -/
theorem refl (d : Decl) : d.Same d := ⟨rfl, rfl, rfl, rfl, rfl⟩

/-- It is the number alone that may differ. -/
theorem iff_unnumbered : d.Same d' ↔ d'.unnumbered = d.unnumbered := by
  refine ⟨fun ⟨hname, hpath, horigin, htype, hmode⟩ => ?_, fun h => ?_⟩
  · rw [Decl.unnumbered, Decl.unnumbered, hname, hpath, horigin, htype, hmode]
  · obtain ⟨-, hname, hpath, horigin, htype, hmode⟩ := Decl.mk.inj h
    exact ⟨hname, hpath, horigin, htype, hmode⟩

variable (h : d.Same d')
include h

/-- Declarations that say the same are methods or are not. -/
theorem isMethod : d'.isMethod = d.isMethod := by rw [Decl.isMethod, h.selfMode, Decl.isMethod]

/-- They belong to the same trait. -/
theorem traitPath? : d'.traitPath? = d.traitPath? := by
  unfold Decl.traitPath?
  rw [h.origin]

/-- They are declared for the same type. -/
theorem selfType? : d'.selfType? = d.selfType? := by
  unfold Decl.selfType?
  rw [h.selfMode, h.type]

/-- They expect the same receiver. -/
theorem expectedReceiver (step : Ty) : expectedReceiver d' step = expectedReceiver d step := by
  unfold ClosureLint.expectedReceiver
  rw [h.selfMode, h.selfType?]

end Decl.Same

/-- The same one of two lists that go side by side is found, if the test does not tell their entries
apart. -/
theorem rel_find? {α : Type} {R : α → α → Prop} {p : α → Bool} {l l' : List α}
    (h : List.Forall₂ R l l') (hp : ∀ a b, R a b → p b = p a) :
    Option.Rel R (l.find? p) (l'.find? p) := by
  induction h with
  | nil => exact .none
  | @cons a b _ _ hab _ ih =>
    rw [List.find?_cons, List.find?_cons, hp a b hab]
    split
    · exact .some hab
    · exact ih

/-! ### Look-ups in a wider registry -/

/-- The second registry holds what the first holds, and perhaps more under `key`; the first holds
nothing there. -/
structure Registry.Wider (key : String) (r r' : Registry) : Prop where
  decls : List.Forall₂ Decl.Same r.decls (r'.decls.filter fun d => !d.isUnder key)
  traits : r'.traits.filter (· ≠ key) = r.traits
  impls : r'.impls = r.impls
  implTraits : ∀ i ∈ r.impls, i.2 ≠ key

namespace Registry.Wider

variable {r r' : Registry} (h : r.Wider key r')
include h

/-- What is found that does not stand under `key`. -/
theorem find? {p : Decl → Bool} (hsame : ∀ d d', d.Same d' → p d' = p d)
    (hunder : ∀ d, p d = true → d.isUnder key = false) :
    Option.Rel Decl.Same (r.decls.find? p) (r'.decls.find? p) := by
  -- what stands under the key is passed over anyway
  have hfilter : (r'.decls.filter fun d => !d.isUnder key).find? p = r'.decls.find? p := by
    rw [List.find?_filter]
    congr 1
    funext d
    cases hp : p d with
    | false => simp
    | true => simp [hunder d hp]
  rw [← hfilter]
  exact rel_find? h.decls hsame

/-- A function under another path. -/
theorem getFree? {t : String} (ht : t ≠ key) : Option.Rel Decl.Same (r.getFree? t) (r'.getFree? t) := by
  refine h.find? (fun d d' hd => ?_) fun d hd => ?_
  · rw [hd.origin, hd.path]
  · obtain ⟨horigin, rfl⟩ := of_decide_eq_true hd
    simp [Decl.isUnder, horigin, ht]

/-- An item of a type's own impls. -/
theorem getInherentByKey? (k item : String) :
    Option.Rel Decl.Same (r.getInherentByKey? k item) (r'.getInherentByKey? k item) := by
  refine h.find? (fun d d' hd => ?_) fun d hd => ?_
  · rw [hd.origin, hd.name]
  · cases horigin : d.origin with
    | inherent target k' => simp [Decl.isUnder, horigin]
    | free | traitItem => simp [horigin] at hd

/-- An item of another trait. -/
theorem getTraitMethod? {t : String} (ht : t ≠ key) (item : String) :
    Option.Rel Decl.Same (r.getTraitMethod? t item) (r'.getTraitMethod? t item) := by
  refine h.find? (fun d d' hd => ?_) fun d hd => ?_
  · rw [hd.origin, hd.name]
  · obtain ⟨horigin, -⟩ := of_decide_eq_true hd
    simp [Decl.isUnder, horigin, ht]

/-- Whether another trait is there. -/
theorem hasTrait {t : String} (ht : t ≠ key) : r'.hasTrait t = r.hasTrait t := by
  rw [Bool.eq_iff_iff, Registry.hasTrait, Registry.hasTrait, List.contains_iff_mem,
    List.contains_iff_mem, ← h.traits, List.mem_filter]
  simp [ht]

/-- The narrower registry has no trait under `key`. -/
theorem ne_of_mem_traits {t : String} (ht : t ∈ r.traits) : t ≠ key := by
  rw [← h.traits, List.mem_filter] at ht
  exact of_decide_eq_true ht.2

/-- The traits that are implemented for a type, in order. -/
theorem traitsByKey (k : String) : r'.traitsByKey k = r.traitsByKey k := by
  rw [Registry.traitsByKey, h.impls, Registry.traitsByKey]

/-- None of them is `key`. -/
theorem ne_of_mem_traitsByKey {k t : String} (ht : t ∈ r.traitsByKey k) : t ≠ key := by
  obtain ⟨i, hi, rfl⟩ := List.mem_map.mp ht
  exact h.implTraits i (List.mem_of_mem_filter hi)

/-- **A path that avoids the last segment of `key`** names the same trait. -/
theorem findTrait? (hpath : path.Avoids (lastSegment key)) : r'.findTrait? path = r.findTrait? path := by
  unfold Registry.findTrait?
  change (if r'.hasTrait path.text = true then some path.text else _)
    = (if r.hasTrait path.text = true then some path.text else _)
  rw [h.hasTrait hpath.text_ne]
  split
  · rfl
  · split
    · next segment _ =>
      -- the further trait ends in another segment
      have hfilter : (r'.traits.filter fun t => lastSegment t = segment)
          = r.traits.filter fun t => lastSegment t = segment := by
        rw [← h.traits, List.filter_filter]
        refine List.filter_congr fun t _ => ?_
        by_cases ht : t = key
        · subst ht
          simp [hpath.ne_of_singleton]
        · simp [ht]
      rw [hfilter]
    · rfl

/-- A trait that the narrower registry finds is another one. -/
theorem ne_of_findTrait? {t : String} (ht : r.findTrait? path = some t) : t ≠ key := by
  refine h.ne_of_mem_traits ?_
  unfold Registry.findTrait? at ht
  dsimp only at ht
  -- the trait is found by its whole path, or by its last segment among all traits
  split at ht
  · next hknown =>
    obtain rfl := Option.some.inj ht
    exact List.contains_iff_mem.mp hknown
  · split at ht
    · split at ht
      · next found hfound =>
        obtain rfl := Option.some.inj ht
        exact List.mem_of_mem_filter (hfound ▸ List.mem_singleton_self found)
      · cases ht
    · cases ht

end Registry.Wider

/-! ### A registry that holds nothing under `key` -/

namespace Registry.Wider

variable {r : Registry} (h : r.Wider key r)
include h

/-- Nothing stands under `key`. -/
theorem isUnder : ∀ d ∈ r.decls, d.isUnder key = false := by
  have hall := List.length_filter_eq_length_iff.mp h.decls.length_eq.symm
  exact fun d hd => Bool.not_eq_true' _ ▸ hall d hd

/-- There is no trait under `key`. -/
theorem hasTrait_key : r.hasTrait key = false :=
  Bool.eq_false_iff.mpr fun hknown => h.ne_of_mem_traits (List.contains_iff_mem.mp hknown) rfl

/-- There is no item of such a trait. -/
theorem getTraitMethod?_key (item : String) : r.getTraitMethod? key item = none := by
  refine List.find?_eq_none.mpr fun d hd hfound => ?_
  have hunder := h.isUnder d hd
  simp [Decl.isUnder, (of_decide_eq_true hfound).1] at hunder

/-- There is no function under `key`. -/
theorem getFree?_key : r.getFree? key = none := by
  refine List.find?_eq_none.mpr fun d hd hfound => ?_
  have hunder := h.isUnder d hd
  simp [Decl.isUnder, of_decide_eq_true hfound] at hunder

end Registry.Wider

/-! ### What is found along the steps of a type -/

section

variable {ε : Type} {α β : Type} {R : α → β → Prop}

/-- Outcomes that are related by one relation are related by a weaker one. -/
theorem Outcomes.mono {S : α → β → Prop} {x : Except ε α} {x' : Except ε β} (h : Outcomes R x x')
    (hRS : ∀ a b, R a b → S a b) : Outcomes S x x' := by
  cases h with
  | ok h => exact .ok (hRS _ _ h)
  | error e => exact .error e

/-- A fault of a type ends both computations alike. -/
theorem Outcomes.lift {x : Except Fault α} {x' : Except Fault β} (h : Outcomes R x x') :
    Outcomes R (liftM x : Except (Failure ε) α) (liftM x' : Except (Failure ε) β) := by
  cases h with
  | ok h => exact .ok h
  | error f => exact .error (Failure.fault f)

end

/-- Of two declarations that say the same, both are methods or neither is. -/
theorem Decl.Same.filter {o o' : Option Decl} (h : Option.Rel Decl.Same o o') :
    Option.Rel Decl.Same (o.filter Decl.isMethod) (o'.filter Decl.isMethod) := by
  cases h with
  | none => exact .none
  | some h =>
    rw [Option.filter_some, Option.filter_some, h.isMethod]
    split
    · exact .some h
    · exact .none

/-- The same declarations, perhaps in another order. -/
def Decl.SameAll (ds ds' : List Decl) : Prop :=
  (ds.map Decl.unnumbered).Perm (ds'.map Decl.unnumbered)

/-- Declarations that say the same one by one say the same together. -/
theorem Decl.SameAll.of_forall₂ {ds ds' : List Decl} (h : List.Forall₂ Decl.Same ds ds') :
    Decl.SameAll ds ds' := by
  refine .of_eq ?_
  induction h with
  | nil => rfl
  | cons hd _ ih => rw [List.map_cons, List.map_cons, ih, Decl.Same.iff_unnumbered.mp hd]

/-- The names of the traits are listed in alphabetical order, whatever the order of the items. -/
theorem candidateTraits_same {ds ds' : List Decl} (h : Decl.SameAll ds ds') :
    Registry.candidateTraits ds' = Registry.candidateTraits ds := by
  have hpaths (ds : List Decl) : ds.filterMap Decl.traitPath?
      = (ds.map Decl.unnumbered).filterMap Decl.traitPath? := by
    rw [List.filterMap_map]
    rfl
  unfold Registry.candidateTraits
  -- two sorted lists of the same names are the same list
  refine List.Perm.eq_of_pairwise (fun a b _ _ hab hba => ?antisymm)
    (List.pairwise_mergeSort ?trans ?total _) (List.pairwise_mergeSort ?trans ?total _) ?perm
  case antisymm => exact String.le_antisymm (of_decide_eq_true hab) (of_decide_eq_true hba)
  case trans =>
    exact fun a b c hab hbc =>
      decide_eq_true (String.le_trans (of_decide_eq_true hab) (of_decide_eq_true hbc))
  case total =>
    intro a b
    rw [Bool.or_eq_true, decide_eq_true_eq, decide_eq_true_eq]
    exact String.le_total a b
  case perm =>
    rw [hpaths ds, hpaths ds']
    exact (List.mergeSort_perm _ _).trans
      (((h.filterMap _).map _).symm.trans (List.mergeSort_perm _ _).symm)

/-- A method that says the same is resolved to the same. -/
theorem resolution_same {d d' : Decl} (h : d.Same d') (step receiver : Ty) :
    Outcomes (Resolution.Accords Decl.Same) (Registry.resolution d step receiver)
      (Registry.resolution d' step receiver) := by
  unfold Registry.resolution
  rw [h.expectedReceiver]
  refine .bind (.refl (fun _ => Eq.refl _) _) ?_
  rintro expected _ rfl
  exact .ok ⟨h, rfl, rfl⟩

/-- **The search along the steps** finds the same if on every type it finds the same items: one of the
type's own, or those of its traits in any order. -/
theorem resolveOn_same {r r' : Registry} {item : String}
    (hown : ∀ step, Outcomes (Option.Rel Decl.Same) (r.getInherent? step item)
      (r'.getInherent? step item))
    (htraits : ∀ step, Outcomes Decl.SameAll (r.traitCandidates step item)
      (r'.traitCandidates step item)) (receiver : Ty) (steps : List Ty) :
    Outcomes (Resolution.Accords Decl.Same) (r.resolveOn receiver item steps)
      (r'.resolveOn receiver item steps) := by
  induction steps with
  | nil => exact .refl (fun r => ⟨.refl r.decl, rfl, rfl⟩) _
  | cons step steps ih =>
    rw [Registry.resolveOn, Registry.resolveOn]
    split
    · exact ih
    · refine .bind (hown step).lift fun found found' hfound => ?_
      -- an item of the type's own impls, or else one of its traits
      have hmethod := Decl.Same.filter hfound
      generalize found.filter Decl.isMethod = own, found'.filter Decl.isMethod = own' at hmethod ⊢
      cases hmethod with
      | some hd => exact (resolution_same hd step receiver).lift
      | none =>
        refine .bind (htraits step).lift fun ds ds' hds => ?_
        have hlength := hds.length_eq
        rw [List.length_map, List.length_map] at hlength
        -- no item goes on to the next step, one is the answer, and several are refused with their names
        match ds, ds', hlength with
        | [], [], _ => exact ih
        | [d], [d'], _ =>
          have hd : d.Same d' :=
            Decl.Same.iff_unnumbered.mpr (List.singleton_perm_singleton.mp hds).symm
          exact (resolution_same hd step receiver).lift
        | d₁ :: d₂ :: ds, d₁' :: d₂' :: ds', _ =>
          have htraits := candidateTraits_same hds
          dsimp only
          rw [htraits]
          exact .error _

namespace Registry.Wider

variable {r r' : Registry} (h : r.Wider key r')
include h

/-- The item of a type's own impls, if the type can be looked up. -/
theorem getInherent? (target : Ty) (item : String) :
    Outcomes (Option.Rel Decl.Same) (r.getInherent? target item) (r'.getInherent? target item) := by
  refine .bind (.refl (fun _ => Eq.refl _) target.implKey) ?_
  rintro k _ rfl
  exact .ok (h.getInherentByKey? k item)

/-- The traits of a type, if it can be looked up. -/
theorem traitsOf (target : Ty) :
    Outcomes (List.Forall₂ fun t t' => t' = t ∧ t ≠ key) (r.traitsOf target) (r'.traitsOf target) := by
  refine .bind (.refl (fun _ => Eq.refl _) target.implKey) ?_
  rintro k _ rfl
  refine .ok ?_
  rw [h.traitsByKey]
  exact List.forall₂_same.mpr fun t ht => ⟨rfl, h.ne_of_mem_traitsByKey ht⟩

/-- The items of a type's traits that have one of the name. -/
theorem traitCandidates (step : Ty) (item : String) :
    Outcomes (List.Forall₂ Decl.Same) (r.traitCandidates step item) (r'.traitCandidates step item) := by
  refine .bind (h.traitsOf step) fun ts ts' hts => .ok (List.rel_filterMap ?_ hts)
  rintro t _ ⟨rfl, ht⟩
  exact Decl.Same.filter (h.getTraitMethod? ht item)

/-- The method on the first of the steps that has one. -/
theorem resolveOn (receiver : Ty) (item : String) (steps : List Ty) :
    Outcomes (Resolution.Accords Decl.Same) (r.resolveOn receiver item steps)
      (r'.resolveOn receiver item steps) :=
  resolveOn_same (h.getInherent? · item)
    (fun step => (h.traitCandidates step item).mono fun _ _ => Decl.SameAll.of_forall₂) receiver steps

/-- **A method** is found along the steps of the receiver, as before. -/
theorem resolveMethod (targets : DerefTable) (receiver : Ty) (item : String) :
    Outcomes (Resolution.Accords Decl.Same) (r.resolveMethod targets receiver item)
      (r'.resolveMethod targets receiver item) := by
  refine .bind (Outcomes.refl (fun _ => Eq.refl _) (receiver.derefChain targets)).lift ?_
  rintro steps _ rfl
  exact h.resolveOn receiver item steps

/-- An item of the first of the traits that has one. -/
theorem findSome? (item : String) {ts ts' : List String}
    (hts : List.Forall₂ (fun t t' => t' = t ∧ t ≠ key) ts ts') :
    Option.Rel Decl.Same (ts.findSome? fun t => r.getTraitMethod? t item)
      (ts'.findSome? fun t => r'.getTraitMethod? t item) := by
  induction hts with
  | nil => exact .none
  | @cons t _ _ _ ht _ ih =>
    obtain ⟨rfl, ht⟩ := ht
    have hfound := h.getTraitMethod? ht item
    rw [List.findSome?_cons, List.findSome?_cons]
    generalize r.getTraitMethod? _ item = found, r'.getTraitMethod? _ item = found' at hfound ⊢
    cases hfound with
    | some hd => exact .some hd
    | none => exact ih

/-- **An item of a type or of a trait** that is not `key`. -/
theorem resolveAssociated (owner : Option Ty) {traitPath : Option String}
    (htrait : ∀ t ∈ traitPath, t ≠ key) (item : String) :
    Outcomes Decl.Same (r.resolveAssociated owner traitPath item)
      (r'.resolveAssociated owner traitPath item) := by
  unfold Registry.resolveAssociated
  cases owner with
  | some type =>
    refine .bind (h.getInherent? type item).lift fun found found' hfound => ?_
    cases hfound with
    | some hd => exact .ok hd
    | none =>
      -- the traits of the type are tried in order
      refine .bind (h.traitsOf type).lift fun ts ts' hts => ?_
      have hitem := h.findSome? item hts
      generalize ts.findSome? _ = found, ts'.findSome? _ = found' at hitem ⊢
      cases hitem with
      | some hd => exact .ok hd
      | none => exact .refl Decl.Same.refl _
  | none =>
    cases traitPath with
    | none => exact .error _
    | some t =>
      have hitem := h.getTraitMethod? (htrait t rfl) item
      dsimp only
      generalize r.getTraitMethod? t item = found, r'.getTraitMethod? t item = found' at hitem ⊢
      cases hitem with
      | some hd => exact .ok hd
      | none => exact .error _

/-- **Paths that avoid the last segment of `key`** mean the same in both registries. -/
theorem accords : r.Accords (Path.Avoids (lastSegment key)) Decl.Same r' where
  types _ _ hd := hd.type
  functions _ hpath := h.getFree? hpath.text_ne
  traits _ hpath := h.findTrait? hpath
  methods := h.resolveMethod
  items owner front item _ := by
    refine h.resolveAssociated owner (fun t ht => ?_) item
    split at ht
    · cases ht
    · exact h.ne_of_findTrait? ht

/-! ### Registration -/

/-- Both get a declaration that does not stand under `key`. -/
theorem add {item path : String} {origin : Origin} {type : Ty} {mode : Option SelfMode}
    (hunder : (⟨r'.nextId, item, path, origin, type, mode⟩ : Decl).isUnder key = false) :
    (r.add item path origin type mode).2.Wider key (r'.add item path origin type mode).2 where
  decls := by
    refine (List.filter_append ..).symm ▸ List.rel_append h.decls ?_
    rw [List.filter_cons_of_pos (by simp [hunder])]
    exact .cons ⟨rfl, rfl, rfl, rfl, rfl⟩ .nil
  traits := h.traits
  impls := h.impls
  implTraits := h.implTraits

/-- The second one gets a declaration under `key`. -/
theorem add_key {item path : String} {origin : Origin} {type : Ty} {mode : Option SelfMode}
    (hunder : (⟨r'.nextId, item, path, origin, type, mode⟩ : Decl).isUnder key = true) :
    r.Wider key (r'.add item path origin type mode).2 where
  decls := by
    have hnone : [(⟨r'.nextId, item, path, origin, type, mode⟩ : Decl)].filter
        (fun d => !d.isUnder key) = [] := List.filter_eq_nil_iff.mpr (by simp [hunder])
    have hfilter := List.filter_append (p := fun d : Decl => !d.isUnder key) r'.decls
      [⟨r'.nextId, item, path, origin, type, mode⟩]
    rw [hnone, List.append_nil] at hfilter
    exact hfilter.symm ▸ h.decls
  traits := h.traits
  impls := h.impls
  implTraits := h.implTraits

end Registry.Wider

end ClosureLint
