import ClosureLint.Proofs.Checking.Programs
import ClosureLint.Proofs.Checking.Regularity

/-!
# What declarations give

Every declared callable is well made, and has a type that can be written. Declaring breaks off at a
receiver that no method has, and nowhere else.

* `Declared.WellMade` — all that declarations give.
* `Misplaced`, `Misplaces` — how declaring may break off.
* `declare_wellMade` — declaring a program gives nothing else, and breaks off in no other way.
* `check_regular` — so every type that a checked program files can be written.
* `check_fails` — and checking it breaks off nowhere else.
-/

namespace ClosureLint

namespace Typing

open ClosureLint.Syntax
  (FunctionDef ImplDef Program Receiver ReceiverForm StructDef TraitDef TypeExpr Path)

/-- A body to check as declarations make it. -/
structure Body.WellMade (names : String → Prop) (b : Body) : Prop where
  type : b.type.Regular names
  isFunction : b.type.kind = .function
  selfType : OptRegular names b.selfType
  selfKnown : ∀ t ∈ b.selfType, t.kind ≠ .unknown

/-- All that declarations give. -/
structure Declared.WellMade (names : String → Prop) (d : Declared) : Prop where
  decls : ∀ x ∈ d.registry.decls, x.WellMade names
  targets : Ty.Regular.TargetsRegular names d.targets
  bodies : ∀ b ∈ d.bodies, b.WellMade names

/-- How declaring the function `f` breaks off where `Self` means `selfType`: its receiver stands
outside of a trait or impl, or has a form that no reading gives. -/
inductive Misplaced (selfType : Option Ty) (f : FunctionDef) : CheckFault → Prop where
  | outside {r : Receiver} : f.receiver = some r → selfType = none →
    Misplaced selfType f (.receiverOutsideImpl f.path.text)
  | unsupported {r : Receiver} {form : String} : f.receiver = some r → r.form = .unsupported form →
    Misplaced selfType f (.unsupportedReceiver form f.path.text)

/-- From declarations of such a kind, `m` goes on to such, and its answer has the property `P`; if
it breaks off, it does so in a way that has the property `E`. -/
abbrev Declares {α : Type} (E : CheckFault → Prop) (names : String → Prop) (P : α → Prop)
    (m : Declare α) : Prop := Keeps E (Declared.WellMade names) P m

variable {names : String → Prop} {scope : TypeScope} {file : Option String} {α β : Type}
  {E : CheckFault → Prop}

/-! ### Basic steps -/

/-- Reporting breaks off nowhere, and declares nothing. -/
theorem reportAt_declares (p : Problem) (l : Loc) :
    Declares E names (fun _ => True) (reportAt file p l) :=
  .modify fun _ hs => ⟨hs.decls, hs.targets, hs.bodies⟩

/-- A declared type can be written. -/
theorem declareType_declares (hs : scope.Regular names) (e : TypeExpr) :
    Declares E names (Ty.Regular names) (declareType scope e) := by
  refine Keeps.bind (.modify fun _ hs => ⟨hs.decls, hs.targets, hs.bodies⟩) fun _ _ => .pure ?_
  exact resolveType_regular hs e

/-- A body is added with its type, and with what `Self` stands for. -/
theorem addBody_declares {f : FunctionDef} {type : Ty} {selfType : Option Ty}
    (ht : type.Regular names) (hk : type.kind = .function) (hself : OptRegular names selfType)
    (hknown : ∀ t ∈ selfType, t.kind ≠ .unknown) :
    Declares E names (fun _ => True) (addBody f type selfType) := by
  unfold addBody
  split
  · exact .pure trivial
  · refine .modify fun _ hs => ⟨hs.decls, hs.targets, ?_⟩
    exact List.forall_mem_append.mpr ⟨hs.bodies, List.forall_mem_singleton.mpr
      ⟨ht, hk, hself, hknown⟩⟩

/-- A registration that adds at most one declaration, which is well made. -/
theorem register_declares {l : Loc}
    {step : Registry → Except (Failure RegistryError) (α × Registry)}
    (hfaultless : ∀ r, Faultless (fun _ => True) (step r))
    (h : ∀ r a r', step r = .ok (a, r') → r'.decls = r.decls ∨
      ∃ d, d.WellMade names ∧ r'.decls = r.decls ++ [d]) :
    Declares E names (fun _ => True) (register file l step) := by
  refine Keeps.get.bind fun s hs => ?_
  have hstep := hfaultless s.registry
  -- a refusal is reported; there is no other way to fail
  generalize hanswer : step s.registry = answer at hstep
  cases hstep with
  | @ok a _ =>
    obtain ⟨a, r'⟩ := a
    refine Keeps.bind (.modify fun s' hs' => ⟨?_, hs'.targets, hs'.bodies⟩) fun _ _ => .pure trivial
    rcases h _ _ _ hanswer with hsame | ⟨d, hd, hadd⟩
    · rw [hsame]
      exact hs.decls
    · rw [hadd]
      exact List.forall_mem_append.mpr ⟨hs.decls, List.forall_mem_singleton.mpr hd⟩
  | refused e => exact (reportAt_declares _ _).bind fun _ _ => .pure trivial

/-! ### Registrations -/

/-- A method of a trait is put behind the declarations. -/
theorem registerTraitMethod_eq_ok {r r' : Registry} {traitPath name : String} {type : Ty}
    {mode : Option SelfMode} {d : Decl}
    (h : r.registerTraitMethod traitPath name type mode = .ok (d, r')) :
    d.name = name ∧ d.type = type ∧ d.selfMode = mode ∧ d.origin = .traitItem traitPath ∧
      r'.decls = r.decls ++ [d] := by
  unfold Registry.registerTraitMethod at h
  dsimp only at h
  split at h
  · nomatch h
  · split at h
    · nomatch h
    · obtain ⟨rfl, rfl⟩ := Prod.mk.inj (pure_eq_ok.mp h)
      exact ⟨rfl, rfl, rfl, rfl, rfl⟩

/-- A method of a type's own impl is put behind the declarations, under the key of the type. -/
theorem registerInherent_eq_ok {r r' : Registry} {target : Ty} {name : String} {type : Ty}
    {mode : Option SelfMode} {d : Decl}
    (h : r.registerInherent target name type mode = .ok (d, r')) :
    d.name = name ∧ d.type = type ∧ d.selfMode = mode ∧
      (∃ key, d.origin = .inherent target key ∧ target.implKey = .ok key) ∧
      r'.decls = r.decls ++ [d] := by
  -- the key of the type comes first, then the look whether it has such a method
  obtain ⟨key, hk, h⟩ := bind_eq_ok.mp h
  split at h
  · obtain ⟨_, -, h⟩ := bind_eq_ok.mp h
    nomatch h
  · obtain ⟨rfl, rfl⟩ := Prod.mk.inj (pure_eq_ok.mp h)
    exact ⟨rfl, rfl, rfl, ⟨key, rfl, mapError_eq_ok.mp hk⟩, rfl⟩

/-- A function is put behind the declarations. -/
theorem registerFree_eq_ok {r r' : Registry} {path : String} {type : Ty} {d : Decl}
    (h : r.registerFree path type = .ok (d, r')) :
    d.path = path ∧ d.type = type ∧ d.selfMode = none ∧ d.origin = .free ∧
      r'.decls = r.decls ++ [d] := by
  unfold Registry.registerFree at h
  split at h
  · nomatch h
  · obtain ⟨rfl, rfl⟩ := Prod.mk.inj (pure_eq_ok.mp h)
    exact ⟨rfl, rfl, rfl, rfl, rfl⟩

/-- A registration without an answer makes the registry it makes. -/
theorem quietly_eq_ok {x : Except (Failure RegistryError) Registry} {u : Unit} {r : Registry} :
    quietly x = .ok (u, r) ↔ x = .ok r := by
  cases x with
  | error e => exact ⟨nofun, nofun⟩
  | ok r' =>
    exact ⟨fun h => congrArg _ (Prod.mk.inj (Except.ok.inj h)).2, fun h => by injection h with h; rw [h]; rfl⟩

/-- And fails where it fails. -/
theorem quietly_faultless {x : Except (Failure RegistryError) Registry}
    (h : Faultless (fun _ => True) x) : Faultless (fun _ => True) (quietly x) :=
  h.map fun _ _ => trivial

/-- A trait is no declaration of its own. -/
theorem registerTrait_eq_ok {r r' : Registry} {traitPath : String}
    (h : r.registerTrait traitPath = .ok r') : r'.decls = r.decls := by
  unfold Registry.registerTrait at h
  split at h
  · nomatch h
  · rw [← pure_eq_ok.mp h]

/-- Nor is an impl of one. -/
theorem registerTraitImpl_eq_ok {r r' : Registry} {traitPath : String} {target : Ty}
    (h : r.registerTraitImpl traitPath target = .ok r') : r'.decls = r.decls := by
  unfold Registry.registerTraitImpl at h
  split at h
  · nomatch h
  · obtain ⟨key, -, h⟩ := bind_eq_ok.mp h
    split at h
    · obtain ⟨_, -, h⟩ := bind_eq_ok.mp h
      nomatch h
    · rw [← pure_eq_ok.mp h]

/-! ### Types of functions -/

/-- What a function's type and mode have to do with each other where `Self` means `selfType`. -/
def TypeAndMode (names : String → Prop) (selfType : Option Ty) (f : Ty × Option SelfMode) : Prop :=
  f.1.Regular names ∧ f.1.kind = .function ∧
    ∀ mode, f.2 = some mode → ∃ self params ret isUnsafe,
      f.1 = .function (self :: params) ret isUnsafe ∧
        ∃ owner, selfType = some owner ∧ ∀ t, mode.receiver? owner = some t → self = t

/-- What a receiver has to do with the type that `Self` means. -/
def ReceiverFits (names : String → Prop) (selfType : Option Ty) (t : Ty × SelfMode) : Prop :=
  t.1.Regular names ∧ ∃ owner, selfType = some owner ∧
    ∀ u, t.2.receiver? owner = some u → t.1 = u

/-- A receiver has a type that can be written, or is misplaced. -/
theorem receiverType_declares (hs : scope.Regular names) {f : FunctionDef} {r : Receiver}
    (hr : f.receiver = some r) (hE : ∀ e, Misplaced scope.selfType f e → E e) :
    Declares E names (ReceiverFits names scope.selfType) (receiverType scope f r) := by
  unfold receiverType
  split
  -- without `Self` a receiver is misplaced, and so is one of an unsupported form
  · next _ hself => exact .throw (hE _ (.outside hr hself))
  · next t ht _ => exact .pure ⟨hs.selfType _ ht, t, ht, fun u hu => Option.some.inj hu⟩
  · next t ht _ => exact .pure ⟨.ref (hs.selfType _ ht), t, ht, fun u hu => Option.some.inj hu⟩
  · next t ht _ => exact .pure ⟨.ref (hs.selfType _ ht), t, ht, fun u hu => Option.some.inj hu⟩
  · next t _ ht _ =>
    exact (declareType_declares hs _).bind fun u hu => .pure ⟨hu, t, ht, nofun⟩
  · next hform => exact .throw (hE _ (.unsupported hr hform))

/-- A receiver in front of the parameters makes a function a method. -/
theorem typeAndMode_function {receiver : Option (Ty × SelfMode)} {params : List Ty} {ret : Ty}
    {isUnsafe : Bool} {selfType : Option Ty}
    (hr : ∀ t, receiver = some t → ReceiverFits names selfType t)
    (hps : ∀ t ∈ params, t.Regular names) (hret : ret.Regular names) :
    TypeAndMode names selfType
      (.function ((receiver.map Prod.fst).toList ++ params) ret isUnsafe,
        receiver.map Prod.snd) := by
  cases receiver with
  | none => exact ⟨.function hps hret, rfl, nofun⟩
  | some t =>
    obtain ⟨ht, owner, howner, hfits⟩ := hr t rfl
    refine ⟨.function (List.forall_mem_cons.mpr ⟨ht, hps⟩) hret, rfl, fun mode hm => ?_⟩
    obtain rfl := Option.some.inj hm
    exact ⟨t.1, params, ret, isUnsafe, rfl, owner, howner, fun u hu => hfits u hu⟩

/-- **The type of a function** begins with its receiver. -/
theorem functionType_declares (hs : scope.Regular names) (f : FunctionDef)
    (hE : ∀ e, Misplaced scope.selfType f e → E e) :
    Declares E names (TypeAndMode names scope.selfType) (functionType scope f) := by
  -- the receiver comes first, and may break off
  have hreceiver : Declares E names
      (fun o => ∀ t, o = some t → ReceiverFits names scope.selfType t)
      (f.receiver.mapM (receiverType scope f)) := by
    cases hr : f.receiver with
    | none => exact .pure fun _ ht => by cases ht
    | some r =>
      rw [Option.mapM_some, map_eq_pure_bind]
      exact (receiverType_declares hs hr hE).bind fun t ht =>
        .pure fun u hu => Option.some.inj hu ▸ ht
  unfold functionType
  refine hreceiver.bind fun receiver hr => ?_
  refine (Keeps.mapM fun e _ => declareType_declares hs e).bind fun ps hps => ?_
  cases f.ret with
  | none => exact .pure (typeAndMode_function hr hps .unit)
  | some e =>
    exact (declareType_declares hs e).bind fun t ht => .pure (typeAndMode_function hr hps ht)

/-! ### Declarations -/

/-- Structs declare nothing that can be called. -/
theorem declareStructs_declares (ds : List StructDef) (seen : List String) :
    Declares E names (fun _ => True) (declareStructs file seen ds) := by
  induction ds generalizing seen with
  | nil => exact .pure trivial
  | cons d ds ih =>
    unfold declareStructs
    dsimp only
    split
    · exact (reportAt_declares _ _).bind fun _ _ => ih _
    · exact ih _

/-- A target of a struct can be written. -/
theorem declareTarget_declares (hs : scope.Regular names) (d : StructDef) :
    Declares E names (fun _ => True) (declareTarget scope d) := by
  unfold declareTarget
  split
  · exact .pure trivial
  · refine (declareType_declares hs _).bind fun t ht => .modify fun _ hd => ⟨hd.decls, ?_, hd.bodies⟩
    exact List.forall_mem_cons.mpr ⟨ht, hd.targets⟩

/-- `Self` means a type that can be written. -/
theorem withSelf_regular (hs : scope.Regular names) {t : Ty} (ht : t.Regular names) :
    ({ scope with selfType := some t } : TypeScope).Regular names :=
  ⟨hs.structs, some_regular ht⟩

/-- A method of a trait is well made. -/
theorem declareTraitMethod_declares (hs : scope.Regular names)
    (hself : scope.selfType = some .selfParam) (traitPath : String) (f : FunctionDef)
    (hE : ∀ e, Misplaced scope.selfType f e → E e) :
    Declares E names (fun _ => True) (declareTraitMethod scope traitPath f) := by
  refine (functionType_declares hs f hE).bind fun (type, mode) ht => ?_
  -- in a trait `Self` is the type variable
  rw [hself] at ht
  have hfaultless : ∀ r : Registry, Faultless (fun _ => True)
      (r.registerTraitMethod traitPath f.name type mode) := fun _ =>
    Registry.registerTraitMethod_faultless _ _ _
  refine (register_declares hfaultless fun r d r' h => ?_).bind fun added _ => ?_
  -- the type of the method begins with its receiver
  · obtain ⟨-, rfl, rfl, ho, hadd⟩ := registerTraitMethod_eq_ok h
    refine .inr ⟨d, ⟨ht.1, fun mode hm => ?_, fun target key h => ?_⟩, hadd⟩
    · rw [ho]
      exact ht.2.2 mode hm
    · rw [ho] at h
      nomatch h
  · split
    · refine addBody_declares ht.1 ht.2.1 hs.selfType fun t ht => ?_
      obtain rfl : .selfParam = t := Option.some.inj (hself ▸ ht)
      nofun
    · exact .pure trivial

/-- So are all methods of a trait. -/
theorem declareTrait_declares (hs : scope.Regular names) (d : TraitDef)
    (hE : ∀ f ∈ d.methods, ∀ t e, Misplaced (some t) f e → E e) :
    Declares E names (fun _ => True) (declareTrait scope d) := by
  unfold declareTrait
  have hfaultless : ∀ r : Registry, Faultless (fun _ => True) (quietly (r.registerTrait d.path.text)) :=
    fun _ => quietly_faultless (Registry.registerTrait_faultless _)
  refine (register_declares hfaultless fun _ _ _ h =>
    .inl (registerTrait_eq_ok (quietly_eq_ok.mp h))).bind fun added _ => ?_
  split
  · refine .forM fun f hf => ?_
    exact declareTraitMethod_declares (withSelf_regular hs .selfParam) rfl _ f (hE f hf _)
  · exact .pure trivial

/-- A method of a type's own impl is well made. -/
theorem declareInherent_declares (hs : scope.Regular names) {target : Ty}
    (hself : scope.selfType = some target) (hknown : target.kind ≠ .unknown) (f : FunctionDef)
    (hE : ∀ e, Misplaced scope.selfType f e → E e) :
    Declares E names (fun _ => True) (declareInherent scope target f) := by
  refine (functionType_declares hs f hE).bind fun (type, mode) ht => ?_
  rw [hself] at ht
  have hfaultless : ∀ r : Registry, Faultless (fun _ => True)
      (r.registerInherent target f.name type mode) := fun _ =>
    Registry.registerInherent_faultless (hs.selfType _ hself) _ _
  refine (register_declares hfaultless fun r d r' h => ?_).bind fun added _ => ?_
  -- the target is what `Self` stands for, and its key is the one that was computed
  · obtain ⟨-, rfl, rfl, ⟨key, ho, hkey⟩, hadd⟩ := registerInherent_eq_ok h
    refine .inr ⟨d, ⟨ht.1, fun mode hm => ?_, fun target' key' h => ?_⟩, hadd⟩
    · rw [ho]
      exact ht.2.2 mode hm
    · rw [ho] at h
      obtain ⟨rfl, rfl⟩ := Origin.inherent.inj h
      exact ⟨hs.selfType _ hself, hkey⟩
  · split
    · refine addBody_declares ht.1 ht.2.1 hs.selfType fun t ht => ?_
      obtain rfl : target = t := Option.some.inj (hself ▸ ht)
      exact hknown
    · exact .pure trivial

/-- An item of an impl of a trait gets a body that is. -/
theorem declareTraitItem_declares (hs : scope.Regular names)
    (hknown : ∀ t ∈ scope.selfType, t.kind ≠ .unknown) (traitPath : String) (f : FunctionDef)
    (hE : ∀ e, Misplaced scope.selfType f e → E e) :
    Declares E names (fun _ => True) (declareTraitItem scope traitPath f) := by
  refine Keeps.get.bind fun s _ => ?_
  dsimp only
  split
  · exact reportAt_declares _ _
  · split
    · exact (functionType_declares hs f hE).bind fun t ht =>
        addBody_declares ht.1 ht.2.1 hs.selfType hknown
    · exact .pure trivial

/-- **An impl** adds nothing that is not well made. -/
theorem declareImpl_declares (hs : scope.Regular names) (d : ImplDef)
    (hE : ∀ f ∈ d.methods, ∀ t e, Misplaced (some t) f e → E e) :
    Declares E names (fun _ => True) (declareImpl scope d) := by
  refine (declareType_declares hs _).bind fun target ht => ?_
  have hself := withSelf_regular hs ht
  dsimp only
  split
  · exact .pure trivial
  -- with a target that is known, the impl is one of a trait or of the type's own
  · next hknown =>
    split
    · refine Keeps.get.bind fun s _ => ?_
      dsimp only
      split
      · exact reportAt_declares _ _
      · next path _ =>
        have hfaultless : ∀ r : Registry, Faultless (fun _ => True)
            (quietly (r.registerTraitImpl path target)) := fun _ =>
          quietly_faultless (Registry.registerTraitImpl_faultless ht _)
        refine (register_declares hfaultless fun _ _ _ h =>
          .inl (registerTraitImpl_eq_ok (quietly_eq_ok.mp h))).bind fun added _ => ?_
        split
        · exact .forM fun f hf => declareTraitItem_declares hself
            (fun _ ht => Option.some.inj ht ▸ hknown) _ f (hE f hf _)
        · exact .pure trivial
    · exact .forM fun f hf => declareInherent_declares hself rfl hknown f (hE f hf _)

/-- **A function** is well made. -/
theorem declareFunction_declares (hs : scope.Regular names) (f : FunctionDef)
    (hE : ∀ e, Misplaced scope.selfType f e → E e) :
    Declares E names (fun _ => True) (declareFunction scope f) := by
  refine (functionType_declares hs f hE).bind fun (type, mode) ht => ?_
  have hfaultless : ∀ r : Registry, Faultless (fun _ => True)
      (r.registerFree f.path.text type) := fun _ => Registry.registerFree_faultless _ _
  refine (register_declares hfaultless fun r d r' h => ?_).bind fun added _ => ?_
  -- a function has no receiver, and belongs to no type
  · obtain ⟨-, rfl, hm, ho, hadd⟩ := registerFree_eq_ok h
    refine .inr ⟨d, ⟨ht.1, fun mode h => ?_, fun target key h => ?_⟩, hadd⟩
    · rw [hm] at h
      nomatch h
    · rw [ho] at h
      nomatch h
  · split
    · exact addBody_declares ht.1 ht.2.1 none_regular nofun
    · exact .pure trivial

/-! ### Programs -/

/-- A path that a program declares as a struct. -/
def IsStruct (p : Program) (path : String) : Prop := ∃ d ∈ p.structs, d.path.text = path

/-- What holds of all names of structs holds when one more of that kind is taken in. -/
theorem insert_names {P : String → Prop} {n : StructNames} {path : String}
    (hpaths : ∀ x ∈ n.paths, P x) (hlast : ∀ e ∈ n.byLast, ∀ x ∈ e.2, P x) (hp : P path) :
    (∀ x ∈ (n.insert path).paths, P x) ∧ ∀ e ∈ (n.insert path).byLast, ∀ x ∈ e.2, P x := by
  unfold StructNames.insert
  -- a path that is known changes nothing, and another one is put behind those that end like it
  split
  · exact ⟨hpaths, hlast⟩
  · refine ⟨List.forall_mem_append.mpr ⟨hpaths, List.forall_mem_singleton.mpr hp⟩,
      List.forall_mem_cons.mpr ⟨?_, hlast⟩⟩
    refine List.forall_mem_append.mpr ⟨?_, List.forall_mem_singleton.mpr hp⟩
    unfold StructNames.endingIn
    cases hl : n.byLast.lookup (lastSegment path) with
    | none => exact fun _ hx => absurd hx List.not_mem_nil
    | some paths => exact Ty.Regular.of_lookup (P := fun ps => ∀ x ∈ ps, P x) hlast hl

/-- So it holds of all names that are taken in. -/
theorem ofList_names {P : String → Prop} {l : List String} (h : ∀ x ∈ l, P x) :
    (∀ x ∈ (StructNames.ofList l).paths, P x) ∧
      ∀ e ∈ (StructNames.ofList l).byLast, ∀ x ∈ e.2, P x := by
  -- paths are inserted one by one, and each keeps what is known
  have hfold : ∀ (paths : List String) (n : StructNames), (∀ x ∈ paths, P x) →
      (∀ x ∈ n.paths, P x) → (∀ e ∈ n.byLast, ∀ x ∈ e.2, P x) →
      (∀ x ∈ (paths.foldl StructNames.insert n).paths, P x) ∧
        ∀ e ∈ (paths.foldl StructNames.insert n).byLast, ∀ x ∈ e.2, P x := by
    intro paths
    induction paths with
    | nil => exact fun _ _ hp hl => ⟨hp, hl⟩
    | cons path paths ih =>
      intro n h hp hl
      obtain ⟨hpath, hpaths⟩ := List.forall_mem_cons.mp h
      obtain ⟨hp', hl'⟩ := insert_names hp hl hpath
      exact ih _ hpaths hp' hl'
  exact hfold l {} h (fun _ hx => absurd hx List.not_mem_nil)
    fun _ hx => absurd hx List.not_mem_nil

/-- A use of a struct names one that the program declares. -/
theorem structNames_find? {p : Program} {path : Path} {full : String}
    (h : (structNames p).find? path = some full) : IsStruct p full := by
  obtain ⟨hpaths, hlast⟩ := ofList_names (P := IsStruct p) (l := p.structs.map (·.path.text))
    fun x hx => by
      obtain ⟨d, hd, rfl⟩ := List.mem_map.mp hx
      exact ⟨d, hd, rfl⟩
  unfold StructNames.find? at h
  dsimp only at h
  split at h
  · next hfull => exact Option.some.inj h ▸ hpaths _ hfull
  · split at h
    · next segment _ =>
      split at h
      · next path he =>
        obtain rfl := Option.some.inj h
        unfold StructNames.endingIn at he
        cases hl : (structNames p).byLast.lookup segment with
        | none => rw [hl] at he; cases he
        | some paths =>
          rw [hl] at he
          refine Ty.Regular.of_lookup (P := fun ps => ∀ x ∈ ps, IsStruct p x) hlast hl path ?_
          rw [show paths = [path] from he]
          exact List.mem_singleton_self path
      · cases h
    · cases h

/-- How declaring a program breaks off: at a receiver of a function that is no method, or at one of
a form that no reading gives. -/
def Misplaces (p : Program) (e : CheckFault) : Prop :=
  (∃ f ∈ p.functions, Misplaced none f e) ∨
    ∃ f ∈ p.traits.flatMap (·.methods) ++ p.impls.flatMap (·.methods), ∃ t, Misplaced (some t) f e

/-- **Declaring a program** makes all its callables well. -/
theorem declare_wellMade {p : Program} :
    Declares (Misplaces p) (IsStruct p) (fun _ => True) (declare file p) := by
  have hs : (⟨structNames p, file, none⟩ : TypeScope).Regular (IsStruct p) :=
    ⟨fun _ _ h => structNames_find? h, nofun⟩
  -- a receiver is misplaced in a method of the program, which is what may break off
  have htraits : ∀ d ∈ p.traits, ∀ f ∈ d.methods, ∀ t e, Misplaced (some t) f e → Misplaces p e :=
    fun d hd f hf t e he =>
      .inr ⟨f, List.mem_append_left _ (List.mem_flatMap.mpr ⟨d, hd, hf⟩), t, he⟩
  have himpls : ∀ d ∈ p.impls, ∀ f ∈ d.methods, ∀ t e, Misplaced (some t) f e → Misplaces p e :=
    fun d hd f hf t e he =>
      .inr ⟨f, List.mem_append_right _ (List.mem_flatMap.mpr ⟨d, hd, hf⟩), t, he⟩
  exact (declareStructs_declares _ _).bind fun _ _ =>
    (Keeps.forM fun d _ => declareTarget_declares hs d).bind fun _ _ =>
      (Keeps.forM fun d hd => declareTrait_declares hs d (htraits d hd)).bind fun _ _ =>
        (Keeps.forM fun d hd => declareImpl_declares hs d (himpls d hd)).bind fun _ _ =>
          Keeps.forM fun f hf => declareFunction_declares hs f fun e he => .inl ⟨f, hf, he⟩

/-- Nothing is declared at the start. -/
theorem nothing_wellMade : ({} : Declared).WellMade names :=
  ⟨fun _ hx => absurd hx List.not_mem_nil, fun _ hx => absurd hx List.not_mem_nil,
    fun _ hx => absurd hx List.not_mem_nil⟩

/-- What a program declares is well made. -/
theorem wellMade_of_declare {p : Program} {declared : Declared}
    (h : Gives (declare file p) {} () declared) : declared.WellMade (IsStruct p) :=
  (declare_wellMade.keeps h nothing_wellMade).2

/-- The bodies of a program are checked in states with types that can be written. -/
theorem checkBodies_wellMade {p : Program} {declared : Declared}
    (hw : declared.WellMade (IsStruct p)) (next : Core.NodeId) :
    Yields (IsStruct p) (fun _ => True)
      (checkBodies file (structNames p) declared next declared.bodies) := by
  refine checkBodies_yields _ _ fun b hb => ?_
  have hbody := hw.bodies b hb
  exact ⟨⟨⟨fun _ _ h => structNames_find? h, hbody.selfType⟩, hw.decls, hw.targets⟩, hbody.type,
    hbody.isFunction⟩

/-- Nothing is filed at the start. -/
theorem start_regular (ds : List Diagnostic) :
    ({ diagnostics := ds } : State).Regular names :=
  ⟨fun _ hx => absurd hx List.not_mem_nil, fun _ hx => absurd hx List.not_mem_nil,
    fun _ hx => absurd hx List.not_mem_nil⟩

/-- **Every type that a checked program files** can be written, and its method calls mean callables
that are well made. -/
theorem check_regular {p : Program} {checked : Checked} (h : check file p = .ok checked) :
    (∀ e ∈ checked.tables.types, e.2.Regular (IsStruct p)) ∧
      ∀ e ∈ checked.tables.methods, e.2.decl.WellMade (IsStruct p) := by
  obtain ⟨declared, final, hd, hb, he⟩ := check_eq_ok h
  have hfinal := ((checkBodies_wellMade (wellMade_of_declare hd) 1).keeps hb (start_regular _)).2
  rw [he]
  exact ⟨hfinal.types, hfinal.methods⟩

/-- Once a program is declared nothing breaks off. -/
theorem check_of_declare {p : Program} {declared : Declared}
    (hd : Gives (declare file p) {} () declared) : ∃ checked, check file p = .ok checked := by
  have hyields : Yields (IsStruct p) (fun _ => True)
      (checkBodies file (structNames p) declared 1 declared.bodies) :=
    checkBodies_wellMade (wellMade_of_declare hd) 1
  obtain ⟨functions, final, hb⟩ := hyields.gives (start_regular declared.diagnostics)
  exact ⟨_, check_of_gives hd hb⟩

/-- **Checking a program breaks off** at a misplaced receiver only. -/
theorem check_fails {p : Program} {e : CheckFault} (h : check file p = .error e) :
    Misplaces p e := by
  rcases bind_eq_error.mp h with h | ⟨⟨_, declared⟩, hd, h⟩
  · exact declare_wellMade.fails h nothing_wellMade
  · -- checking the bodies cannot be what failed
    have hgives : Gives (declare file p) {} () declared := hd
    obtain ⟨checked, hchecked⟩ := check_of_declare hgives
    nomatch hchecked.symm.trans (bind_eq_error.mpr (.inr ⟨((), declared), hd, h⟩))

end Typing

end ClosureLint
