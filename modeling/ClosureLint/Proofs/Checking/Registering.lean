import ClosureLint.Proofs.Checking.Declarations

/-!
# What declaring a program does to the registry

The registry changes only by registering something that the program declares. So what every
registration keeps, declaring a whole program keeps.

* `Stays` — what registering the declarations of a program keeps.
* `registry_of_declare` — declaring the program keeps it.
* `traits_of_declare` — the traits that are registered are declared, and the items of traits belong to
  them.
* `declaredBy_of_declare` — a function of the program stands behind every registered declaration.
-/

namespace ClosureLint.Typing

open ClosureLint.Syntax (FunctionDef ImplDef Program Receiver StructDef TraitDef TypeExpr Path)

/-- `type` is a function type, and that of an unsafe function exactly where `f` is written as one. -/
def FunctionTypeOf (f : FunctionDef) (type : Ty) : Prop :=
  ∃ params ret, type = .function params ret f.isUnsafe

/-- Registering what `p` declares keeps the property `I` of the registry. -/
structure Stays (p : Program) (I : Registry → Prop) : Prop where
  free : ∀ {r r' type d}, ∀ f ∈ p.functions, FunctionTypeOf f type →
    r.registerFree f.path.text type = .ok (d, r') → I r → I r'
  inherent : ∀ {r r' target type mode d}, ∀ i ∈ p.impls, i.traitPath = none → ∀ f ∈ i.methods,
    FunctionTypeOf f type → r.registerInherent target f.name type mode = .ok (d, r') → I r → I r'
  trait : ∀ {r r'}, ∀ d ∈ p.traits, r.registerTrait d.path.text = .ok r' → I r → I r'
  traitMethod : ∀ {r r' type mode d}, ∀ t ∈ p.traits, ∀ f ∈ t.methods, FunctionTypeOf f type →
    r.registerTraitMethod t.path.text f.name type mode = .ok (d, r') → I r → I r'
  traitImpl : ∀ {r r' traitPath target}, r.registerTraitImpl traitPath target = .ok r' → I r → I r'

/-- The step `m` keeps the property `I` of the registry. -/
abbrev KeepsRegistry {α : Type} (I : Registry → Prop) (m : Declare α) : Prop :=
  Keeps (fun _ => True) (fun s => I s.registry) (fun _ => True) m

variable {I : Registry → Prop} {p : Program} {scope : TypeScope} {file : Option String} {α : Type}

/-! ### Steps that register nothing -/

/-- A report leaves the registry alone. -/
theorem reportAt_registry (q : Problem) (l : Loc) : KeepsRegistry I (reportAt file q l) :=
  .modify fun _ hs => hs

/-- So does a written type that is looked at, -/
theorem declareType_registry (t : TypeExpr) : KeepsRegistry I (declareType scope t) :=
  Keeps.bind (.modify fun _ hs => hs) fun _ _ => .pure trivial

/-- a body that is kept, -/
theorem addBody_registry (f : FunctionDef) (type : Ty) (selfType : Option Ty) :
    KeepsRegistry I (addBody f type selfType) := by
  unfold addBody
  split
  · exact .pure trivial
  · exact .modify fun _ hs => hs

/-- and the type of a receiver. -/
theorem receiverType_registry (f : FunctionDef) (r : Receiver) :
    KeepsRegistry I (receiverType scope f r) := by
  unfold receiverType
  split
  · exact .throw trivial
  · exact .pure trivial
  · exact .pure trivial
  · exact .pure trivial
  · exact (declareType_registry _).bind fun _ _ => .pure trivial
  · exact .throw trivial

/-- The head of a function leaves the registry alone, and its type is that of a function. -/
theorem functionType_registry (f : FunctionDef) :
    Keeps (fun _ => True) (fun s => I s.registry) (fun a => FunctionTypeOf f a.1)
      (functionType scope f) := by
  have hreceiver : KeepsRegistry I (f.receiver.mapM (receiverType scope f)) := by
    cases f.receiver with
    | none => exact .pure trivial
    | some r =>
      rw [Option.mapM_some, map_eq_pure_bind]
      exact (receiverType_registry f r).bind fun _ _ => .pure trivial
  unfold functionType
  refine hreceiver.bind fun receiver _ => ?_
  refine (Keeps.mapM fun t _ => declareType_registry t).bind fun params _ => ?_
  cases f.ret with
  | none => exact .pure ⟨_, _, rfl⟩
  | some t => exact (declareType_registry t).bind fun _ _ => .pure ⟨_, _, rfl⟩

/-- Structs are not registered, -/
theorem declareStructs_registry (ds : List StructDef) (seen : List String) :
    KeepsRegistry I (declareStructs file seen ds) := by
  induction ds generalizing seen with
  | nil => exact .pure trivial
  | cons d ds ih =>
    unfold declareStructs
    dsimp only
    split
    · exact (reportAt_registry _ _).bind fun _ _ => ih _
    · exact ih _

/-- and neither are the types that they dereference to. -/
theorem declareTarget_registry (d : StructDef) : KeepsRegistry I (declareTarget scope d) := by
  unfold declareTarget
  split
  · exact .pure trivial
  · exact (declareType_registry _).bind fun _ _ => .modify fun _ hs => hs

/-! ### Registrations -/

/-- A registration that is refused changes nothing. -/
theorem register_registry {l : Loc}
    {step : Registry → Except (Failure RegistryError) (α × Registry)}
    (h : ∀ {r a r'}, step r = .ok (a, r') → I r → I r') :
    KeepsRegistry I (register file l step) := by
  refine Keeps.get.bind fun s hs => ?_
  -- registered, refused with a report, or failed
  split
  · next a r hstep => exact Keeps.bind (.modify fun _ _ => h hstep hs) fun _ _ => .pure trivial
  · exact (reportAt_registry _ _).bind fun _ _ => .pure trivial
  · exact .throw trivial

/-- A registration, and what comes behind it unless it is refused. -/
theorem registered_registry {l : Loc}
    {step : Registry → Except (Failure RegistryError) (α × Registry)} {m : Option α → Declare Unit}
    (h : ∀ {r a r'}, step r = .ok (a, r') → I r → I r')
    (hm : ∀ a, KeepsRegistry I (m (some a))) (hnone : m none = pure ()) :
    KeepsRegistry I (register file l step >>= m) := by
  refine (register_registry h).bind fun added _ => ?_
  cases added with
  | none => exact hnone ▸ .pure trivial
  | some a => exact hm a

/-- A method of a declared trait. -/
theorem declareTraitMethod_registry (h : Stays p I) {d : TraitDef} (hd : d ∈ p.traits)
    {f : FunctionDef} (hf : f ∈ d.methods) :
    KeepsRegistry I (declareTraitMethod scope d.path.text f) :=
  (functionType_registry f).bind fun (type, _) htype =>
    registered_registry (h.traitMethod d hd f hf htype)
      (fun _ => addBody_registry f type scope.selfType) rfl

/-- A trait that is declared. -/
theorem declareTrait_registry (h : Stays p I) {d : TraitDef} (hd : d ∈ p.traits) :
    KeepsRegistry I (declareTrait scope d) := by
  refine registered_registry (fun hstep => h.trait d hd (quietly_eq_ok.mp hstep)) (fun _ => ?_) rfl
  exact Keeps.forM fun f hf => declareTraitMethod_registry h hd hf

/-- A function in an impl of no trait. -/
theorem declareInherent_registry (h : Stays p I) (target : Ty) {i : ImplDef} (hi : i ∈ p.impls)
    (hplain : i.traitPath = none) {f : FunctionDef} (hf : f ∈ i.methods) :
    KeepsRegistry I (declareInherent scope target f) :=
  (functionType_registry f).bind fun (type, _) htype =>
    registered_registry (h.inherent i hi hplain f hf htype)
      (fun _ => addBody_registry f type scope.selfType) rfl

/-- What an impl of a trait gives is not registered. -/
theorem declareTraitItem_registry (traitPath : String) (f : FunctionDef) :
    KeepsRegistry I (declareTraitItem scope traitPath f) := by
  refine Keeps.get.bind fun s _ => ?_
  dsimp only
  split
  · exact reportAt_registry _ _
  · split
    · exact (functionType_registry f).bind fun (type, _) _ => addBody_registry f type _
    · exact .pure trivial

/-- An impl that is declared. -/
theorem declareImpl_registry (h : Stays p I) {d : ImplDef} (hd : d ∈ p.impls) :
    KeepsRegistry I (declareImpl scope d) := by
  refine (declareType_registry d.target).bind fun target _ => ?_
  split
  · exact .pure trivial
  · dsimp only
    split
    · refine Keeps.get.bind fun s _ => ?_
      dsimp only
      split
      · exact reportAt_registry _ _
      · next path _ =>
        refine registered_registry (fun hstep => h.traitImpl (quietly_eq_ok.mp hstep))
          (fun _ => ?_) rfl
        exact Keeps.forM fun f _ => declareTraitItem_registry path f
    · next hplain => exact Keeps.forM fun f hf => declareInherent_registry h target hd hplain hf

/-- A function that is declared. -/
theorem declareFunction_registry (h : Stays p I) {f : FunctionDef} (hf : f ∈ p.functions) :
    KeepsRegistry I (declareFunction scope f) :=
  (functionType_registry f).bind fun (type, _) htype =>
    registered_registry (h.free f hf htype) (fun _ => addBody_registry f type none) rfl

/-- **What registrations keep** holds of the registry of a whole program. -/
theorem registry_of_declare {declared : Declared} (h : Stays p I) (hstart : I {})
    (hdeclare : Gives (declare file p) {} () declared) : I declared.registry := by
  have hkeeps : KeepsRegistry I (declare file p) :=
    (declareStructs_registry _ _).bind fun _ _ =>
      (Keeps.forM fun d _ => declareTarget_registry d).bind fun _ _ =>
        (Keeps.forM fun d hd => declareTrait_registry h hd).bind fun _ _ =>
          (Keeps.forM fun d hd => declareImpl_registry h hd).bind fun _ _ =>
            Keeps.forM fun f hf => declareFunction_registry h hf
  exact (hkeeps.keeps hdeclare hstart).2

/-! ### Traits -/

/-- The program declares a trait of that path. -/
def IsTrait (p : Program) (path : String) : Prop := ∃ d ∈ p.traits, d.path.text = path

/-- The traits of the registry are declared, and items of traits belong to one of them. -/
structure TraitsDeclared (p : Program) (r : Registry) : Prop where
  declared : ∀ t ∈ r.traits, IsTrait p t
  items : ∀ d ∈ r.decls, ∀ t, d.origin = .traitItem t → t ∈ r.traits

/-- A declaration more, which is no item of a trait that is not there. -/
private theorem TraitsDeclared.add {r : Registry} (h : TraitsDeclared p r) {name path : String}
    {origin : Origin} {type : Ty} {mode : Option SelfMode}
    (ho : ∀ t, origin = .traitItem t → t ∈ r.traits) :
    TraitsDeclared p (r.add name path origin type mode).2 :=
  ⟨h.declared, List.forall_mem_append.mpr ⟨h.items, List.forall_mem_singleton.mpr ho⟩⟩

/-- Every registration keeps it that traits are declared and that items have one. -/
theorem stays_traitsDeclared (p : Program) : Stays p (TraitsDeclared p) where
  free _ _ _ h hr := by
    unfold Registry.registerFree at h
    split at h
    -- a function of this path is there already, so nothing was registered
    · nomatch h
    · obtain ⟨-, rfl⟩ := Prod.mk.inj (pure_eq_ok.mp h)
      exact hr.add nofun
  inherent _ _ _ _ _ _ h hr := by
    obtain ⟨key, -, h⟩ := bind_eq_ok.mp h
    split at h
    · obtain ⟨_, -, h⟩ := bind_eq_ok.mp h
      nomatch h
    · obtain ⟨-, rfl⟩ := Prod.mk.inj (pure_eq_ok.mp h)
      exact hr.add nofun
  trait d hd h hr := by
    unfold Registry.registerTrait at h
    split at h
    · nomatch h
    · obtain rfl := pure_eq_ok.mp h
      -- the new trait is declared, and the items that are there keep their traits
      refine ⟨List.forall_mem_append.mpr ⟨hr.declared, ?_⟩, fun x hx t ht => ?_⟩
      · exact List.forall_mem_singleton.mpr ⟨d, hd, rfl⟩
      · exact List.mem_append_left _ (hr.items x hx t ht)
  traitMethod _ _ _ _ _ h hr := by
    unfold Registry.registerTraitMethod at h
    dsimp only at h
    split at h
    · nomatch h
    · next hknown =>
      split at h
      · nomatch h
      · obtain ⟨-, rfl⟩ := Prod.mk.inj (pure_eq_ok.mp h)
        -- an item is taken only for a trait that is registered
        refine hr.add fun t ht => ?_
        obtain rfl := Origin.traitItem.inj ht
        simpa [Registry.hasTrait] using hknown
  traitImpl h hr := by
    unfold Registry.registerTraitImpl at h
    dsimp only at h
    split at h
    · nomatch h
    · obtain ⟨key, -, h⟩ := bind_eq_ok.mp h
      split at h
      · obtain ⟨_, -, h⟩ := bind_eq_ok.mp h
        nomatch h
      · obtain rfl := pure_eq_ok.mp h
        exact ⟨hr.declared, hr.items⟩

/-- **Registered traits are declared**, and items of traits belong to them. -/
theorem traits_of_declare {declared : Declared}
    (h : Gives (declare file p) {} () declared) : TraitsDeclared p declared.registry :=
  registry_of_declare (stays_traitsDeclared p)
    ⟨fun _ ht => absurd ht List.not_mem_nil, fun _ hx => absurd hx List.not_mem_nil⟩ h

/-! ### Functions -/

/-- The function `f` of the program stands behind the declaration `d`: it is written where `d` comes
from, under the name of `d`, and the type of `d` is its type. -/
structure DeclaredBy (p : Program) (f : FunctionDef) (d : Decl) : Prop where
  types : FunctionTypeOf f d.type
  place : match d.origin with
    | .free => f ∈ p.functions ∧ d.path = f.path.text
    | .inherent .. => d.name = f.name ∧ ∃ i ∈ p.impls, i.traitPath = none ∧ f ∈ i.methods
    | .traitItem path => d.name = f.name ∧ ∃ t ∈ p.traits, t.path.text = path ∧ f ∈ t.methods

/-- A declaration is unsafe if the function is. -/
theorem DeclaredBy.isUnsafe {f : FunctionDef} {d : Decl} (h : DeclaredBy p f d) :
    d.isUnsafe = f.isUnsafe := by
  obtain ⟨params, ret, htype⟩ := h.types
  rw [Decl.isUnsafe, htype]
  rfl

/-- The type of a declaration is that of a function. -/
theorem DeclaredBy.kind {f : FunctionDef} {d : Decl} (h : DeclaredBy p f d) :
    d.type.kind = .function := by
  obtain ⟨params, ret, htype⟩ := h.types
  rw [htype]
  rfl

/-- A registration adds one declaration. -/
private theorem forall_decls_append {P : Decl → Prop} {r r' : Registry} {d : Decl}
    (h : ∀ x ∈ r.decls, P x) (hd : P d) (hr : r'.decls = r.decls ++ [d]) : ∀ x ∈ r'.decls, P x :=
  hr ▸ List.forall_mem_append.mpr ⟨h, List.forall_mem_singleton.mpr hd⟩

/-- Every registration adds a declaration behind which a function of the program stands. -/
theorem stays_declaredBy (p : Program) :
    Stays p fun r => ∀ d ∈ r.decls, ∃ f, DeclaredBy p f d where
  free f hf htype h hr := by
    obtain ⟨hpath, rfl, -, ho, hadd⟩ := registerFree_eq_ok h
    exact forall_decls_append hr ⟨f, htype, by rw [ho]; exact ⟨hf, hpath⟩⟩ hadd
  inherent i hi hplain f hf htype h hr := by
    obtain ⟨hname, rfl, -, ⟨key, ho, -⟩, hadd⟩ := registerInherent_eq_ok h
    exact forall_decls_append hr ⟨f, htype, by rw [ho]; exact ⟨hname, i, hi, hplain, hf⟩⟩ hadd
  trait d _ h hr := registerTrait_eq_ok h ▸ hr
  traitMethod t ht f hf htype h hr := by
    obtain ⟨hname, rfl, -, ho, hadd⟩ := registerTraitMethod_eq_ok h
    exact forall_decls_append hr ⟨f, htype, by rw [ho]; exact ⟨hname, t, ht, rfl, hf⟩⟩ hadd
  traitImpl h hr := registerTraitImpl_eq_ok h ▸ hr

/-- **A function of the program stands behind every declaration** of the registry. -/
theorem declaredBy_of_declare {declared : Declared} (h : Gives (declare file p) {} () declared) :
    ∀ d ∈ declared.registry.decls, ∃ f, DeclaredBy p f d :=
  registry_of_declare (stays_declaredBy p) (fun _ hd => absurd hd List.not_mem_nil) h

end ClosureLint.Typing
