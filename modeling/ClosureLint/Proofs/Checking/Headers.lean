import ClosureLint.Proofs.Checking.Bodies
import ClosureLint.Proofs.Checking.Relocated

/-!
# Declarations do not look into bodies

What a program declares depends on whether a function has a body, and not on what the body is; nor
does it depend on where things stand. So two programs whose headers are the same but for their places
declare the same, and the bodies that are to be checked go side by side.

* `FunctionDef.header`, `Program.headers` — functions and programs with empty bodies.
* `RegistersAlike` — registries that are related stay so, whatever is registered in both.
* `Restated` — two declarations say the same, elsewhere, their registries are related, and `Q` relates
  their bodies.
* `Adds` — two functions say the same, elsewhere, and put behind bodies that `Q` relates their own
  bodies give bodies that `Q'` relates.
* `declare_restated` — declaring programs that say the same gives declarations that say the same.
* `Grows`, `adds_self` — a function goes with itself where equal bodies may be added.
* `declare_again` — so programs with the same headers declare the same.
-/

namespace ClosureLint.Syntax

/-- A function with its body emptied. -/
def FunctionDef.header (f : FunctionDef) : FunctionDef := { f with body := f.body.map fun _ => [] }

/-- A trait with the bodies of its methods emptied. -/
def TraitDef.header (d : TraitDef) : TraitDef :=
  { d with methods := d.methods.map FunctionDef.header }

/-- An impl with the bodies of its methods emptied. -/
def ImplDef.header (d : ImplDef) : ImplDef := { d with methods := d.methods.map FunctionDef.header }

/-- A program with all its bodies emptied. -/
def Program.headers (p : Program) : Program :=
  { p with
    traits := p.traits.map TraitDef.header
    impls := p.impls.map ImplDef.header
    functions := p.functions.map FunctionDef.header }

/-- A header that stays in its place. -/
theorem FunctionDef.header_relocate_id (f : FunctionDef) :
    f.header.relocate (fun l => l) = f.header := by
  obtain ⟨loc, path, isUnsafe, receiver, params, ret, body⟩ := f
  have hreceiver : receiver.map (Receiver.relocate fun l => l) = receiver := by
    rw [Option.map_congr fun r _ => Receiver.relocate_id r, Option.map_id']
  have hparams : params.map (Param.relocate fun l => l) = params := by
    rw [List.map_congr_left fun p _ => Param.relocate_id p, List.map_id']
  have hbody : (body.map fun _ => ([] : List Stmt)).map (fun stmts => stmts.map
      (Stmt.relocate fun l => l)) = body.map fun _ => [] := by
    cases body <;> rfl
  simp only [header, relocate, hreceiver, hparams, hbody, TypeExpr.map_relocate_id]

/-- A struct that stays in its place. -/
theorem StructDef.relocate_id (d : StructDef) : d.relocate (fun l => l) = d := by
  rw [relocate, TypeExpr.map_relocate_id]

/-- Structs that stay in their places. -/
theorem StructDef.map_relocate_id (ds : List StructDef) :
    ds.map (StructDef.relocate fun l => l) = ds := by
  rw [List.map_congr_left fun d _ => d.relocate_id, List.map_id']

end ClosureLint.Syntax

namespace ClosureLint.Typing

open ClosureLint.Syntax
  (FunctionDef ImplDef Program Receiver ReceiverForm Stmt StructDef TraitDef TypeExpr Path
    optionalPaths optionalPaths_some)

/-- A body to check, emptied. -/
def Body.header (b : Body) : Body := { b with function := b.function.header, stmts := [] }

/-- Declarations with all bodies emptied. -/
def Declared.headers (d : Declared) : Declared := { d with bodies := d.bodies.map Body.header }

/-- How the bodies of two declarations go together. -/
abbrev BodyRelation := List Body → List Body → Prop

variable {g : Loc → Loc} {A : Path → Prop} {K : String → Prop} {N : Registry → Registry → Prop}
  {Q Q' : BodyRelation} {α β γ : Type} {file : Option String} {scope scope' : TypeScope}

/-! ### Registries that go together -/

/-- Two registrations are both refused for the same reason, or lead to registries related by `N`. -/
abbrev Registers (N : Registry → Registry → Prop) :
    Except (Failure RegistryError) (α × Registry) → Except (Failure RegistryError) (α × Registry) →
      Prop :=
  Outcomes fun a b => N a.2 b.2

/-- Registries that are related by `N` stay so whatever is registered under keys in `K`, among them all
that paths in `A` name, and they answer alike to what is asked on the way. -/
structure RegistersAlike (A : Path → Prop) (K : String → Prop) (N : Registry → Registry → Prop) :
    Prop where
  key : ∀ path, A path → K path.text
  found : ∀ {r r'}, N r r' → ∀ {path t}, r.findTrait? path = some t → K t
  findTrait : ∀ {r r'}, N r r' → ∀ path, A path → r'.findTrait? path = r.findTrait? path
  member : ∀ {r r'}, N r r' → ∀ {t}, K t → ∀ name,
    (r'.getTraitMethod? t name).isNone = (r.getTraitMethod? t name).isNone
  free : ∀ {r r'}, N r r' → ∀ {path}, K path → ∀ type,
    Registers N (r.registerFree path type) (r'.registerFree path type)
  inherent : ∀ {r r'}, N r r' → ∀ target name type mode,
    Registers N (r.registerInherent target name type mode)
      (r'.registerInherent target name type mode)
  trait : ∀ {r r'}, N r r' → ∀ {t}, K t →
    Registers N (quietly (r.registerTrait t)) (quietly (r'.registerTrait t))
  traitMethod : ∀ {r r'}, N r r' → ∀ {t}, K t → ∀ name type mode,
    Registers N (r.registerTraitMethod t name type mode) (r'.registerTraitMethod t name type mode)
  traitImpl : ∀ {r r'}, N r r' → ∀ {t}, K t → ∀ target,
    Registers N (quietly (r.registerTraitImpl t target)) (quietly (r'.registerTraitImpl t target))

/-- A registration goes together with itself. -/
theorem Registers.refl (x : Except (Failure RegistryError) (α × Registry)) : Registers Eq x x :=
  Outcomes.refl (V := fun a b => a.2 = b.2) (fun _ => rfl) x

/-- Registries that are the same stay so. -/
theorem registersAlike_eq : RegistersAlike A (fun _ => True) Eq where
  key _ _ := trivial
  found _ _ _ _ := trivial
  findTrait h _ _ := h ▸ rfl
  member h _ _ _ := h ▸ rfl
  free h _ _ _ := h ▸ .refl _
  inherent h _ _ _ _ := h ▸ .refl _
  trait h _ _ := h ▸ .refl _
  traitMethod h _ _ _ _ _ := h ▸ .refl _
  traitImpl h _ _ _ := h ▸ .refl _

/-! ### Steps of declaring -/

/-- The second declarations say what the first say, elsewhere, with a registry related by `N`, and `Q`
relates the bodies. -/
structure Restated (g : Loc → Loc) (N : Registry → Registry → Prop) (Q : BodyRelation)
    (s s' : Declared) : Prop where
  registry : N s.registry s'.registry
  targets : s'.targets = s.targets
  diagnostics : s'.diagnostics = s.diagnostics.map (Diagnostic.relocate g)
  bodies : Q s.bodies s'.bodies

/-- The step `m'` declares elsewhere what `m` declares, and leads from bodies that `Q` relates to
bodies that `Q'` relates. -/
def Redeclares (g : Loc → Loc) (N : Registry → Registry → Prop) (Q Q' : BodyRelation)
    (m m' : Declare α) : Prop :=
  Couples (Restated g N Q) (Restated g N Q') m m'

/-- Nothing is done where no body has to be added. -/
theorem return_restated (h : ∀ bs bs', Q bs bs' → Q' bs bs') (a : α) :
    Redeclares g N Q Q' (pure a) (pure a) :=
  Couples.mono (.pure a) (fun _ _ hs => hs) fun _ _ ⟨hr, ht, hd, hb⟩ => ⟨hr, ht, hd, h _ _ hb⟩

/-- The same problem is reported elsewhere. -/
theorem reportAt_restated (h : ∀ bs bs', Q bs bs' → Q' bs bs') (p : Problem) (l : Loc) :
    Redeclares g N Q Q' (reportAt file p l) (reportAt file p (g l)) := by
  refine .modify fun s s' ⟨hr, ht, hd, hb⟩ => ⟨hr, ht, ?_, h _ _ hb⟩
  show s'.diagnostics ++ _ = _
  rw [hd, List.map_append]
  rfl

/-- A type that stands elsewhere is declared to be the same. -/
theorem declareType_restated (hs : scope.Accords A scope') {t : TypeExpr}
    (ht : ∀ path ∈ t.paths, A path) :
    Redeclares g N Q Q (declareType scope t) (declareType scope' (t.relocate g)) := by
  -- what is reported on the way stands elsewhere
  have hreport : Redeclares g N Q Q
      (modify fun s => { s with diagnostics := s.diagnostics ++ (resolveType scope t).2 })
      (modify fun s => { s with
        diagnostics := s.diagnostics ++ (resolveType scope t).2.map (Diagnostic.relocate g) }) := by
    refine .modify fun s s' ⟨hr, ht, hd, hb⟩ => ⟨hr, ht, ?_, hb⟩
    show s'.diagnostics ++ _ = _
    rw [hd, List.map_append]
  unfold declareType
  rw [resolveType_relocate, resolveType_accords hs t ht]
  exact hreport.bind fun _ => .pure _

/-- A registration, and what is done when it is made and when it is refused. -/
theorem register_restated {l : Loc}
    {step step' : Registry → Except (Failure RegistryError) (α × Registry)}
    (h : ∀ {r r'}, N r r' → Registers N (step r) (step' r')) {k k' : Option α → Declare β}
    (hsome : ∀ a a', Redeclares g N Q Q' (k (some a)) (k' (some a')))
    (hnone : Redeclares g N Q Q' (k none) (k' none)) :
    Redeclares g N Q Q' (register file l step >>= k) (register file (g l) step' >>= k') := by
  have hboth (a : Option α) : Redeclares g N Q Q' (k a) (k' a) := by
    cases a with
    | none => exact hnone
    | some a => exact hsome a a
  unfold register
  rw [bind_assoc, bind_assoc]
  refine .get fun s s' hs => ?_
  -- the registries decide, and both do the same
  have hmade := h hs.registry
  generalize step s.registry = made, step' s'.registry = made' at hmade ⊢
  cases hmade with
  | @ok a a' hN =>
    have hmodify : Redeclares g N Q Q (modify fun s => { s with registry := a.2 })
        (modify fun s => { s with registry := a'.2 }) :=
      .modify fun _ _ ⟨_, ht, hd, hb⟩ => ⟨hN, ht, hd, hb⟩
    dsimp only
    rw [bind_assoc, bind_assoc]
    exact hmodify.bind fun _ => hsome a.1 a'.1
  | error e =>
    cases e with
    -- a registration that is refused is reported, on both sides
    | refused e =>
      dsimp only
      rw [bind_assoc, bind_assoc]
      exact (reportAt_restated (fun _ _ h => h) _ l).bind fun _ => hnone
    | fault f => exact Couples.bind (.throw _ _) hboth

/-- A receiver that stands elsewhere has the same type. -/
theorem receiverType_restated (hs : scope.Accords A scope') (f f' : FunctionDef) {r : Receiver}
    (hr : ∀ path ∈ optionalPaths r.declared, A path) :
    Redeclares g N Q Q (receiverType scope f r) (receiverType scope' f' (r.relocate g)) := by
  obtain ⟨l, form⟩ := r
  unfold receiverType
  rw [hs.selfType]
  cases scope.selfType with
  | none => exact .throw _ _
  | some t =>
    cases form with
    | value | ref | refMut => exact .pure _
    | typed type =>
      exact (declareType_restated hs (optionalPaths_some type ▸ hr)).bind fun _ => .pure _
    | unsupported form => exact .throw _ _

/-! ### Functions that say the same -/

/-- The second function says what the first says, elsewhere, and is written with paths in `A`. Their
bodies, if they have any, lead from bodies that `Q` relates to bodies that `Q'` relates; so it is also
if they are left out. -/
structure Adds (g : Loc → Loc) (A : Path → Prop) (Q Q' : BodyRelation) (f f' : FunctionDef) :
    Prop where
  header : f'.header = f.header.relocate g
  written : ∀ t ∈ f.writtenTypes, ∀ path ∈ t.paths, A path
  skipped : ∀ bs bs', Q bs bs' → Q' bs bs'
  added : ∀ {bs bs' : List Body} {stmts stmts' : List Stmt} (type : Ty) (selfType : Option Ty),
    f.body = some stmts → f'.body = some stmts' → Q bs bs' →
    Q' (bs ++ [⟨f, stmts, type, selfType⟩]) (bs' ++ [⟨f', stmts', type, selfType⟩])

/-- Two traits that say the same, elsewhere. -/
structure AddsTrait (g : Loc → Loc) (A : Path → Prop) (Q Q' : BodyRelation) (d d' : TraitDef) :
    Prop where
  loc : d'.loc = g d.loc
  path : d'.path = d.path
  written : A d.path
  methods : Chained (Adds g A) Q Q' d.methods d'.methods

/-- Two impls that say the same, elsewhere. -/
structure AddsImpl (g : Loc → Loc) (A : Path → Prop) (Q Q' : BodyRelation) (d d' : ImplDef) :
    Prop where
  loc : d'.loc = g d.loc
  target : d'.target = d.target.relocate g
  traitPath : d'.traitPath = d.traitPath
  writtenTarget : ∀ path ∈ d.target.paths, A path
  writtenTrait : ∀ path ∈ d.traitPath, A path
  methods : Chained (Adds g A) Q Q' d.methods d'.methods

/-- Two functions that say the same, elsewhere. -/
structure AddsFunction (g : Loc → Loc) (A : Path → Prop) (Q Q' : BodyRelation)
    (f f' : FunctionDef) : Prop where
  writtenPath : A f.path
  adds : Adds g A Q Q' f f'

/-- Functions that are not declared on either side add nothing on either side. -/
theorem skipped_all {fs fs' : List FunctionDef} (h : Chained (Adds g A) Q Q' fs fs') :
    ∀ bs bs', Q bs bs' → Q' bs bs' := by
  induction h with
  | nil => exact fun _ _ h => h
  | cons h _ ih => exact fun bs bs' hQ => ih bs bs' (h.skipped bs bs' hQ)

namespace Adds

variable {f f' : FunctionDef} (h : Adds g A Q Q' f f')
include h

/-- Both have a body or neither has. -/
theorem isSome : f'.body.isSome = f.body.isSome := by
  have hbody := congrArg (fun f => f.body.isSome) h.header
  simpa only [FunctionDef.header, FunctionDef.relocate, Option.isSome_map] using hbody

/-- They stand where one another stands, elsewhere. -/
theorem loc : f'.loc = g f.loc := (congrArg FunctionDef.loc h.header :)

/-- They have the same path. -/
theorem path : f'.path = f.path := (congrArg FunctionDef.path h.header :)

/-- They have the same name. -/
theorem name : f'.name = f.name := congrArg Syntax.Path.last h.path

end Adds

section

variable {f f' : FunctionDef} (hs : scope.Accords A scope') (h : Adds g A Q Q' f f')
include h

/-- Their bodies are added as the relation allows. -/
theorem addBody_restated (type : Ty) (selfType : Option Ty) :
    Redeclares g N Q Q' (addBody f type selfType) (addBody f' type selfType) := by
  have hsome := h.isSome
  unfold addBody
  cases hbody : f.body with
  -- without a body nothing is added on either side
  | none =>
    rw [hbody] at hsome
    rw [Option.not_isSome_iff_eq_none.mp (Bool.eq_false_iff.mp hsome)]
    exact return_restated h.skipped ()
  | some stmts =>
    rw [hbody] at hsome
    obtain ⟨stmts', hbody'⟩ := Option.isSome_iff_exists.mp hsome
    rw [hbody']
    exact .modify fun _ _ ⟨hr, ht, hd, hb⟩ => ⟨hr, ht, hd, h.added type selfType hbody hbody' hb⟩

include hs

/-- They are declared to have the same type. -/
theorem functionType_restated :
    Redeclares g N Q Q (functionType scope f) (functionType scope' f') := by
  have hwritten := h.written
  rw [FunctionDef.writtenTypes, List.forall_mem_append, List.forall_mem_append] at hwritten
  obtain ⟨hself, hnamed, hresult⟩ := hwritten
  have hreceiver : Redeclares g N Q Q (f.receiver.mapM (receiverType scope f))
      ((f.receiver.map (Receiver.relocate g)).mapM (receiverType scope' f')) := by
    cases hr : f.receiver with
    | none => exact .pure none
    | some r =>
      rw [hr] at hself
      rw [Option.map_some, Option.mapM_some, Option.mapM_some, map_eq_pure_bind, map_eq_pure_bind]
      refine (receiverType_restated hs f f' fun path hpath => ?_).bind fun _ => .pure _
      obtain ⟨t, ht, hpath⟩ := List.mem_flatMap.mp hpath
      exact hself t ht path hpath
  have hparams : Redeclares g N Q Q (declareTypes scope (f.params.map (·.type)))
      (declareTypes scope' ((f.params.map (Syntax.Param.relocate g)).map (·.type))) := by
    have htypes : (f.params.map (Syntax.Param.relocate g)).map (·.type)
        = (f.params.map (·.type)).map (TypeExpr.relocate g) := by
      rw [List.map_map, List.map_map]
      rfl
    rw [htypes]
    exact Couples.mapM_map fun t ht => declareType_restated hs (hnamed t ht)
  -- A function's type is read off its header.
  have hreceivers : f'.receiver = f.receiver.map (Receiver.relocate g) :=
    (congrArg FunctionDef.receiver h.header :)
  have hparameters : f'.params = f.params.map (Syntax.Param.relocate g) :=
    (congrArg FunctionDef.params h.header :)
  have hret : f'.ret = f.ret.map (TypeExpr.relocate g) := (congrArg FunctionDef.ret h.header :)
  have hunsafe : f'.isUnsafe = f.isUnsafe := (congrArg FunctionDef.isUnsafe h.header :)
  unfold functionType
  rw [hreceivers, hparameters, hret, hunsafe]
  refine hreceiver.bind fun receiver => hparams.bind fun params => ?_
  cases hr : f.ret with
  | none => exact .pure _
  | some t =>
    rw [hr, Option.toList_some, List.forall_mem_singleton] at hresult
    exact (declareType_restated hs hresult).bind fun ret => .pure _

end

/-! ### Declarations -/

/-- Structs are declared once on either side. -/
theorem declareStructs_restated (ds : List StructDef) (seen : List String) :
    Redeclares g N Q Q (declareStructs file seen ds)
      (declareStructs file seen (ds.map (StructDef.relocate g))) := by
  induction ds generalizing seen with
  | nil => exact .pure ()
  | cons d ds ih =>
    rw [List.map_cons]
    unfold declareStructs
    -- a struct that is declared twice is known by its path
    rw [show (d.relocate g).path = d.path from rfl]
    dsimp only
    split
    · exact (reportAt_restated (fun _ _ h => h) _ d.loc).bind fun _ => ih _
    · exact ih _

/-- The target of a struct is declared to be the same. -/
theorem declareTarget_restated (hs : scope.Accords A scope') {d : StructDef}
    (hd : ∀ path ∈ optionalPaths d.derefTarget, A path) :
    Redeclares g N Q Q (declareTarget scope d) (declareTarget scope' (d.relocate g)) := by
  obtain ⟨l, path, target⟩ := d
  cases target with
  | none => exact .pure ()
  | some t =>
    refine (declareType_restated hs (optionalPaths_some t ▸ hd)).bind fun type =>
      .modify fun _ _ ⟨hr, ht, hd, hb⟩ => ?_
    exact ⟨hr, congrArg ((path.text, type) :: ·) ht, hd, hb⟩

section

variable (hN : RegistersAlike A K N) (hs : scope.Accords A scope')
include hN hs

/-- A method of a trait is declared on either side. -/
theorem declareTraitMethod_restated {traitPath : String} (ht : K traitPath) {f f' : FunctionDef}
    (h : Adds g A Q Q' f f') :
    Redeclares g N Q Q' (declareTraitMethod scope traitPath f)
      (declareTraitMethod scope' traitPath f') := by
  unfold declareTraitMethod
  rw [h.name, h.loc, hs.file, hs.selfType]
  refine (functionType_restated hs h).bind fun _ =>
    register_restated (fun h => hN.traitMethod h ht _ _ _) (fun _ _ => ?_) ?_
  · exact addBody_restated h _ _
  · exact return_restated h.skipped ()

/-- **A trait** is declared on either side, with its methods. -/
theorem declareTrait_restated {d d' : TraitDef} (h : AddsTrait g A Q Q' d d') :
    Redeclares g N Q Q' (declareTrait scope d) (declareTrait scope' d') := by
  have hkey := hN.key d.path h.written
  have hself : TypeScope.Accords A { scope with selfType := some .selfParam }
      { scope' with selfType := some .selfParam } := ⟨hs.structs, hs.file, rfl⟩
  unfold declareTrait
  rw [h.path, h.loc, hs.file]
  refine register_restated (fun h => hN.trait h hkey) (fun _ _ => ?_) ?_
  · exact Couples.forM_chained
      (fun _ _ _ _ h => declareTraitMethod_restated hN (hs.file ▸ hself) hkey h) h.methods
  · exact return_restated (skipped_all h.methods) ()

/-- A method of a type's own impl is declared on either side. -/
theorem declareInherent_restated (target : Ty) {f f' : FunctionDef} (h : Adds g A Q Q' f f') :
    Redeclares g N Q Q' (declareInherent scope target f) (declareInherent scope' target f') := by
  unfold declareInherent
  rw [h.name, h.loc, hs.file, hs.selfType]
  refine (functionType_restated hs h).bind fun _ =>
    register_restated (fun h => hN.inherent h _ _ _ _) (fun _ _ => ?_) ?_
  · exact addBody_restated h _ _
  · exact return_restated h.skipped ()

/-- An item of an impl of a trait is declared on either side. -/
theorem declareTraitItem_restated {traitPath : String} (ht : K traitPath) {f f' : FunctionDef}
    (h : Adds g A Q Q' f f') :
    Redeclares g N Q Q' (declareTraitItem scope traitPath f)
      (declareTraitItem scope' traitPath f') := by
  refine .get fun s s' hstate => ?_
  rw [h.name, hN.member hstate.registry ht, h.isSome, h.loc, hs.file, hs.selfType]
  split
  · exact reportAt_restated h.skipped _ f.loc
  · split
    · exact (functionType_restated hs h).bind fun _ => addBody_restated h _ _
    · exact return_restated h.skipped ()

/-- **An impl** is declared on either side, or passed over on both. -/
theorem declareImpl_restated {d d' : ImplDef} (h : AddsImpl g A Q Q' d d') :
    Redeclares g N Q Q' (declareImpl scope d) (declareImpl scope' d') := by
  unfold declareImpl
  rw [h.target, h.traitPath]
  refine (declareType_restated hs h.writtenTarget).bind fun target => ?_
  have hself : TypeScope.Accords A { scope with selfType := some target }
      { scope' with selfType := some target } := ⟨hs.structs, hs.file, rfl⟩
  dsimp only
  split
  · -- a target that means no type is reported, and the impl is passed over
    exact return_restated (skipped_all h.methods) ()
  -- an impl of its own adds its methods, and one of a trait has to find the trait first
  · cases hpath : d.traitPath with
    | none =>
      -- each method goes on from what the ones before it left behind
      exact Couples.forM_chained (fun _ _ _ _ h => declareInherent_restated hN hself target h)
        h.methods
    | some written =>
      unfold declareTraitImpl
      refine .get fun s s' hstate => ?_
      rw [hN.findTrait hstate.registry written (h.writtenTrait written hpath), h.loc, hs.file]
      cases hfound : s.registry.findTrait? written with
      | none => exact reportAt_restated (skipped_all h.methods) _ d.loc
      | some path =>
        have hkey := hN.found hstate.registry hfound
        refine register_restated (fun h => hN.traitImpl h hkey _) (fun _ _ => ?_) ?_
        · exact Couples.forM_chained
            (fun _ _ _ _ h => declareTraitItem_restated hN (hs.file ▸ hself) hkey h) h.methods
        · exact return_restated (skipped_all h.methods) ()

/-- **A function** is declared on either side. -/
theorem declareFunction_restated {f f' : FunctionDef} (h : AddsFunction g A Q Q' f f') :
    Redeclares g N Q Q' (declareFunction scope f) (declareFunction scope' f') := by
  unfold declareFunction
  rw [h.adds.path, h.adds.loc, hs.file]
  refine (functionType_restated hs h.adds).bind fun _ =>
    register_restated (fun hr => hN.free hr (hN.key _ h.writtenPath) _) (fun _ _ => ?_) ?_
  · exact addBody_restated h.adds _ _
  · exact return_restated h.adds.skipped ()

end

/-- Structs that stand elsewhere have the same names. -/
theorem structNames_relocate {p p' : Program}
    (h : p'.structs = p.structs.map (StructDef.relocate g)) : structNames p' = structNames p := by
  rw [structNames, h, List.map_map]
  rfl

/-- Two programs that say the same, elsewhere. -/
structure AddsProgram (g : Loc → Loc) (A : Path → Prop) (Q Q₁ Q₂ Q' : BodyRelation)
    (p p' : Program) : Prop where
  structs : p'.structs = p.structs.map (StructDef.relocate g)
  written : ∀ d ∈ p.structs, ∀ path ∈ optionalPaths d.derefTarget, A path
  traits : Chained (AddsTrait g A) Q Q₁ p.traits p'.traits
  impls : Chained (AddsImpl g A) Q₁ Q₂ p.impls p'.impls
  functions : Chained (AddsFunction g A) Q₂ Q' p.functions p'.functions

/-- **Programs that say the same** declare the same, elsewhere. -/
theorem declare_restated (Q₁ Q₂ : BodyRelation) {p p' : Program} (hN : RegistersAlike A K N)
    (h : AddsProgram g A Q Q₁ Q₂ Q' p p') :
    Redeclares g N Q Q' (declare file p) (declare file p') := by
  have hs : TypeScope.Accords A ⟨structNames p, file, none⟩ ⟨structNames p, file, none⟩ := .refl _
  unfold declare
  rw [structNames_relocate h.structs, h.structs]
  exact (declareStructs_restated _ _).bind fun _ =>
    (Couples.forM_map fun d hd => declareTarget_restated hs (h.written d hd)).bind fun _ =>
      (Couples.forM_chained (fun _ _ _ _ h => declareTrait_restated hN hs h) h.traits).bind fun _ =>
        (Couples.forM_chained (fun _ _ _ _ h => declareImpl_restated hN hs h) h.impls).bind fun _ =>
          Couples.forM_chained (fun _ _ _ _ h => declareFunction_restated hN hs h) h.functions

/-! ### Items that stay as they are -/

/-- A body with paths in `A` that is put behind both lists does not count. -/
def Grows (A : Path → Prop) (Q : BodyRelation) : Prop :=
  ∀ bs bs' b, (∀ path ∈ b.stmts.flatMap Stmt.paths, A path) → Q bs bs' → Q (bs ++ [b]) (bs' ++ [b])

section

variable (hQ : Grows A Q)
include hQ

/-- A function goes with itself. -/
theorem adds_self {f : FunctionDef} (hf : ∀ path ∈ f.paths, A path) :
    Adds (fun l => l) A Q Q f f where
  header := f.header_relocate_id.symm
  written t ht path hpath :=
    hf path (List.mem_append_left _ (List.mem_flatMap.mpr ⟨t, ht, hpath⟩))
  skipped _ _ h := h
  added type selfType hbody hbody' h := by
    obtain rfl := Option.some.inj (hbody.symm.trans hbody')
    refine hQ _ _ _ (fun path hpath => hf path (List.mem_append_right _ ?_)) h
    rw [hbody]
    exact hpath

/-- So do functions one by one. -/
theorem adds_selves {fs : List FunctionDef} (hfs : ∀ path ∈ fs.flatMap FunctionDef.paths, A path) :
    Chained (Adds (fun l => l) A) Q Q fs fs :=
  .of_forall₂ (List.forall₂_same.mpr fun f hf =>
    adds_self hQ fun path hpath => hfs path (List.mem_flatMap.mpr ⟨f, hf, hpath⟩))

/-- A trait goes with itself. -/
theorem addsTrait_self {d : TraitDef} (hd : ∀ path ∈ d.paths, A path) :
    AddsTrait (fun l => l) A Q Q d d := by
  rw [TraitDef.paths, List.forall_mem_cons] at hd
  exact ⟨rfl, rfl, hd.1, adds_selves hQ hd.2⟩

/-- An impl goes with itself. -/
theorem addsImpl_self {d : ImplDef} (hd : ∀ path ∈ d.paths, A path) :
    AddsImpl (fun l => l) A Q Q d d := by
  rw [ImplDef.paths, List.forall_mem_append, List.forall_mem_append] at hd
  obtain ⟨htarget, htrait, hmethods⟩ := hd
  exact ⟨rfl, d.target.relocate_id.symm, rfl, htarget,
    fun path hpath => htrait path (Option.mem_toList.mpr hpath), adds_selves hQ hmethods⟩

/-- A function of the program goes with itself. -/
theorem addsFunction_self {f : FunctionDef} (hf : ∀ path ∈ f.path :: f.paths, A path) :
    AddsFunction (fun l => l) A Q Q f f := by
  rw [List.forall_mem_cons] at hf
  exact ⟨hf.1, adds_self hQ hf.2⟩

end

/-! ### Programs with the same headers -/

/-- Lists with the same images go side by side. -/
theorem forall₂_of_map_eq {f : α → β} {l l' : List α} (h : l'.map f = l.map f) :
    List.Forall₂ (fun a b => f b = f a) l l' := by
  have heq : List.Forall₂ Eq (l'.map f) (l.map f) := by rw [h, List.forall₂_eq_eq_eq]
  rw [List.forall₂_map_left_iff, List.forall₂_map_right_iff] at heq
  exact heq.flip

/-- The bodies are the same but for their statements. -/
private def SameHeaders : BodyRelation := fun bs bs' => bs'.map Body.header = bs.map Body.header

/-- Functions with the same header go together, whatever their bodies are. -/
private theorem adds_of_header {f f' : FunctionDef} (h : f'.header = f.header) :
    Adds (fun l => l) (fun _ => True) SameHeaders SameHeaders f f' where
  header := h.trans f.header_relocate_id.symm
  written _ _ _ _ := trivial
  skipped _ _ h := h
  added _ _ _ _ hQ := by
    unfold SameHeaders at hQ ⊢
    rw [List.map_append, List.map_append, hQ, List.map_singleton, List.map_singleton, Body.header,
      Body.header, h]

/-- So do functions one by one. -/
private theorem adds_of_headers {fs fs' : List FunctionDef}
    (h : fs'.map FunctionDef.header = fs.map FunctionDef.header) :
    Chained (Adds (fun l => l) fun _ => True) SameHeaders SameHeaders fs fs' :=
  .of_forall₂ ((forall₂_of_map_eq h).imp fun _ _ => adds_of_header)

/-- **Programs with the same headers** declare the same, up to what their bodies are. -/
theorem declare_again {p p' : Program} (h : p'.headers = p.headers) {declared : Declared}
    (hd : Gives (declare file p) {} () declared) :
    ∃ declared', Gives (declare file p') {} () declared' ∧ declared'.headers = declared.headers := by
  have hprogram : AddsProgram (fun l => l) (fun _ => True) SameHeaders SameHeaders SameHeaders
      SameHeaders p p' := by
    refine ⟨?_, fun _ _ _ _ => trivial, .of_forall₂ ?_, .of_forall₂ ?_, .of_forall₂ ?_⟩
    · -- the headers are taken to stand where they stood
      rw [StructDef.map_relocate_id]
      exact (congrArg Program.structs h :)
    · refine (forall₂_of_map_eq (congrArg Program.traits h)).imp fun d d' hd => ?_
      exact ⟨(congrArg TraitDef.loc hd :), (congrArg TraitDef.path hd :), trivial,
        adds_of_headers (congrArg TraitDef.methods hd)⟩
    · refine (forall₂_of_map_eq (congrArg Program.impls h)).imp fun d d' hd => ?_
      have htarget : d'.target = d.target := (congrArg ImplDef.target hd :)
      exact ⟨(congrArg ImplDef.loc hd :), htarget.trans d.target.relocate_id.symm,
        (congrArg ImplDef.traitPath hd :), fun _ _ => trivial, fun _ _ => trivial,
        adds_of_headers (congrArg ImplDef.methods hd)⟩
    · exact (forall₂_of_map_eq (congrArg Program.functions h)).imp fun _ _ hf =>
        ⟨trivial, adds_of_header hf⟩
  -- both start from nothing declared, which is the same
  obtain ⟨declared', hd', hr, ht, hds, hb⟩ :=
    (declare_restated _ _ registersAlike_eq hprogram).runs hd
      (⟨rfl, rfl, rfl, rfl⟩ : Restated _ Eq SameHeaders {} {})
  refine ⟨declared', hd', ?_⟩
  have hsame : declared.diagnostics.map (Diagnostic.relocate fun l => l) = declared.diagnostics := by
    rw [List.map_congr_left fun d _ => Diagnostic.relocate_id d, List.map_id']
  rw [hsame] at hds
  unfold Declared.headers
  rw [← hr, ht, hds, show declared'.bodies.map Body.header = declared.bodies.map Body.header from hb]

end ClosureLint.Typing
