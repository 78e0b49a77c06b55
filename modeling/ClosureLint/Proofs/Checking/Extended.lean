import ClosureLint.Proofs.Checking.Headers
import ClosureLint.Proofs.Registry.Wider

/-!
# Declaring a program with one item more

A struct, a trait or a function that nothing in the program names is declared without a report, and
what is declared besides stays as it was.

* `ExtendedBy` — a program with one item more, which has nothing to check.
* `registersAlike_wider` — what is registered under other keys is registered in a wider registry too.
* `declareTrait_further`, `declareFunction_further` — declaring the further item.
* `declare_extended` — declaring the program and the extended program.
-/

namespace ClosureLint

open ClosureLint.Syntax (FunctionDef ImplDef Program Receiver ReceiverForm StructDef TraitDef TypeExpr
  Path optionalPaths)

namespace Syntax

mutual

/-- The type is built from built-in types. -/
def TypeExpr.isPrimitive : TypeExpr → Bool
  | .named _ [name] [] => (Ty.primitive? name).isSome
  | .named .. => false
  | .ref _ _ inner => inner.isPrimitive
  | .array _ elem _ | .slice _ elem => elem.isPrimitive
  | .tuple _ elems => TypeExpr.allPrimitive elems
  | .fnPtr _ _ params none => TypeExpr.allPrimitive params
  | .fnPtr _ _ params (some ret) => TypeExpr.allPrimitive params && ret.isPrimitive

/-- The types are built from built-in types. -/
def TypeExpr.allPrimitive : List TypeExpr → Bool
  | [] => true
  | t :: ts => t.isPrimitive && TypeExpr.allPrimitive ts

end

/-- A function without a body that is written with types built from built-in types. -/
structure FunctionDef.Primitive (f : FunctionDef) : Prop where
  body : f.body = none
  types : ∀ t ∈ f.writtenTypes, t.isPrimitive = true
  receiver : ∀ r ∈ f.receiver, ∀ form, r.form ≠ .unsupported form

/-- The second program has one item more, somewhere, declared under `path`: a struct that dereferences
to nothing, a trait with methods of different names, or a function. None of them has a body, and their
types are built from built-in types. The text of the second program may go on where the first one's
ends. -/
inductive ExtendedBy (path : Path) : Program → Program → Prop
  | structDef (p : Program) (rest : String) (before after : List StructDef) (d : StructDef) :
    d.path = path → d.derefTarget = none →
    ExtendedBy path { p with structs := before ++ after }
      { p with structs := before ++ d :: after, source := p.source ++ rest }
  | traitDef (p : Program) (rest : String) (before after : List TraitDef) (d : TraitDef) :
    d.path = path → (∀ f ∈ d.methods, f.Primitive) → (d.methods.map FunctionDef.name).Nodup →
    ExtendedBy path { p with traits := before ++ after }
      { p with traits := before ++ d :: after, source := p.source ++ rest }
  | function (p : Program) (rest : String) (before after : List FunctionDef) (f : FunctionDef) :
    f.path = path → f.Primitive → f.receiver = none →
    ExtendedBy path { p with functions := before ++ after }
      { p with functions := before ++ f :: after, source := p.source ++ rest }

/-- The text of the extended program begins with that of the program. -/
theorem ExtendedBy.source {path : Path} {p p' : Program} (h : ExtendedBy path p p') :
    ∃ rest, p'.source = p.source ++ rest := by
  cases h with
  | structDef | traitDef | function => exact ⟨_, rfl⟩

end Syntax

mutual

/-- **A type that is built from built-in types** is resolved without a report. -/
theorem resolveType_primitive (s : TypeScope) : (t : TypeExpr) → t.isPrimitive = true →
    (resolveType s t).2 = []
  | .named _ [name] [], h => by
    obtain ⟨t, ht⟩ := Option.isSome_iff_exists.mp h
    -- `Self` is looked at before the built-in types are
    have hself : name ≠ "Self" := by
      rintro rfl
      exact absurd (show (Ty.primitive? "Self").isSome = true from h) (by decide)
    have hbuiltIn : s.builtIn [name] (!([] : List TypeExpr).isEmpty) = .type t := by
      change (if name = "Self" then _ else _) = _
      rw [if_neg hself, ht]
    rw [resolveType, hbuiltIn]
  | .ref _ _ t, h | .array _ t _, h | .slice _ t, h => by
    rw [resolveType]
    exact resolveType_primitive s t h
  | .tuple _ ts, h => by
    rw [resolveType]
    exact resolveTypes_primitive s ts h
  | .fnPtr _ _ params none, h => by
    rw [resolveType]
    exact resolveTypes_primitive s params h
  | .fnPtr _ _ params (some ret), h => by
    obtain ⟨hparams, hret⟩ := Bool.and_eq_true_iff.mp h
    rw [resolveType]
    dsimp only
    rw [resolveTypes_primitive s params hparams, resolveType_primitive s ret hret]
    rfl

/-- The same for a list of such types. -/
theorem resolveTypes_primitive (s : TypeScope) : (ts : List TypeExpr) →
    TypeExpr.allPrimitive ts = true → (resolveTypes s ts).2 = []
  | [], _ => rfl
  | t :: ts, h => by
    obtain ⟨ht, hts⟩ := Bool.and_eq_true_iff.mp h
    rw [resolveTypes]
    dsimp only
    rw [resolveType_primitive s t ht, resolveTypes_primitive s ts hts]
    rfl

end

namespace Typing

variable {key : String} {N : Registry → Registry → Prop} {Q Q' : BodyRelation} {α β : Type}
  {file : Option String} {scope scope' : TypeScope}

/-! ### Registries -/

/-- A step that registers without an answer, seen as one with an answer. -/
theorem registers_quietly {x x' : Except (Failure RegistryError) Registry} (h : Outcomes N x x') :
    Registers N (quietly x) (quietly x') := by
  cases h with
  | ok h => exact .ok h
  | error e => exact .error e

section

variable {r r' : Registry} (h : r.Wider key r') {t : String} (ht : t ≠ key)
include h ht

/-- A trait under another key is registered in a wider registry too, -/
theorem registerTrait_wider : Outcomes (Registry.Wider key) (r.registerTrait t) (r'.registerTrait t) := by
  unfold Registry.registerTrait
  rw [h.hasTrait ht]
  split
  · exact .error _
  · refine .ok ⟨h.decls, ?_, h.impls, h.implTraits⟩
    rw [List.filter_append, h.traits, List.filter_cons_of_pos (by simp [ht]), List.filter_nil]

/-- and so is an impl of it. A refusal says the same. -/
theorem registerTraitImpl_wider (target : Ty) :
    Outcomes (Registry.Wider key) (r.registerTraitImpl t target) (r'.registerTraitImpl t target) := by
  unfold Registry.registerTraitImpl
  rw [h.hasTrait ht, h.impls]
  dsimp only
  split
  · exact .error _
  -- the key and the text of the target have nothing to do with the registry
  · refine .bind (Outcomes.refl (fun _ => Eq.refl _) target.implKey).lift ?_
    rintro k _ rfl
    split
    · refine .bind (Outcomes.refl (fun _ => Eq.refl _) target.text).lift ?_
      rintro _ _ rfl
      exact .error _
    · refine .ok ⟨h.decls, h.traits, rfl, List.forall_mem_append.mpr ⟨h.implTraits, ?_⟩⟩
      exact List.forall_mem_singleton.mpr ht

end

/-- What is registered under other keys is registered in a wider registry too. -/
theorem registersAlike_wider :
    RegistersAlike (Path.Avoids (lastSegment key)) (· ≠ key) (Registry.Wider key) where
  key _ h := h.text_ne
  found h _ _ ht := h.ne_of_findTrait? ht
  -- what is looked up under another key is found in both, or in neither
  findTrait h _ hpath := h.findTrait? hpath
  member {r r'} h t ht name := by
    have hitem := h.getTraitMethod? ht name
    generalize r.getTraitMethod? t name = found, r'.getTraitMethod? t name = found' at hitem ⊢
    cases hitem <;> rfl
  free {r r'} h path hpath type := by
    have hfound := h.getFree? hpath
    unfold Registry.registerFree
    generalize r.getFree? path = found, r'.getFree? path = found' at hfound ⊢
    cases hfound with
    | some _ => exact .error _
    | none => exact .ok (h.add (by simp [Decl.isUnder, hpath]))
  inherent {r r'} h target name type mode := by
    unfold Registry.registerInherent
    refine .bind (Outcomes.refl (fun _ => Eq.refl _) target.implKey).lift ?_
    rintro k _ rfl
    have hfound := h.getInherentByKey? k name
    generalize r.getInherentByKey? k name = found, r'.getInherentByKey? k name = found'
      at hfound ⊢
    cases hfound with
    | some _ =>
      refine .bind (Outcomes.refl (fun _ => Eq.refl _) target.text).lift ?_
      rintro _ _ rfl
      exact .error _
    | none => exact .ok (h.add (by simp [Decl.isUnder]))
  trait h _ ht := registers_quietly (registerTrait_wider h ht)
  traitMethod {r r'} h t ht name type mode := by
    have hfound := h.getTraitMethod? ht name
    unfold Registry.registerTraitMethod
    rw [h.hasTrait ht]
    generalize r.getTraitMethod? t name = found, r'.getTraitMethod? t name = found' at hfound ⊢
    dsimp only
    split
    · exact .error _
    · cases hfound with
      | some _ => exact .error _
      | none => exact .ok (h.add (by simp [Decl.isUnder, ht]))
  traitImpl h _ ht target := registers_quietly (registerTraitImpl_wider h ht target)

/-- The registries are the same and hold nothing under `key`. -/
def Lacks (key : String) (r r' : Registry) : Prop := r' = r ∧ r.Wider key r

/-- What a registration does from the same registry it does in the same way. -/
private theorem Registers.same {x : Except (Failure RegistryError) (α × Registry)}
    (h : Registers (Registry.Wider key) x x) : Registers (Lacks key) x x := by
  cases x with
  | ok a =>
    cases h with
    | ok h => exact .ok ⟨rfl, h⟩
  | error e => exact .error e

/-- Before the further item is declared the registries are the same. -/
theorem registersAlike_lacks :
    RegistersAlike (Path.Avoids (lastSegment key)) (· ≠ key) (Lacks key) where
  key _ h := h.text_ne
  found h _ _ ht := h.2.ne_of_findTrait? ht
  findTrait h _ _ := h.1 ▸ rfl
  member h _ _ _ := h.1 ▸ rfl
  free h _ ht type := h.1 ▸ (registersAlike_wider.free h.2 ht type).same
  inherent h target name type mode := h.1 ▸ (registersAlike_wider.inherent h.2 target name type mode).same
  trait h _ ht := h.1 ▸ (registersAlike_wider.trait h.2 ht).same
  traitMethod h _ ht name type mode :=
    h.1 ▸ (registersAlike_wider.traitMethod h.2 ht name type mode).same
  traitImpl h _ ht target := h.1 ▸ (registersAlike_wider.traitImpl h.2 ht target).same

/-- They are so at the start. -/
theorem lacks_start : Lacks key {} {} := ⟨rfl, .nil, rfl, rfl, List.forall_mem_nil _⟩

/-! ### Steps that change nothing -/

/-- The step succeeds and changes nothing. -/
def Still (m : Declare α) : Prop := ∀ s, ∃ a, Gives m s a s

namespace Still

/-- A step that does nothing, -/
theorem pure (a : α) : Still (pure a) := fun _ => ⟨a, gives_pure.mpr ⟨rfl, rfl⟩⟩

/-- two steps in a row that change nothing, -/
theorem bind {m : Declare α} {f : α → Declare β} (hm : Still m) (hf : ∀ a, Still (f a)) :
    Still (m >>= f) := fun s => by
  obtain ⟨a, ha⟩ := hm s
  obtain ⟨b, hb⟩ := hf a s
  exact ⟨b, gives_bind.mpr ⟨a, s, ha, hb⟩⟩

/-- and a step for each member of a list that changes nothing. -/
theorem mapM {f : α → Declare β} {l : List α} (h : ∀ a ∈ l, Still (f a)) : Still (l.mapM f) := by
  induction l with
  | nil =>
    rw [List.mapM_nil]
    exact pure []
  | cons a l ih =>
    obtain ⟨ha, hl⟩ := List.forall_mem_cons.mp h
    rw [List.mapM_cons]
    exact ha.bind fun _ => (ih hl).bind fun _ => pure _

end Still

/-- A type that is built from built-in types is resolved and nothing is reported. -/
theorem declareType_still {t : TypeExpr} (ht : t.isPrimitive = true) :
    Still (declareType scope t) := fun s => by
  refine ⟨(resolveType scope t).1, gives_modify_bind.mpr (gives_pure.mpr ⟨rfl, ?_⟩)⟩
  rw [resolveType_primitive scope t ht, List.append_nil]

/-- The type of a function that is written with built-in types. -/
theorem functionType_still (scope : TypeScope) {f : FunctionDef} (hf : f.Primitive)
    (hself : f.receiver = none ∨ scope.selfType.isSome = true) : Still (functionType scope f) := by
  have htypes := hf.types
  rw [FunctionDef.writtenTypes, List.forall_mem_append, List.forall_mem_append] at htypes
  obtain ⟨hdeclared, hparams, hret⟩ := htypes
  have hreceiver : Still (f.receiver.mapM (receiverType scope f)) := by
    cases hr : f.receiver with
    | none => exact .pure none
    | some r =>
      -- a receiver needs a type to stand for, which the scope has
      obtain ⟨t, ht⟩ := Option.isSome_iff_exists.mp (hself.resolve_left (by rw [hr]; exact Option.some_ne_none r))
      have hform := hf.receiver r hr
      rw [hr] at hdeclared
      obtain ⟨l, form⟩ := r
      rw [Option.mapM_some, map_eq_pure_bind]
      refine .bind ?_ fun _ => .pure _
      unfold receiverType
      rw [ht]
      cases form with
      | value | ref | refMut => exact .pure _
      | typed type =>
        exact (declareType_still (hdeclared type (List.mem_singleton_self type))).bind fun _ => .pure _
      | unsupported form => exact absurd rfl (hform form)
  refine hreceiver.bind fun receiver =>
    (Still.mapM fun t ht => declareType_still (hparams t ht)).bind fun params => ?_
  cases hr : f.ret with
  | none => exact .pure _
  | some t =>
    rw [hr, Option.toList_some, List.forall_mem_singleton] at hret
    exact (declareType_still hret).bind fun ret => .pure _

/-- A step that registers something. -/
theorem gives_register {l : Loc}
    {step : Registry → Except (Failure RegistryError) (α × Registry)} {s : Declared} {a : α}
    {r : Registry} (h : step s.registry = .ok (a, r)) :
    Gives (register file l step) s (some a) { s with registry := r } := by
  unfold register
  refine gives_get_bind.mpr ?_
  rw [h]
  exact gives_modify_bind.mpr (gives_pure.mpr ⟨rfl, rfl⟩)

/-! ### The further item -/

/-- A method of a trait that is declared, and has none of that name. -/
theorem declareTraitMethod_further {f : FunctionDef} (hf : f.Primitive)
    (hself : scope.selfType.isSome = true) {s : Declared}
    (hknown : s.registry.hasTrait key = true)
    (hnew : s.registry.getTraitMethod? key f.name = none) :
    ∃ type mode, Gives (declareTraitMethod scope key f) s () { s with
      registry := (s.registry.add f.name (key ++ "::" ++ f.name) (.traitItem key) type mode).2 } := by
  obtain ⟨⟨type, mode⟩, htype⟩ := functionType_still scope hf (.inr hself) s
  -- neither of the two reasons to refuse it applies
  have hregistered : s.registry.registerTraitMethod key f.name type mode
      = .ok (s.registry.add f.name (key ++ "::" ++ f.name) (.traitItem key) type mode) := by
    unfold Registry.registerTraitMethod
    rw [hknown, hnew]
    rfl
  refine ⟨type, mode, gives_bind.mpr ⟨_, _, htype, ?_⟩⟩
  refine gives_bind.mpr ⟨_, _, gives_register hregistered, ?_⟩
  unfold addBody
  rw [hf.body]
  exact gives_pure.mpr ⟨rfl, rfl⟩

/-- Methods of different names. -/
theorem declareTraitMethods_further (scope : TypeScope) {fs : List FunctionDef} (hfs : ∀ f ∈ fs, f.Primitive)
    (hnames : (fs.map FunctionDef.name).Nodup) (hself : scope.selfType.isSome = true)
    {r : Registry} {s : Declared} (h : r.Wider key s.registry)
    (hknown : s.registry.hasTrait key = true)
    (hnew : ∀ f ∈ fs, s.registry.getTraitMethod? key f.name = none) :
    ∃ r', Gives (fs.forM (declareTraitMethod scope key)) s () { s with registry := r' } ∧
      r.Wider key r' := by
  induction fs generalizing s with
  | nil => exact ⟨s.registry, gives_pure.mpr ⟨rfl, rfl⟩, h⟩
  | cons f fs ih =>
    obtain ⟨hf, hfs⟩ := List.forall_mem_cons.mp hfs
    obtain ⟨hname, hnames⟩ := List.nodup_cons.mp hnames
    obtain ⟨hone, hrest⟩ := List.forall_mem_cons.mp hnew
    obtain ⟨type, mode, hfirst⟩ := declareTraitMethod_further hf hself hknown hone
    let added := (s.registry.add f.name (key ++ "::" ++ f.name) (.traitItem key) type mode).2
    have hwider : r.Wider key added := h.add_key (by simp [Decl.isUnder])
    -- the names of the methods behind are still free
    have hfree (m : FunctionDef) (hm : m ∈ fs) : added.getTraitMethod? key m.name = none := by
      have hother : f.name ≠ m.name := fun heq => hname (heq ▸ List.mem_map_of_mem hm)
      have hbefore := hrest m hm
      unfold Registry.getTraitMethod? at hbefore ⊢
      rw [show added.decls = s.registry.decls ++ [_] from rfl, List.find?_append, hbefore,
        Option.none_or]
      simp [hother]
    obtain ⟨r', hlater, hr'⟩ :=
      ih (s := { s with registry := added }) hfs hnames hwider hknown hfree
    exact ⟨r', gives_bind.mpr ⟨(), _, hfirst, hlater⟩, hr'⟩

/-- **A further trait** is declared without a report. -/
theorem declareTrait_further {d : TraitDef} (hmethods : ∀ f ∈ d.methods, f.Primitive)
    (hnames : (d.methods.map FunctionDef.name).Nodup) :
    Couples (Restated (fun l => l) (Lacks d.path.text) Q)
      (Restated (fun l => l) (Registry.Wider d.path.text) Q) (pure ()) (declareTrait scope d) where
  runs {s u s₁ s'} hg h := by
    obtain ⟨⟨hsame, hlacks⟩, htargets, hdiagnostics, hbodies⟩ := h
    obtain ⟨rfl, rfl⟩ := gives_pure.mp hg
    -- no trait has this path yet
    have hregistered : quietly (s'.registry.registerTrait d.path.text)
        = .ok ((), { s'.registry with traits := s'.registry.traits ++ [d.path.text] }) := by
      unfold Registry.registerTrait
      rw [hsame, hlacks.hasTrait_key]
      rfl
    -- the trait itself is the one thing that is new
    have hwider : s.registry.Wider d.path.text
        { s'.registry with traits := s'.registry.traits ++ [d.path.text] } := by
      rw [hsame]
      refine ⟨hlacks.decls, ?_, hlacks.impls, hlacks.implTraits⟩
      rw [List.filter_append, hlacks.traits]
      simp
    obtain ⟨r', hr', hfinal⟩ := declareTraitMethods_further
      { scope with selfType := some .selfParam }
      (s := { s' with registry :=
        { s'.registry with traits := s'.registry.traits ++ [d.path.text] } })
      hmethods hnames rfl hwider
      (List.contains_iff_mem.mpr (List.mem_append_right _ (List.mem_singleton_self _)))
      fun f _ => hsame ▸ hlacks.getTraitMethod?_key f.name
    refine ⟨_, gives_bind.mpr ⟨_, _, gives_register hregistered, hr'⟩, ?_⟩
    exact ⟨hfinal, htargets, hdiagnostics, hbodies⟩

/-- **A further function** is declared without a report. -/
theorem declareFunction_further {f : FunctionDef} (hf : f.Primitive) (hreceiver : f.receiver = none) :
    Couples (Restated (fun l => l) (Lacks f.path.text) Q)
      (Restated (fun l => l) (Registry.Wider f.path.text) Q) (pure ()) (declareFunction scope f) where
  runs {s u s₁ s'} hg h := by
    obtain ⟨⟨hsame, hlacks⟩, htargets, hdiagnostics, hbodies⟩ := h
    obtain ⟨rfl, rfl⟩ := gives_pure.mp hg
    obtain ⟨⟨type, mode⟩, htype⟩ := functionType_still scope hf (.inl hreceiver) s'
    -- no function has this path yet
    have hregistered : s'.registry.registerFree f.path.text type
        = .ok (s'.registry.add (lastSegment f.path.text) f.path.text .free type none) := by
      unfold Registry.registerFree
      rw [hsame, hlacks.getFree?_key]
      rfl
    have hfinal : s.registry.Wider f.path.text
        (s'.registry.add (lastSegment f.path.text) f.path.text .free type none).2 := by
      rw [hsame]
      exact hlacks.add_key (by simp [Decl.isUnder])
    refine ⟨{ s' with registry := _ }, gives_bind.mpr ⟨_, _, htype, gives_bind.mpr
      ⟨_, _, gives_register hregistered, ?_⟩⟩, hfinal, htargets, hdiagnostics, hbodies⟩
    unfold addBody
    rw [hf.body]
    exact gives_pure.mpr ⟨rfl, rfl⟩

/-! ### Programs -/

variable {A : Path → Prop} {K : String → Prop}

/-- The bodies are the same, and their paths are in `A`. -/
def BodiesIn (A : Path → Prop) : BodyRelation := fun bs bs' =>
  bs' = bs ∧ ∀ b ∈ bs, ∀ path ∈ b.stmts.flatMap Syntax.Stmt.paths, A path

/-- The bodies that are kept stay within the paths when one is added. -/
theorem bodiesIn_grows : Grows A (BodiesIn A) := by
  rintro bs _ b hb ⟨rfl, hbs⟩
  exact ⟨rfl, List.forall_mem_append.mpr ⟨hbs, List.forall_mem_singleton.mpr hb⟩⟩

/-- The names of the same structs are gone through twice. -/
theorem declareStructs_again (ds : List StructDef) (seen : List String) :
    Redeclares (fun l => l) N Q Q (declareStructs file seen ds) (declareStructs file seen ds) := by
  have hmap : Redeclares (fun l => l) N Q Q (declareStructs file seen ds)
      (declareStructs file seen (ds.map (StructDef.relocate fun l => l))) :=
    declareStructs_restated ds seen
  rwa [StructDef.map_relocate_id] at hmap

/-- Structs that are declared under other paths than `key`, with `key` among the paths before. -/
theorem declareStructs_seen {ds : List StructDef} (hds : ∀ d ∈ ds, d.path.text ≠ key)
    {seen seen' : List String} (hseen : ∀ x, x ≠ key → (x ∈ seen' ↔ x ∈ seen)) :
    Redeclares (fun l => l) N Q Q (declareStructs file seen ds) (declareStructs file seen' ds) := by
  induction ds generalizing seen seen' with
  | nil => exact .pure ()
  | cons d ds ih =>
    obtain ⟨hd, hds⟩ := List.forall_mem_cons.mp hds
    have hlater : Redeclares (fun l => l) N Q Q (declareStructs file (d.path.text :: seen) ds)
        (declareStructs file (d.path.text :: seen') ds) :=
      ih hds fun x hx => by rw [List.mem_cons, List.mem_cons, hseen x hx]
    unfold declareStructs
    dsimp only
    -- a name is repeated in both runs or in neither
    by_cases hknown : d.path.text ∈ seen
    · rw [if_pos hknown, if_pos ((hseen _ hd).mpr hknown)]
      exact (reportAt_restated (fun _ _ h => h) _ d.loc).bind fun _ => hlater
    · rw [if_neg hknown, if_neg (mt (hseen _ hd).mp hknown)]
      exact hlater

/-- One struct more among structs that are declared under other paths. -/
theorem declareStructs_further {before after : List StructDef} {d : StructDef}
    (h : ∀ x ∈ before ++ after, x.path.text ≠ d.path.text) {seen : List String}
    (hseen : d.path.text ∉ seen) :
    Redeclares (fun l => l) N Q Q (declareStructs file seen (before ++ after))
      (declareStructs file seen (before ++ d :: after)) := by
  induction before generalizing seen with
  -- this is where the further struct stands: it is not reported
  | nil =>
    have hskip : declareStructs file seen (d :: after)
        = declareStructs file (d.path.text :: seen) after := by
      rw [declareStructs]
      dsimp only
      rw [if_neg hseen]
    rw [List.nil_append, List.nil_append, hskip]
    exact declareStructs_seen h fun x hx => by rw [List.mem_cons, or_iff_right hx]
  | cons x before ih =>
    obtain ⟨hx, hrest⟩ := List.forall_mem_cons.mp h
    have hlater : Redeclares (fun l => l) N Q Q
        (declareStructs file (x.path.text :: seen) (before ++ after))
        (declareStructs file (x.path.text :: seen) (before ++ d :: after)) :=
      ih hrest fun hmem => (List.mem_cons.mp hmem).elim (fun heq => hx heq.symm) hseen
    rw [List.cons_append, List.cons_append]
    unfold declareStructs
    dsimp only
    split
    · exact (reportAt_restated (fun _ _ h => h) _ x.loc).bind fun _ => hlater
    · exact hlater

/-! Each list of items is gone through twice, under contexts that accord. -/

section

variable (hs : scope.Accords A scope')
include hs

/-- The type that a struct dereferences to. -/
theorem declareTarget_again {d : StructDef} (hd : ∀ path ∈ d.paths, A path) :
    Redeclares (fun l => l) N Q Q (declareTarget scope d) (declareTarget scope' d) := by
  have hone := declareTarget_restated (g := fun l => l) (N := N) (Q := Q) hs
    (List.forall_mem_cons.mp hd).2
  rwa [StructDef.relocate_id] at hone

variable (hN : RegistersAlike A K N) (hQ : Grows A Q)
include hN hQ

/-- A trait. -/
theorem declareTrait_again {d : TraitDef} (hd : ∀ path ∈ d.paths, A path) :
    Redeclares (fun l => l) N Q Q (declareTrait scope d) (declareTrait scope' d) :=
  declareTrait_restated hN hs (addsTrait_self hQ hd)

/-- An impl. -/
theorem declareImpl_again {d : ImplDef} (hd : ∀ path ∈ d.paths, A path) :
    Redeclares (fun l => l) N Q Q (declareImpl scope d) (declareImpl scope' d) :=
  declareImpl_restated hN hs (addsImpl_self hQ hd)

/-- A function. -/
theorem declareFunction_again {f : FunctionDef} (hf : ∀ path ∈ f.path :: f.paths, A path) :
    Redeclares (fun l => l) N Q Q (declareFunction scope f) (declareFunction scope' f) :=
  declareFunction_restated hN hs (addsFunction_self hQ hf)

end

variable {p p' : Program} {path : Path}

/-- The paths that do not have the last segment of `path` among theirs. -/
abbrev ApartFrom (path : Path) : Path → Prop := Path.Avoids (lastSegment path.text)

/-- The structs of the extended program are those of the other, and perhaps the further one. -/
theorem structNames_extended (h : Syntax.ExtendedBy path p p')
    (hp : ∀ q ∈ p.paths, ApartFrom path q) : (structNames p).Wider path.text (structNames p') := by
  cases h with
  | structDef p _ before after d hd _ =>
    subst hd
    have hstructs (x : StructDef) (hx : x ∈ before ++ after) :
        lastSegment x.path.text ≠ lastSegment d.path.text := by
      refine (hp x.path (List.mem_append_left _ ?_)).lastSegment_ne
      exact List.mem_flatMap.mpr ⟨x, hx, List.mem_cons_self⟩
    unfold structNames
    rw [List.map_append, List.map_append, List.map_cons]
    refine StructNames.ofList_wider fun t ht => ?_
    rw [← List.map_append] at ht
    obtain ⟨x, hx, rfl⟩ := List.mem_map.mp ht
    exact hstructs x hx
  | traitDef | function => exact .refl _

/-- **What an extended program declares** is what the program declares, and the further item. -/
theorem declare_extended (h : Syntax.ExtendedBy path p p')
    (hp : ∀ q ∈ p.paths, ApartFrom path q) :
    Couples (Restated (fun l => l) (Lacks path.text) (BodiesIn (ApartFrom path)))
      (Restated (fun l => l) (Registry.Wider path.text) (BodiesIn (ApartFrom path)))
      (declare file p) (declare file p') := by
  have hs : TypeScope.Accords (ApartFrom path) ⟨structNames p, file, none⟩
      ⟨structNames p', file, none⟩ :=
    ⟨fun _ hq => (structNames_extended h hp).find? hq, rfl, rfl⟩
  have hlacks : RegistersAlike (ApartFrom path) (· ≠ path.text) (Lacks path.text) := registersAlike_lacks
  have hwider : RegistersAlike (ApartFrom path) (· ≠ path.text) (Registry.Wider path.text) :=
    registersAlike_wider
  have hQ := bodiesIn_grows (A := ApartFrom path)
  rw [Program.paths] at hp
  simp only [List.forall_mem_append, List.forall_mem_flatMap] at hp
  obtain ⟨hstructs, htraits, himpls, hfunctions⟩ := hp
  unfold declare
  -- the further item stands in one of the lists, and the others are gone through twice
  cases h with
  | structDef p rest before after d hd hnone =>
    subst hd
    have hothers (x : StructDef) (hx : x ∈ before ++ after) : x.path.text ≠ d.path.text :=
      (hstructs x hx x.path List.mem_cons_self).text_ne
    have htarget : Redeclares (fun l => l) (Registry.Wider d.path.text) (BodiesIn (ApartFrom d.path))
        (BodiesIn (ApartFrom d.path)) (pure ())
        (declareTarget ⟨structNames { p with
          structs := before ++ d :: after, source := p.source ++ rest }, file, none⟩ d) := by
      unfold declareTarget
      rw [hnone]
      exact .pure ()
    -- nothing is registered for a struct, so the registries stay the same to the end
    have hrun : Redeclares (fun l => l) (Registry.Wider d.path.text) (BodiesIn (ApartFrom d.path))
        (BodiesIn (ApartFrom d.path)) (declare file { p with structs := before ++ after })
        (declare file { p with structs := before ++ d :: after, source := p.source ++ rest }) :=
      (declareStructs_further hothers List.not_mem_nil).bind fun _ =>
        (Couples.forM_insert
          (fun x hx => declareTarget_again hs (hstructs x (List.mem_append_left _ hx))) htarget
          (fun x hx => declareTarget_again hs (hstructs x (List.mem_append_right _ hx)))).bind fun _ =>
        (Couples.forM_self fun x hx => declareTrait_again hs hwider hQ (htraits x hx)).bind fun _ =>
          (Couples.forM_self fun x hx => declareImpl_again hs hwider hQ (himpls x hx)).bind fun _ =>
            Couples.forM_self fun x hx => declareFunction_again hs hwider hQ (hfunctions x hx)
    exact hrun.mono (fun _ _ ⟨hr, ht, hd, hb⟩ => ⟨hr.1 ▸ hr.2, ht, hd, hb⟩) fun _ _ h => h
  | traitDef p _ before after d hd hmethods hnames =>
    subst hd
    -- up to the trait the registries are the same, and behind it the second is wider
    exact (declareStructs_again _ _).bind fun _ =>
      (Couples.forM_self fun x hx => declareTarget_again hs (hstructs x hx)).bind fun _ =>
        (Couples.forM_insert
          (fun x hx => declareTrait_again hs hlacks hQ (htraits x (List.mem_append_left _ hx)))
          (declareTrait_further hmethods hnames)
          (fun x hx =>
            declareTrait_again hs hwider hQ (htraits x (List.mem_append_right _ hx)))).bind fun _ =>
          (Couples.forM_self fun x hx => declareImpl_again hs hwider hQ (himpls x hx)).bind fun _ =>
            Couples.forM_self fun x hx => declareFunction_again hs hwider hQ (hfunctions x hx)
  | function p _ before after f hf hprimitive hreceiver =>
    subst hf
    -- functions come last, so the registries are the same until then
    exact (declareStructs_again _ _).bind fun _ =>
      (Couples.forM_self fun x hx => declareTarget_again hs (hstructs x hx)).bind fun _ =>
        (Couples.forM_self fun x hx => declareTrait_again hs hlacks hQ (htraits x hx)).bind fun _ =>
          (Couples.forM_self fun x hx => declareImpl_again hs hlacks hQ (himpls x hx)).bind fun _ =>
            Couples.forM_insert
              (fun x hx =>
                declareFunction_again hs hlacks hQ (hfunctions x (List.mem_append_left _ hx)))
              (declareFunction_further hprimitive hreceiver)
              (fun x hx =>
                declareFunction_again hs hwider hQ (hfunctions x (List.mem_append_right _ hx)))

end Typing

end ClosureLint
