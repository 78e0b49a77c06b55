import ClosureLint.Proofs.Checking.Reaching
import ClosureLint.Proofs.Checking.Reports
import ClosureLint.Proofs.Core.Written

/-!
# What a silent run has looked at

Where nothing is reported in the end, nothing was reported on the way. So every written type that is
looked at has a meaning.

* `Silent` — a written type has a meaning in a scope.
* `Silent.within` — then so have the types that it is built from.
* `Vouches` — what holds where a step of declaring is part of a silent run.
* `Attested`, `declare_vouches` — a silent run has looked at the types in declarations, those in the
  heads of a trait impl's items without a body apart, and keeps every body for checking.
* `StmtChecked.silent` — a silent run has looked at the types in bodies.
-/

namespace ClosureLint

open ClosureLint.Core
open ClosureLint.Syntax
  (FunctionDef ImplDef Path Program Receiver StructDef TraitDef TypeExpr)

/-- The scope inside a trait. -/
def TypeScope.inTrait (scope : TypeScope) : TypeScope := { scope with selfType := some .selfParam }

/-- The scope inside an impl. -/
def TypeScope.inImpl (scope : TypeScope) (d : ImplDef) : TypeScope :=
  { scope with selfType := some (resolveType scope d.target).1 }

namespace Typing

/-! ### Written types -/

/-- The written type has a meaning in the scope: nothing is reported about it. -/
def Silent (scope : TypeScope) (t : TypeExpr) : Prop := (resolveType scope t).2 = []

instance (scope : TypeScope) (t : TypeExpr) : Decidable (Silent scope t) :=
  inferInstanceAs (Decidable (_ = _))

mutual

/-- **A written type with a meaning** is built from written types with a meaning. -/
theorem Silent.within {scope : TypeScope} : (t : TypeExpr) → Silent scope t →
    ∀ u ∈ t.within, Silent scope u
  | .named l path args, h => by
    refine List.forall_mem_cons.mpr ⟨h, ?_⟩
    rw [Silent, resolveType] at h
    split at h
    · next hbuiltIn =>
      -- neither `Self` nor a built-in type has anything between angle brackets
      cases args with
      | nil => exact List.forall_mem_nil _
      | cons => nomatch (builtIn_args path).symm.trans hbuiltIn
    · nomatch h
    · split at h
      · nomatch h
      -- the name of a struct: its meaning reports what its arguments report
      · exact Silent.withinAll args h
  | .ref _ _ inner, h => List.forall_mem_cons.mpr ⟨h, Silent.within inner h⟩
  | .array _ elem _, h | .slice _ elem, h => List.forall_mem_cons.mpr ⟨h, Silent.within elem h⟩
  | .tuple _ elems, h => List.forall_mem_cons.mpr ⟨h, Silent.withinAll elems h⟩
  | .fnPtr _ _ params none, h => List.forall_mem_cons.mpr ⟨h, Silent.withinAll params h⟩
  | .fnPtr _ _ params (some ret), h => by
    obtain ⟨hparams, hret⟩ := List.append_eq_nil_iff.mp h
    exact List.forall_mem_cons.mpr ⟨h, List.forall_mem_append.mpr
      ⟨Silent.withinAll params hparams, Silent.within ret hret⟩⟩

/-- The same for a list of types whose meanings are all silent. -/
theorem Silent.withinAll {scope : TypeScope} : (ts : List TypeExpr) →
    (resolveTypes scope ts).2 = [] → ∀ u ∈ TypeExpr.withinAll ts, Silent scope u
  | [], _ => List.forall_mem_nil _
  | t :: ts, h => by
    obtain ⟨ht, hts⟩ := List.append_eq_nil_iff.mp h
    exact List.forall_mem_append.mpr ⟨Silent.within t ht, Silent.withinAll ts hts⟩

end

/-! ### Declarations -/

/-- Nothing has been reported, and all bodies that were added are among `final`. -/
structure SilentSoFar (final : List Body) (s : Declared) : Prop where
  diagnostics : s.diagnostics = []
  bodies : ∀ b ∈ s.bodies, b ∈ final

/-- Where the step `m` is part of a run that reports nothing and ends with the bodies `final`, its
answer has the property `P`. -/
structure Vouches {α : Type} (final : List Body) (P : α → Prop) (m : Declare α) : Prop where
  vouches : ∀ {s a s'}, Gives m s a s' → SilentSoFar final s' → SilentSoFar final s ∧ P a

variable {α β : Type} {final : List Body} {P : α → Prop} {Q : β → Prop} {scope : TypeScope}
  {file : Option String} {head : Bool}

namespace Vouches

/-- A step that does nothing vouches for what is known already. -/
theorem pure {a : α} (h : P a) : Vouches final P (pure a) where
  vouches hg hs := by
    obtain ⟨rfl, rfl⟩ := gives_pure.mp hg
    exact ⟨hs, h⟩

/-- Two steps vouch for what the second does, given what the first does. -/
theorem bind {m : Declare α} {f : α → Declare β} (hm : Vouches final P m)
    (hf : ∀ a, Vouches final (fun b => P a → Q b) (f a)) : Vouches final Q (m >>= f) where
  vouches hg hs := by
    obtain ⟨a, s₁, h₁, h₂⟩ := gives_bind.mp hg
    -- what follows is silent, and so is what came before
    obtain ⟨hs₁, hQ⟩ := (hf a).vouches h₂ hs
    obtain ⟨hs₀, hP⟩ := hm.vouches h₁ hs₁
    exact ⟨hs₀, hQ hP⟩

/-- What is vouched for may be weakened. -/
theorem mono {P' : α → Prop} {m : Declare α} (hm : Vouches final P m) (h : ∀ a, P a → P' a) :
    Vouches final P' m where
  vouches hg hs := (hm.vouches hg hs).imp_right (h _)

/-- A step that fails is part of no run. -/
theorem throw (e : CheckFault) : Vouches final P (throw e) where
  vouches hg := absurd hg not_gives_throw

/-- Looking at what is declared so far reports nothing. -/
theorem get : Vouches final (fun _ => True) (get : Declare Declared) where
  vouches hg hs := by
    obtain ⟨-, rfl⟩ := gives_get.mp hg
    exact ⟨hs, trivial⟩

/-- A change of neither diagnostics nor bodies. -/
theorem modify {f : Declared → Declared}
    (hf : ∀ s, (f s).diagnostics = s.diagnostics ∧ (f s).bodies = s.bodies) :
    Vouches final (fun _ => True) (modify f : Declare Unit) where
  vouches {s _ _} hg hs := by
    obtain ⟨hd, hb⟩ := hf s
    rw [← gives_modify.mp hg] at hs
    exact ⟨⟨hd ▸ hs.diagnostics, hb ▸ hs.bodies⟩, trivial⟩

/-- What goes before has no say. -/
theorem after {m : Declare α} {f : α → Declare β} (hm : Vouches final P m)
    (hf : ∀ a, Vouches final Q (f a)) : Vouches final Q (m >>= f) :=
  hm.bind fun a => (hf a).mono fun _ hb _ => hb

/-- Both steps vouch for something. -/
theorem both {p q : Prop} {m : Declare α} {f : α → Declare β} (hm : Vouches final (fun _ => p) m)
    (hf : ∀ a, Vouches final (fun _ => q) (f a)) : Vouches final (fun _ => p ∧ q) (m >>= f) :=
  hm.bind fun a => (hf a).mono fun _ hq hp => ⟨hp, hq⟩

/-- A step for each member of a list vouches for every one of them. -/
theorem forM {γ : Type} {f : γ → Declare Unit} {g : γ → Prop} {l : List γ}
    (h : ∀ a, Vouches final (fun _ => g a) (f a)) :
    Vouches final (fun _ => ∀ a ∈ l, g a) (l.forM f) := by
  induction l with
  | nil => exact pure (List.forall_mem_nil _)
  | cons a l ih => exact ((h a).both fun _ => ih).mono fun _ => List.forall_mem_cons.mpr

/-- So it does if the steps give answers. -/
theorem mapM {γ : Type} {f : γ → Declare β} {g : γ → Prop} {l : List γ}
    (h : ∀ a, Vouches final (fun _ => g a) (f a)) :
    Vouches final (fun _ => ∀ a ∈ l, g a) (l.mapM f) := by
  induction l with
  | nil =>
    rw [List.mapM_nil]
    exact pure (List.forall_mem_nil _)
  | cons a l ih =>
    rw [List.mapM_cons]
    refine ((h a).both fun _ => ih.bind fun _ => pure id).mono fun _ => List.forall_mem_cons.mpr

end Vouches

/-- A step that reports something is no part of a silent run. -/
theorem reportAt_vouches (p : Problem) (l : Loc) (P : Unit → Prop) :
    Vouches final P (reportAt file p l) where
  vouches hg hs := by
    rw [← gives_modify.mp hg] at hs
    exact absurd hs.diagnostics (List.append_ne_nil_of_right_ne_nil _ (List.cons_ne_nil _ _))

/-- A written type that is looked at has a meaning, which is the answer. -/
theorem declareType_vouches (t : TypeExpr) :
    Vouches final (fun type => Silent scope t ∧ type = (resolveType scope t).1)
      (declareType scope t) where
  vouches hg hs := by
    obtain ⟨_, hreport, rfl⟩ := gives_bind_pure.mp hg
    rw [← gives_modify.mp hreport] at hs
    obtain ⟨hdiagnostics, hsilent⟩ := List.append_eq_nil_iff.mp hs.diagnostics
    exact ⟨⟨hdiagnostics, hs.bodies⟩, hsilent, rfl⟩

/-- A step that registers something has done so, or it is no part of a silent run. -/
theorem register_vouches {l : Loc}
    {step : Registry → Except (Failure RegistryError) (α × Registry)} :
    Vouches final (fun a => a.isSome = true) (register file l step) := by
  refine Vouches.get.after fun s => ?_
  -- registered, refused with a report, or failed
  split
  · next r _ =>
    have hmodify : Vouches final (fun _ => True)
        (modify fun s => { s with registry := r } : Declare Unit) := .modify fun _ => ⟨rfl, rfl⟩
    exact hmodify.after fun _ => .pure rfl
  · next e _ =>
    have hreport : Vouches final (fun _ => False) (reportAt file (.registry e) l) :=
      reportAt_vouches _ _ _
    exact hreport.bind fun _ => .pure False.elim
  · exact .throw _

/-- A declaration is registered, or it is reported. -/
theorem registered_vouches {l : Loc} {p : Prop}
    {step : Registry → Except (Failure RegistryError) (α × Registry)} {m : Option α → Declare Unit}
    (hm : ∀ a, Vouches final (fun _ => p) (m (some a))) (hnone : m none = pure ()) :
    Vouches final (fun _ => p) (register file l step >>= m) := by
  refine register_vouches.bind fun added => ?_
  cases added with
  | some a => exact (hm a).mono fun _ hp _ => hp
  | none => exact hnone ▸ .pure nofun

/-- The body of `f`, if it has one, is among `final`, with the meaning that `Self` has in `scope`.
-/
def HasBody (scope : TypeScope) (final : List Body) (f : FunctionDef) : Prop :=
  ∀ stmts, f.body = some stmts →
    ∃ b ∈ final, b.function = f ∧ b.stmts = stmts ∧ b.selfType = scope.selfType

/-- The body of a function is kept, if it has one. -/
theorem addBody_vouches (f : FunctionDef) (type : Ty) :
    Vouches final (fun _ => HasBody scope final f) (addBody f type scope.selfType) := by
  unfold addBody
  cases hbody : f.body with
  | none => exact .pure fun stmts h => nomatch hbody.symm.trans h
  | some stmts =>
    constructor
    intro s u s' hg hs
    -- the body is the last of those kept so far, and what is kept stays in the final list
    rw [← gives_modify.mp hg] at hs
    refine ⟨⟨hs.diagnostics, fun b hb => hs.bodies b (List.mem_append_left _ hb)⟩, fun _ h => ?_⟩
    obtain rfl := Option.some.inj (hbody.symm.trans h)
    exact ⟨_, hs.bodies _ (List.mem_append_right _ (List.mem_singleton.mpr rfl)), rfl, rfl, rfl⟩

/-- The type of a receiver is looked at, if it is written. -/
theorem receiverType_vouches (f : FunctionDef) (r : Receiver) :
    Vouches final (fun _ => ∀ t ∈ r.declared, Silent scope t) (receiverType scope f r) := by
  unfold receiverType Receiver.declared
  cases scope.selfType with
  | none => exact .throw _
  | some self =>
    cases r.form with
    | value | ref | refMut => exact .pure nofun
    | typed t =>
      exact (declareType_vouches t).bind fun _ => .pure fun h u hu => Option.some.inj hu ▸ h.1
    | unsupported => exact .throw _

/-- The types in the head of a function are looked at. -/
theorem functionType_vouches (f : FunctionDef) :
    Vouches final (fun _ => ∀ t ∈ f.writtenTypes, Silent scope t) (functionType scope f) := by
  have hreceiver : Vouches final (fun _ => ∀ t ∈ (f.receiver.bind Receiver.declared).toList,
      Silent scope t) (f.receiver.mapM (receiverType scope f)) := by
    cases f.receiver with
    | none => exact .pure nofun
    | some r =>
      rw [Option.mapM_some, map_eq_pure_bind]
      exact (receiverType_vouches f r).bind fun _ =>
        .pure fun h t ht => h t (Option.mem_toList.mp ht)
  have hparams : Vouches final (fun _ => ∀ t ∈ f.params.map (·.type), Silent scope t)
      (declareTypes scope (f.params.map (·.type))) :=
    .mapM fun t => (declareType_vouches t).mono fun _ h => h.1
  -- the written types are those three groups, one after the other
  have hwritten (h : (∀ t ∈ (f.receiver.bind Receiver.declared).toList, Silent scope t) ∧
      (∀ t ∈ f.params.map (·.type), Silent scope t) ∧ ∀ t ∈ f.ret.toList, Silent scope t) :
      ∀ t ∈ f.writtenTypes, Silent scope t :=
    List.forall_mem_append.mpr ⟨h.1, List.forall_mem_append.mpr h.2⟩
  unfold functionType
  refine Vouches.mono (hreceiver.both fun receiver => hparams.both fun params => ?_)
    fun _ => hwritten
  cases f.ret with
  | none => exact .pure nofun
  | some t =>
    exact (declareType_vouches t).bind fun _ => .pure fun h => List.forall_mem_singleton.mpr h.1

/-- What a silent run has done about the function `f`: it has looked at the types in its head, where
`head` says so, and it keeps its body. -/
structure Attested (scope : TypeScope) (final : List Body) (head : Bool) (f : FunctionDef) :
    Prop where
  head : head = true → ∀ t ∈ f.writtenTypes, Silent scope t
  body : HasBody scope final f

/-- A function whose head is looked at and whose body is kept. -/
theorem declared_vouches {f : FunctionDef} {m : Ty × Option SelfMode → Declare Unit}
    (hm : ∀ type mode, Vouches final (fun _ => HasBody scope final f) (m (type, mode))) :
    Vouches final (fun _ => Attested scope final head f) (functionType scope f >>= m) :=
  (functionType_vouches f).bind fun (type, mode) =>
    (hm type mode).mono fun _ hbody hhead => ⟨fun _ => hhead, hbody⟩

/-- A method of a trait. -/
theorem declareTraitMethod_vouches (traitPath : String) (f : FunctionDef) :
    Vouches final (fun _ => Attested scope final true f) (declareTraitMethod scope traitPath f) :=
  declared_vouches fun type _ => registered_vouches (fun _ => addBody_vouches f type) rfl

/-- A function of an impl that is of no trait. -/
theorem declareInherent_vouches (target : Ty) (f : FunctionDef) :
    Vouches final (fun _ => Attested scope final true f) (declareInherent scope target f) :=
  declared_vouches fun type _ => registered_vouches (fun _ => addBody_vouches f type) rfl

/-- A function on its own. -/
theorem declareFunction_vouches (hscope : scope.selfType = none) (f : FunctionDef) :
    Vouches final (fun _ => Attested scope final true f) (declareFunction scope f) :=
  declared_vouches fun type _ => registered_vouches (fun _ => hscope ▸ addBody_vouches f type) rfl

/-- The head of an item that a trait's impl gives is looked at only where there is a body. -/
theorem declareTraitItem_vouches (traitPath : String) (f : FunctionDef) :
    Vouches final (fun _ => Attested scope final f.body.isSome f)
      (declareTraitItem scope traitPath f) := by
  refine Vouches.get.after fun s => ?_
  dsimp only
  split
  · exact reportAt_vouches _ _ _
  · split
    · exact declared_vouches fun type _ => addBody_vouches f type
    · next hbody =>
      -- without a body there is nothing to vouch for
      exact .pure ⟨fun h => absurd h hbody, fun stmts h => absurd (h ▸ rfl) hbody⟩

/-- The type that a struct dereferences to, if it has one. -/
theorem declareTarget_vouches (d : StructDef) :
    Vouches final (fun _ => ∀ t ∈ d.derefTarget, Silent scope t) (declareTarget scope d) := by
  unfold declareTarget
  cases d.derefTarget with
  | none => exact .pure nofun
  | some t =>
    refine (declareType_vouches t).bind fun type => ?_
    have hmodify : Vouches final (fun _ => True)
        (modify fun s => { s with targets := (d.path.text, type) :: s.targets } : Declare Unit) :=
      .modify fun _ => ⟨rfl, rfl⟩
    exact hmodify.mono fun _ _ h u hu => Option.some.inj hu ▸ h.1

/-- A trait and its methods. -/
theorem declareTrait_vouches (d : TraitDef) :
    Vouches final (fun _ => ∀ f ∈ d.methods, Attested scope.inTrait final true f)
      (declareTrait scope d) :=
  registered_vouches (fun _ => .forM (declareTraitMethod_vouches d.path.text)) rfl

/-- An impl whose target has no meaning is passed over, but that is reported. -/
theorem declareImpl_vouches (hscope : scope.selfType = none) (d : ImplDef) :
    Vouches final (fun _ => Silent scope d.target ∧
      ∀ f ∈ d.methods, Attested (scope.inImpl d) final (d.traitPath.isNone || f.body.isSome) f)
      (declareImpl scope d) := by
  refine (declareType_vouches d.target).bind fun target => ?_
  split
  · next hk =>
    -- only a target that is reported has no known meaning
    have hself (t : Ty) (ht : t ∈ scope.selfType) : t.kind ≠ .unknown :=
      absurd (hscope ▸ ht) (Option.not_mem_none t)
    refine .pure ?_
    -- so a silent run has not passed over it
    rintro ⟨hsilent, htarget⟩
    exact absurd (htarget ▸ hk) (resolveType_known hself d.target hsilent)
  · refine Vouches.mono (P := fun _ => ∀ f ∈ d.methods, Attested
        { scope with selfType := some target } final (d.traitPath.isNone || f.body.isSome) f)
      ?_ fun _ h => ?_
    -- an impl of a trait is registered first; the trait has to be known
    · cases d.traitPath with
      | some written =>
        refine Vouches.get.after fun s => ?_
        dsimp only
        split
        · exact reportAt_vouches _ _ _
        · exact registered_vouches (fun _ => .forM (declareTraitItem_vouches _)) rfl
      | none => exact .forM (declareInherent_vouches target)
    · rintro ⟨hsilent, rfl⟩
      exact ⟨hsilent, h⟩

/-- The names of structs, of which only repeated ones are reported. -/
theorem declareStructs_vouches (ds : List StructDef) (seen : List String) :
    Vouches final (fun _ => True) (declareStructs file seen ds) := by
  induction ds generalizing seen with
  | nil => exact .pure trivial
  | cons d ds ih =>
    unfold declareStructs
    dsimp only
    split
    · exact (reportAt_vouches _ _ fun _ => True).after fun _ => ih _
    · exact ih _

/-- What a silent run has done about the declarations of `p`. -/
structure AttestedAll (scope : TypeScope) (final : List Body) (p : Program) : Prop where
  structs : ∀ d ∈ p.structs, ∀ t ∈ d.derefTarget, Silent scope t
  traits : ∀ d ∈ p.traits, ∀ f ∈ d.methods, Attested scope.inTrait final true f
  impls : ∀ d ∈ p.impls, Silent scope d.target ∧
    ∀ f ∈ d.methods, Attested (scope.inImpl d) final (d.traitPath.isNone || f.body.isSome) f
  functions : ∀ f ∈ p.functions, Attested scope final true f

/-- **A silent run has looked at the types in declarations**, those in the heads of a trait impl's
items without a body apart, and keeps all bodies. -/
theorem declare_vouches (p : Program) :
    Vouches final (fun _ => AttestedAll ⟨structNames p, file, none⟩ final p) (declare file p) := by
  generalize hscope : (⟨structNames p, file, none⟩ : TypeScope) = scope
  have hself : scope.selfType = none := hscope ▸ rfl
  -- structs, traits, impls and functions, in the order in which they are declared
  have hstructs : Vouches final _ (p.structs.forM (declareTarget scope)) :=
    .forM declareTarget_vouches
  have htraits : Vouches final _ (p.traits.forM (declareTrait scope)) := .forM declareTrait_vouches
  have himpls : Vouches final _ (p.impls.forM (declareImpl scope)) :=
    .forM (declareImpl_vouches hself)
  have hfunctions : Vouches final _ (p.functions.forM (declareFunction scope)) :=
    .forM (declareFunction_vouches hself)
  have hall := hstructs.both fun _ => htraits.both fun _ => himpls.both fun _ => hfunctions
  unfold declare
  rw [hscope]
  exact (declareStructs_vouches p.structs []).after fun _ =>
    hall.mono fun _ ⟨hstructs, htraits, himpls, hfunctions⟩ =>
      ⟨hstructs, htraits, himpls, hfunctions⟩

/-! ### Bodies -/

variable {c : Context} {s s' : State}

/-- A written type that a silent run of a body looks at has a meaning. -/
theorem writtenOr_silent {written : Option TypeExpr} {otherwise t : Option Ty}
    (h : Gives (writtenOr c written otherwise) s t s') (hclean : s'.diagnostics = []) :
    ∀ u ∈ written, Silent c.scope u := by
  rintro u rfl
  obtain ⟨_, h, -⟩ := gives_bind_pure.mp h
  obtain ⟨_, hreport, -⟩ := gives_bind_pure.mp h
  rw [← gives_modify.mp hreport] at hclean
  exact (List.append_eq_nil_iff.mp hclean).2

/-- The types that parameters are written with have a meaning. -/
theorem bindParams_silent {ps : List Param} {expected : List (Option Ty)} {u : Unit}
    (h : Gives (bindParams c ps expected) s u s') (hclean : s'.diagnostics = []) :
    ∀ t ∈ ps.filterMap Param.declared, Silent c.scope t := by
  -- parameter by parameter, so that the induction goes through
  suffices ∀ p ∈ ps, ∀ t ∈ p.declared, Silent c.scope t by
    intro t ht
    obtain ⟨p, hp, ht⟩ := List.mem_filterMap.mp ht
    exact this p hp t ht
  induction ps generalizing expected s with
  | nil => exact List.forall_mem_nil _
  | cons p ps ih =>
    rw [bindParams_cons] at h
    obtain ⟨_, s₁, h₁, h⟩ := gives_bind.mp h
    obtain ⟨_, s₂, h₂, h⟩ := gives_bind.mp h
    -- later steps take no report back, so nothing was reported up to here
    have hclean₂ := ((bindParams_confined (I := Nowhere) (J := Nowhere) ps _).grows h).clean hclean
    have hclean₁ :=
      ((bindPattern_confined (I := Nowhere) (J := Nowhere) p.pattern _).grows h₂).clean hclean₂
    exact List.forall_mem_cons.mpr ⟨writtenOr_silent h₁ hclean₁, ih h⟩

/-- The types that a visited expression is written with have a meaning. -/
theorem Visited.silent {x : Expr} (h : Visited c x s) (hclean : s.diagnostics = []) :
    ∀ t ∈ x.ownTypes, Silent c.scope t := by
  cases x with
  | closure node params ret body =>
    obtain ⟨-, hg, hdiagnostics, -⟩ := h
    obtain ⟨-, hbinds, hret, hbody, hcoerces, hreads, -, hset⟩ := checkExpr_closure_run hg
    have hany {α : Type} {m : Check α} {s₁ s₂ : State} {a : α}
        (hm : Confined (fun _ => True) (fun _ => True) m) (h : Gives m s₁ a s₂)
        (hclean : s₂.diagnostics = []) : s₁.diagnostics = [] := (hm.grows h).clean hclean
    -- from the end back to the beginning, no step has reported anything
    have h₆ := hany (setType_confined trivial _) hset (List.prefix_nil.mp (hclean ▸ hdiagnostics))
    have h₄ := hany (Confined.mapM fun p _ => paramType_confined p) hreads h₆
    have h₃ := hany (coerceTo_confined trivial _ _) hcoerces h₄
    have h₂ := hany (checkExpr_confined body _ trivial fun _ _ => ⟨trivial, trivial⟩) hbody h₃
    have h₁ := hany (writtenOr_confined _ _) hret h₂
    refine List.forall_mem_append.mpr ⟨bindParams_silent hbinds h₁, fun t ht => ?_⟩
    exact writtenOr_silent hret h₂ t (Option.mem_toList.mp ht)
  -- no other expression is written with a type
  | path | int | str | borrow | deref | field | call | methodCall => exact nofun

/-- The type that a statement is written with has a meaning. -/
theorem StmtChecked.silent {st : Stmt} (h : StmtChecked c st s) (hclean : s.diagnostics = []) :
    ∀ t ∈ st.declared, Silent c.scope t := by
  obtain ⟨hg, hgrows⟩ := h
  cases st with
  | letStmt node pattern declared value =>
    rw [checkStmt_letStmt] at hg
    obtain ⟨expected, s₁, h₁, hg⟩ := gives_bind.mp hg
    -- all that follows the declared type
    have hrest : Confined (fun _ => True) (fun _ => True) (do
        let type ← checkExpr c value expected
        coerceTo c value type expected
        bindPattern pattern (some (expected.getD type))) :=
      (checkExpr_confined value _ trivial fun _ _ => ⟨trivial, trivial⟩).bind fun _ =>
        (coerceTo_confined trivial _ _).bind fun _ => bindPattern_confined _ _
    exact writtenOr_silent h₁ ((hrest.grows hg).clean (hgrows.clean hclean))
  | exprStmt => exact nofun

/-- **A silent run has looked at the types in bodies.** -/
theorem BodyChecks.silent {names : StructNames} {d : Declared} {next : NodeId}
    {checks : List BodyCheck} (h : BodyChecks file names d next s checks s')
    (hf : FreshFrom next s.tables) (hclean : s'.diagnostics = []) :
    ∀ k ∈ checks, ∀ t ∈ k.body.stmts.flatMap Syntax.Stmt.annotations,
      Silent ⟨names, file, k.body.selfType⟩ t := by
  intro k hk t ht
  obtain ⟨next, hnumber⟩ := h.numbered k hk
  have hstmts : k.function.body.stmts.flatMap Stmt.annotations = _ :=
    hnumber ▸ annotations_lowerFunction k.body.function k.body.stmts next
  rw [← hstmts] at ht
  obtain ⟨st, hst, ht⟩ := List.mem_flatMap.mp ht
  -- the type is written at the statement itself, or at a closure inside
  rcases List.mem_append.mp ht with ht | ht
  · exact ((h.reaches k hk).2 st hst).silent hclean t (Option.mem_toList.mp ht)
  · obtain ⟨x, hx, ht⟩ := List.mem_flatMap.mp ht
    exact (h.visits hf k hk x (List.mem_flatMap.mpr ⟨st, hst, hx⟩)).silent hclean t ht

end Typing

end ClosureLint
