import ClosureLint.Proofs.Checking.Growth
import ClosureLint.Proofs.Checking.Programs

/-!
# Which bodies are checked

A declaration that is refused is reported, and its body is passed over. So where nothing is
reported, all bodies that a program has are checked, in the order in which they are lowered.

* `Collects` — a step of declaring adds the bodies of certain functions, or reports something.
* `declare_collects` — declaring a program collects all its bodies.
* `check_ofChecking` — whatever is reported is an error of the type checking phase.
* `check_once` — a program without errors has no diagnostics, and all its bodies are checked.
* `check_clean` — so its functions are those that lowering the program gives.
-/

namespace ClosureLint.Typing

open ClosureLint.Core (allFunctions lowerFunctions NodeId)
open ClosureLint.Syntax
  (FunctionDef ImplDef Program Receiver ReceiverForm Stmt StructDef TraitDef TypeExpr Path)

/-- The functions that have a body, with its statements. -/
def withBodies (fs : List FunctionDef) : List (FunctionDef × List Stmt) :=
  fs.filterMap fun f => f.body.map (f, ·)

/-- Of two lists of functions, those with bodies. -/
theorem withBodies_append (fs gs : List FunctionDef) :
    withBodies (fs ++ gs) = withBodies fs ++ withBodies gs := List.filterMap_append ..

/-- The functions whose bodies are to be checked, with their statements. -/
def Declared.written (d : Declared) : List (FunctionDef × List Stmt) :=
  d.bodies.map fun b => (b.function, b.stmts)

/-- The step `m` reports errors, or else its answer has the property `P` and it adds the bodies of
`fs` to those that are to be checked. -/
structure Collects {α : Type} (fs : List FunctionDef) (P : α → Prop) (m : Declare α) : Prop where
  collects : ∀ {s a s'}, Gives m s a s' → ∃ ds, s'.diagnostics = s.diagnostics ++ ds ∧
    (∀ d ∈ ds, d.OfChecking) ∧
    (ds = [] → P a ∧ s'.written = s.written ++ withBodies fs)

variable {α β : Type} {fs gs : List FunctionDef} {P : α → Prop} {Q : β → Prop}
  {scope : TypeScope} {file : Option String}

namespace Collects

/-- A step that does nothing collects nothing. -/
theorem pure {a : α} (h : P a) : Collects [] P (pure a : Declare α) where
  collects hg := by
    obtain ⟨rfl, rfl⟩ := gives_pure.mp hg
    exact ⟨[], (List.append_nil _).symm, List.forall_mem_nil _, fun _ => ⟨h, (List.append_nil _).symm⟩⟩

/-- An answer without the property leaves the rest free to do anything but to take a report
back. -/
theorem bind {m : Declare α} {f : α → Declare β} (hm : Collects fs P m)
    (hf : ∀ a, ∃ hs R, Collects hs R (f a) ∧ (P a → hs = gs ∧ ∀ b, R b → Q b)) :
    Collects (fs ++ gs) Q (m >>= f) where
  collects hg := by
    obtain ⟨a, s', h, h'⟩ := gives_bind.mp hg
    obtain ⟨hs, R, hfa, hP⟩ := hf a
    obtain ⟨ds, hds, herrors, hclean⟩ := hm.collects h
    obtain ⟨ds', hds', herrors', hclean'⟩ := hfa.collects h'
    refine ⟨ds ++ ds', ?_, List.forall_mem_append.mpr ⟨herrors, herrors'⟩, fun hnil => ?_⟩
    · rw [hds', hds, List.append_assoc]
    · -- neither step has reported anything, so both have collected
      obtain ⟨rfl, rfl⟩ := List.append_eq_nil_iff.mp hnil
      obtain ⟨ha, hbodies⟩ := hclean rfl
      obtain ⟨hb, hbodies'⟩ := hclean' rfl
      obtain ⟨rfl, hR⟩ := hP ha
      exact ⟨hR _ hb, by rw [hbodies', hbodies, withBodies_append, List.append_assoc]⟩

/-- Whatever the first step answers. -/
theorem andThen {m : Declare α} {f : α → Declare β} (hm : Collects fs P m)
    (hf : ∀ a, Collects gs Q (f a)) : Collects (fs ++ gs) Q (m >>= f) :=
  hm.bind fun a => ⟨gs, Q, hf a, fun _ => ⟨rfl, fun _ => id⟩⟩

/-- A step without bodies of its own. -/
theorem quiet {m : Declare α} {f : α → Declare β} (hm : Collects [] P m)
    (hf : ∀ a, Collects gs Q (f a)) : Collects gs Q (m >>= f) := hm.andThen hf

/-- A step that fails collects whatever one likes. -/
theorem throw (e : CheckFault) : Collects fs P (throw e : Declare α) where
  collects hg := absurd hg not_gives_throw

/-- Looking at what is declared so far collects nothing. -/
theorem get : Collects [] (fun _ => True) (get : Declare Declared) where
  collects hg := by
    obtain ⟨-, rfl⟩ := gives_get.mp hg
    exact ⟨[], (List.append_nil _).symm, List.forall_mem_nil _, fun _ => ⟨trivial, (List.append_nil _).symm⟩⟩

/-- A change of neither diagnostics nor bodies. -/
theorem modify {f : Declared → Declared}
    (hf : ∀ s, (f s).diagnostics = s.diagnostics ∧ (f s).bodies = s.bodies) :
    Collects [] (fun _ => True) (modify f : Declare Unit) where
  collects {s _ _} hg := by
    rw [← gives_modify.mp hg]
    obtain ⟨hd, hb⟩ := hf s
    refine ⟨[], by rw [hd, List.append_nil], List.forall_mem_nil _, fun _ => ⟨trivial, ?_⟩⟩
    unfold Declared.written
    rw [hb]
    exact (List.append_nil _).symm

/-- A step for each member of a list collects what the steps collect. -/
theorem forM {γ : Type} {f : γ → Declare Unit} {g : γ → List FunctionDef} {l : List γ}
    (h : ∀ a ∈ l, Collects (g a) (fun _ => True) (f a)) :
    Collects (l.flatMap g) (fun _ => True) (l.forM f) := by
  induction l with
  | nil => exact pure trivial
  | cons a l ih =>
    exact (h a List.mem_cons_self).andThen fun _ => ih fun b hb => h b (List.mem_cons_of_mem a hb)

/-- Steps that give answers, none of which collects anything. -/
theorem mapM {γ : Type} {f : γ → Declare β} {l : List γ}
    (h : ∀ a ∈ l, Collects [] (fun _ => True) (f a)) :
    Collects [] (fun _ => True) (l.mapM f) := by
  induction l with
  | nil => rw [List.mapM_nil]; exact pure trivial
  | cons a l ih =>
    rw [List.mapM_cons]
    exact (h a List.mem_cons_self).andThen fun _ =>
      (ih fun b hb => h b (List.mem_cons_of_mem a hb)).andThen fun _ => pure trivial

end Collects

/-! ### Steps of declaring -/

/-- The same bodies may come from a list that also names functions without one. -/
theorem Collects.congr {m : Declare α} (h : Collects fs P m) (he : withBodies fs = withBodies gs) :
    Collects gs P m where
  collects hg := he ▸ h.collects hg

/-- Nothing need be known of the answer. -/
theorem Collects.weaken {m : Declare α} (h : Collects fs P m) :
    Collects fs (fun _ => True) m where
  collects hg := by
    obtain ⟨ds, hds, herrors, hclean⟩ := h.collects hg
    exact ⟨ds, hds, herrors, fun hnil => ⟨trivial, (hclean hnil).2⟩⟩

/-- A step that reports something has collected whatever it should. -/
theorem reportAt_collects (p : Problem) (l : Loc) (P : Unit → Prop) :
    Collects fs P (reportAt file p l) where
  collects hg := by
    rw [← gives_modify.mp hg]
    exact ⟨_, rfl, List.forall_mem_singleton.mpr (ofChecking_diagnostic p _), fun h => nomatch h⟩

/-- Where a written type is not reported, the answer is its meaning. -/
theorem declareType_collects (t : TypeExpr) :
    Collects [] (fun type => resolveType scope t = (type, [])) (declareType scope t) where
  collects {s type s'} hg := by
    obtain ⟨_, hreport, rfl⟩ := gives_bind_pure.mp hg
    rw [← gives_modify.mp hreport]
    refine ⟨(resolveType scope t).2, rfl, resolveType_errors scope t, fun hnil => ⟨?_, ?_⟩⟩
    · exact Prod.ext rfl hnil
    · exact (List.append_nil _).symm

/-- A step that registers something collects no body. If it is refused, that is reported. -/
theorem register_collects {l : Loc}
    {step : Registry → Except (Failure RegistryError) (α × Registry)} :
    Collects [] (fun a => a.isSome = true) (register file l step) := by
  refine Collects.get.quiet fun s => ?_
  split
  · next a r _ =>
    have hmodify : Collects [] (fun _ => True)
        (modify fun s => { s with registry := r } : Declare Unit) := .modify fun _ => ⟨rfl, rfl⟩
    exact hmodify.quiet fun _ => .pure rfl
  · next e _ =>
    have hreport : Collects [] (fun _ => False) (reportAt file (.registry e) l) :=
      reportAt_collects _ _ _
    exact hreport.bind fun _ => ⟨[], fun _ => True, .pure trivial, nofun⟩
  · exact .throw _

/-- The body of a function is collected, if it has one. -/
theorem addBody_collects (f : FunctionDef) (type : Ty) (selfType : Option Ty) :
    Collects [f] (fun _ => True) (addBody f type selfType) := by
  unfold addBody
  cases hbody : f.body with
  | none =>
    -- a function without a body counts for nothing among those with bodies
    refine (Collects.pure trivial).congr ?_
    rw [withBodies, withBodies, List.filterMap_cons, hbody]
    rfl
  | some stmts =>
    constructor
    intro s u s' hg
    rw [← gives_modify.mp hg]
    refine ⟨[], (List.append_nil _).symm, List.forall_mem_nil _, fun _ => ⟨trivial, ?_⟩⟩
    rw [Declared.written, Declared.written, List.map_append, withBodies, List.filterMap_cons, hbody]
    rfl

/-- Nothing is collected from the type of a receiver, -/
theorem receiverType_collects (f : FunctionDef) (r : Receiver) :
    Collects [] (fun _ => True) (receiverType scope f r) := by
  unfold receiverType
  split
  · exact .throw _
  · exact .pure trivial
  · exact .pure trivial
  · exact .pure trivial
  · exact (declareType_collects _).quiet fun _ => .pure trivial
  · exact .throw _

/-- nor from the head of a function. -/
theorem functionType_collects (f : FunctionDef) :
    Collects [] (fun _ => True) (functionType scope f) := by
  have hreceiver : Collects [] (fun _ => True) (f.receiver.mapM (receiverType scope f)) := by
    cases f.receiver with
    | none => exact .pure trivial
    | some r =>
      rw [Option.mapM_some, map_eq_pure_bind]
      exact (receiverType_collects f r).quiet fun _ => .pure trivial
  have hparams : Collects [] (fun _ => True) (declareTypes scope (f.params.map (·.type))) :=
    .mapM fun t _ => (declareType_collects t).weaken
  unfold functionType
  refine hreceiver.quiet fun receiver => hparams.quiet fun params => ?_
  cases f.ret with
  | none => exact .pure trivial
  | some t => exact (declareType_collects t).quiet fun ret => .pure trivial

/-- The bodies of functions that are declared one by one. -/
theorem forM_collects {m : FunctionDef → Declare Unit}
    (h : ∀ f, Collects [f] (fun _ => True) (m f)) (fs : List FunctionDef) :
    Collects fs (fun _ => True) (fs.forM m) := by
  have hall : Collects (fs.flatMap fun f => [f]) (fun _ => True) (fs.forM m) :=
    .forM fun f _ => h f
  rwa [List.flatMap_singleton'] at hall

/-- A declaration is registered and its body added, or it is reported. -/
theorem registered_collects {l : Loc}
    {step : Registry → Except (Failure RegistryError) (α × Registry)} {m : Option α → Declare Unit}
    (hm : ∀ a, Collects fs (fun _ => True) (m (some a))) (hnone : m none = pure ()) :
    Collects fs (fun _ => True) (register file l step >>= m) := by
  have hregister : Collects [] (fun a => a.isSome = true) (register file l step) :=
    register_collects
  refine hregister.bind fun added => ?_
  cases added with
  | some a => exact ⟨fs, fun _ => True, hm a, fun _ => ⟨rfl, fun _ => id⟩⟩
  | none => exact ⟨[], fun _ => True, hnone ▸ .pure trivial, nofun⟩

/-! ### Declarations -/

/-- Structs have no bodies, -/
theorem declareStructs_collects (ds : List StructDef) (seen : List String) :
    Collects [] (fun _ => True) (declareStructs file seen ds) := by
  induction ds generalizing seen with
  | nil => exact .pure trivial
  | cons d ds ih =>
    unfold declareStructs
    dsimp only
    split
    · have hreport : Collects [] (fun _ => True)
          (reportAt file (.repeatedName d.path.text) d.loc) := reportAt_collects _ _ _
      exact hreport.quiet fun _ => ih _
    · exact ih _

/-- and neither have the types that they dereference to. -/
theorem declareTarget_collects (d : StructDef) :
    Collects [] (fun _ => True) (declareTarget scope d) := by
  unfold declareTarget
  split
  · exact .pure trivial
  · exact (declareType_collects _).quiet fun _ => .modify fun _ => ⟨rfl, rfl⟩

/-- The body of a trait's method. -/
theorem declareTraitMethod_collects (traitPath : String) (f : FunctionDef) :
    Collects [f] (fun _ => True) (declareTraitMethod scope traitPath f) :=
  (functionType_collects f).quiet fun (type, _) =>
    registered_collects (fun _ => addBody_collects f type scope.selfType) rfl

/-- The bodies of a trait: none is left out without a report. -/
theorem declareTrait_collects (d : TraitDef) :
    Collects d.methods (fun _ => True) (declareTrait scope d) := by
  refine registered_collects (fun _ => ?_) rfl
  exact forM_collects (declareTraitMethod_collects d.path.text) d.methods

/-- The body of a function in an impl of no trait. -/
theorem declareInherent_collects (target : Ty) (f : FunctionDef) :
    Collects [f] (fun _ => True) (declareInherent scope target f) :=
  (functionType_collects f).quiet fun (type, _) =>
    registered_collects (fun _ => addBody_collects f type scope.selfType) rfl

/-- The body of an item in an impl of a trait. -/
theorem declareTraitItem_collects (traitPath : String) (f : FunctionDef) :
    Collects [f] (fun _ => True) (declareTraitItem scope traitPath f) := by
  refine Collects.get.quiet fun s => ?_
  dsimp only
  split
  · exact reportAt_collects _ _ _
  · split
    · exact (functionType_collects f).quiet fun (type, _) => addBody_collects f type _
    -- its head is not looked at, but it has no body either
    · next hbody =>
      refine (Collects.pure trivial).congr ?_
      rw [withBodies, withBodies, List.filterMap_cons, Option.not_isSome_iff_eq_none.mp hbody]
      rfl

/-- An impl is passed over when its target is unknown, and then that has been reported. -/
theorem declareImpl_collects (hs : scope.selfType = none) (d : ImplDef) :
    Collects d.methods (fun _ => True) (declareImpl scope d) := by
  refine (declareType_collects d.target).bind fun target => ?_
  by_cases hk : target.kind = .unknown
  · refine ⟨[], fun _ => True, ?_, fun htarget => ?_⟩
    · rw [if_pos hk]
      exact .pure trivial
    · -- a written type that is not reported has a known meaning
      have hknown := resolveType_known (fun t ht => nomatch hs ▸ ht) d.target (congrArg Prod.snd htarget)
      rw [htarget] at hknown
      exact absurd hk hknown
  · refine ⟨d.methods, fun _ => True, ?_, fun _ => ⟨rfl, fun _ => id⟩⟩
    rw [if_neg hk]
    dsimp only
    split
    · refine Collects.get.quiet fun s => ?_
      dsimp only
      -- a trait that is not known is reported; the impl of one that is may be refused
      split
      · exact reportAt_collects _ _ _
      · next path _ =>
        refine registered_collects (fun _ => ?_) rfl
        exact forM_collects (declareTraitItem_collects path) d.methods
    · exact forM_collects (declareInherent_collects target) d.methods

/-- The body of a function on its own. -/
theorem declareFunction_collects (f : FunctionDef) :
    Collects [f] (fun _ => True) (declareFunction scope f) :=
  (functionType_collects f).quiet fun (type, _) =>
    registered_collects (fun _ => addBody_collects f type none) rfl

/-- **Declaring a program** collects all bodies that it has, or reports something. -/
theorem declare_collects (p : Program) :
    Collects (allFunctions p) (fun _ => True) (declare file p) := by
  have htargets : Collects (p.structs.flatMap fun _ => []) (fun _ => True)
      (p.structs.forM (declareTarget ⟨structNames p, file, none⟩)) :=
    .forM fun d _ => declareTarget_collects d
  -- no target adds a body
  rw [List.flatMap_eq_nil_iff.mpr fun _ _ => rfl] at htargets
  have htraits : Collects (p.traits.flatMap (·.methods)) (fun _ => True)
      (p.traits.forM (declareTrait ⟨structNames p, file, none⟩)) :=
    .forM fun d _ => declareTrait_collects d
  have himpls : Collects (p.impls.flatMap (·.methods)) (fun _ => True)
      (p.impls.forM (declareImpl ⟨structNames p, file, none⟩)) :=
    .forM fun d _ => declareImpl_collects rfl d
  have hfunctions : Collects p.functions (fun _ => True)
      (p.functions.forM (declareFunction ⟨structNames p, file, none⟩)) :=
    forM_collects declareFunction_collects p.functions
  rw [allFunctions, List.append_assoc]
  exact (declareStructs_collects p.structs []).quiet fun _ => htargets.quiet fun _ =>
    htraits.andThen fun _ => himpls.andThen fun _ => hfunctions

/-! ### Bodies -/

/-- Bodies are lowered and numbered as all functions of a program are. -/
theorem checkBodies_functions {names : StructNames} {d : Declared} {next : NodeId}
    {bodies : List Body} {s s' : State} {functions : List Core.Function}
    (hfs : bodies.map (fun b => (b.function, b.stmts)) = withBodies fs)
    (h : Gives (checkBodies file names d next bodies) s functions s') :
    functions = (lowerFunctions file next fs).filterMap Except.toOption := by
  induction fs generalizing next bodies s s' functions with
  | nil =>
    obtain rfl := List.map_eq_nil_iff.mp hfs
    exact (gives_pure.mp h).1.symm
  | cons f fs ih =>
    rw [withBodies, List.filterMap_cons] at hfs
    rw [lowerFunctions]
    cases hbody : f.body with
    | none =>
      rw [hbody] at hfs
      -- a function without a body takes no identities
      exact ih hfs h
    | some stmts =>
      rw [hbody] at hfs
      obtain ⟨b, rest, rfl, hb, hrest⟩ := List.map_eq_cons_iff.mp hfs
      obtain ⟨rfl, rfl⟩ := Prod.mk.inj hb
      rw [checkBodies] at h
      obtain ⟨_, s₁, -, h⟩ := gives_bind.mp h
      obtain ⟨others, s₂, hothers, h⟩ := gives_bind.mp h
      obtain ⟨rfl, -⟩ := gives_pure.mp h
      -- the first function is the one just lowered, and the others go on from the next identity
      exact congrArg _ (ih hrest hothers)

/-- Checking bodies only adds to what is recorded. -/
theorem checkBodies_extends {names : StructNames} {d : Declared} {next : NodeId}
    {bodies : List Body} {s s' : State} {functions : List Core.Function}
    (h : Gives (checkBodies file names d next bodies) s functions s') :
    Extends (fun _ => True) (fun _ => True) s s' := by
  induction bodies generalizing next s s' functions with
  | nil => exact (gives_pure.mp h).2 ▸ .refl s
  | cons b bodies ih =>
    rw [checkBodies] at h
    obtain ⟨_, s₁, hbody, h⟩ := gives_bind.mp h
    obtain ⟨others, hothers, -⟩ := gives_bind_pure.mp h
    exact ((checkBody_confined _ _ fun _ _ => ⟨trivial, trivial⟩).grows hbody).trans (ih hothers)

/-- Declarations without diagnostics give all bodies of the program. -/
theorem declare_written {p : Program} {declared : Declared}
    (h : Gives (declare file p) {} () declared) (hclean : declared.diagnostics = []) :
    declared.written = withBodies (allFunctions p) := by
  obtain ⟨ds, hds, -, hcollected⟩ := (declare_collects p).collects h
  exact (hcollected (by simpa [hds] using hclean)).2

/-- Whatever the check of a program reports is an error of its phase. -/
theorem check_ofChecking {p : Program} {checked : Checked} (h : check file p = .ok checked) :
    ∀ d ∈ checked.diagnostics, d.OfChecking := by
  obtain ⟨declared, final, hdeclare, hbodies, he⟩ := check_eq_ok h
  obtain ⟨ds, hds, herrors, -⟩ := (declare_collects p).collects hdeclare
  have hfinal : final.diagnostics = checked.diagnostics := by rw [he]
  intro d hd
  rcases (checkBodies_extends hbodies).errors d (hfinal ▸ hd) with hd | hd
  · exact herrors d (by simpa [hds] using hd)
  · exact hd

/-- What a program without errors comes from: neither its declarations nor its bodies give any
diagnostics. -/
theorem check_silent {p : Program} {checked : Checked} (h : check file p = .ok checked)
    (hclean : hasErrors checked.diagnostics = false) :
    ∃ declared final, Gives (declare file p) {} () declared ∧ declared.diagnostics = [] ∧
      Gives (checkBodies file (structNames p) declared 1 declared.bodies)
        { diagnostics := declared.diagnostics } checked.functions final ∧
      final.diagnostics = [] ∧
      checked = ⟨checked.functions, final.tables, declared.registry, final.diagnostics,
        if p.source.isEmpty then none else some p.source⟩ := by
  obtain ⟨declared, final, hdeclare, hbodies, he⟩ := check_eq_ok h
  have hnil : checked.diagnostics = [] := by
    -- any diagnostic of a check would be an error
    refine List.eq_nil_iff_forall_not_mem.mpr fun d hd => ?_
    exact List.any_eq_false.mp hclean d hd (check_ofChecking h d hd).isError
  have hsilent : final.diagnostics = [] := by
    rw [← hnil, he]
  exact ⟨declared, final, hdeclare, (checkBodies_extends hbodies).clean hsilent, hbodies, hsilent, he⟩

/-- **A program without errors** has no diagnostics at all, and the bodies that are checked are all
those it has, each once: those of traits, then of impls, then of functions. -/
theorem check_once {p : Program} {checked : Checked} (h : check file p = .ok checked)
    (hclean : hasErrors checked.diagnostics = false) :
    checked.diagnostics = [] ∧ ∃ declared final, Gives (declare file p) {} () declared ∧
      declared.written = withBodies (allFunctions p) ∧
      Gives (checkBodies file (structNames p) declared 1 declared.bodies)
        { diagnostics := declared.diagnostics } checked.functions final := by
  obtain ⟨declared, final, hdeclare, hdeclared, hbodies, hsilent, he⟩ := check_silent h hclean
  exact ⟨by rw [he, hsilent], declared, final, hdeclare, declare_written hdeclare hdeclared, hbodies⟩

/-- What is checked are all bodies of the program as lowering gives them. -/
theorem check_clean {p : Program} {checked : Checked} (h : check file p = .ok checked)
    (hclean : hasErrors checked.diagnostics = false) :
    checked.diagnostics = [] ∧
      checked.functions = (lowerFunctions file 1 (allFunctions p)).filterMap Except.toOption := by
  obtain ⟨hnil, declared, final, -, hwritten, hbodies⟩ := check_once h hclean
  exact ⟨hnil, checkBodies_functions hwritten hbodies⟩

end ClosureLint.Typing
