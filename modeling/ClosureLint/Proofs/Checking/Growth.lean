import ClosureLint.Proofs.Checking.Reports
import ClosureLint.Proofs.Checking.Steps
import ClosureLint.Proofs.Core.Walking

/-!
# What checking leaves alone

Checking only ever adds: it reports behind the diagnostics that are there, and files results under
the nodes of what it checks. So whatever was found out about other nodes stays as it is.

* `Tables.Agree` — two results say the same about some nodes.
* `Extends` — one state comes from another by adding.
* `Confined` — every success of a step extends the state, within given nodes.
* `checkExpr_confined`, `checkStmt_confined`, `checkBody_confined` — the checker, within the nodes
  of what is checked.
-/

namespace ClosureLint

open ClosureLint.Core (NodeId)

/-- Two results say the same: about type and meaning for the nodes in `filed`, about adjustment for
the nodes in `marked`. -/
structure Tables.Agree (filed marked : NodeId → Prop) (t t' : Tables) : Prop where
  types : ∀ i, filed i → t'.types.lookup i = t.types.lookup i
  methods : ∀ i, filed i → t'.methods.lookup i = t.methods.lookup i
  paths : ∀ i, filed i → t'.paths.lookup i = t.paths.lookup i
  adjusted : ∀ i, marked i → (i ∈ t'.adjusted ↔ i ∈ t.adjusted)

namespace Tables.Agree

variable {filed marked : NodeId → Prop} {t t' t'' : Tables}

/-- Results agree with themselves. -/
theorem refl (t : Tables) : Agree filed marked t t :=
  ⟨fun _ _ => rfl, fun _ _ => rfl, fun _ _ => rfl, fun _ _ => Iff.rfl⟩

/-- Results that agree one after the other agree in all. -/
theorem trans (h : Agree filed marked t t') (h' : Agree filed marked t' t'') :
    Agree filed marked t t'' where
  types := fun i hi => (h'.types i hi).trans (h.types i hi)
  methods := fun i hi => (h'.methods i hi).trans (h.methods i hi)
  paths := fun i hi => (h'.paths i hi).trans (h.paths i hi)
  adjusted := fun i hi => (h'.adjusted i hi).trans (h.adjusted i hi)

/-- Results that agree about some nodes agree about fewer. -/
theorem mono {filed' marked' : NodeId → Prop} (h : Agree filed marked t t')
    (hf : ∀ i, filed' i → filed i) (hm : ∀ i, marked' i → marked i) :
    Agree filed' marked' t t' where
  types := fun i hi => h.types i (hf i hi)
  methods := fun i hi => h.methods i (hf i hi)
  paths := fun i hi => h.paths i (hf i hi)
  adjusted := fun i hi => h.adjusted i (hm i hi)

end Tables.Agree

namespace Typing

open ClosureLint.Core
open ClosureLint.Syntax (Path TypeExpr)

variable {c : Context} {s s' s'' : State} {I J : NodeId → Prop} {α β : Type}

/-- `s'` comes from `s` by adding diagnostics, which are errors, results for nodes in `I`, and
adjustments of nodes in `J`. -/
structure Extends (I J : NodeId → Prop) (s s' : State) : Prop where
  diagnostics : s.diagnostics <+: s'.diagnostics
  errors : ∀ d ∈ s'.diagnostics, d ∈ s.diagnostics ∨ d.OfChecking
  tables : Tables.Agree (¬ I ·) (¬ J ·) s.tables s'.tables

/-- A state extends itself. -/
theorem Extends.refl (s : State) : Extends I J s s :=
  ⟨List.prefix_refl _, fun _ => .inl, .refl _⟩

/-- Scopes are no results: a state with others extends it. -/
theorem Extends.rescope (s : State) (scopes : List Scope) :
    Extends I J s { s with scopes := scopes } :=
  ⟨List.prefix_refl _, fun _ => .inl, .refl _⟩

/-- Errors are put behind the diagnostics. -/
theorem Extends.reported (s : State) {ds : List Diagnostic} (h : ∀ d ∈ ds, d.OfChecking) :
    Extends I J s { s with diagnostics := s.diagnostics ++ ds } :=
  ⟨List.prefix_append _ _, fun d hd => (List.mem_append.mp hd).imp_right (h d), .refl s.tables⟩

/-- What is added twice is added. -/
theorem Extends.trans (h : Extends I J s s') (h' : Extends I J s' s'') : Extends I J s s'' :=
  ⟨h.diagnostics.trans h'.diagnostics,
    fun d hd => (h'.errors d hd).elim (h.errors d) .inr, h.tables.trans h'.tables⟩

/-- What is added within some nodes is added within more. -/
theorem Extends.mono {I' J' : NodeId → Prop} (h : Extends I J s s') (hI : ∀ i, I i → I' i)
    (hJ : ∀ i, J i → J' i) : Extends I' J' s s' :=
  ⟨h.diagnostics, h.errors, h.tables.mono (fun i hi h => hi (hI i h)) (fun i hi h => hi (hJ i h))⟩

/-- Nothing was reported on the way to a state without diagnostics. -/
theorem Extends.clean (h : Extends I J s s') (hs : s'.diagnostics = []) : s.diagnostics = [] :=
  List.prefix_nil.mp (hs ▸ h.diagnostics)

/-- Every success of `m` files results for nodes in `I` only, adjusts nodes in `J` only, and keeps
the diagnostics that are there. -/
structure Confined (I J : NodeId → Prop) (m : Check α) : Prop where
  grows : ∀ {s a s'}, Gives m s a s' → Extends I J s s'

namespace Confined

/-- A step that only answers adds nothing. -/
theorem pure (a : α) : Confined I J (pure a : Check α) where
  grows h := by
    obtain ⟨-, rfl⟩ := gives_pure.mp h
    exact .refl _

/-- Two steps within given nodes, one after the other, stay within them. -/
theorem bind {m : Check α} {f : α → Check β} (hm : Confined I J m)
    (hf : ∀ a, Confined I J (f a)) : Confined I J (m >>= f) where
  grows h := by
    obtain ⟨a, s', h, h'⟩ := gives_bind.mp h
    exact (hm.grows h).trans ((hf a).grows h')

/-- A step that does not look at the state adds nothing. -/
theorem lift (x : Except Fault α) : Confined I J (liftM x : Check α) where
  grows h := by
    obtain ⟨-, rfl⟩ := gives_lift.mp h
    exact .refl _

/-- A step that fails leaves no state behind. -/
theorem throw (f : Fault) : Confined I J (throw f : Check α) where
  grows h := absurd h not_gives_throw

/-- Looking at the state adds nothing. -/
theorem get : Confined I J (get : Check State) where
  grows h := by
    obtain ⟨-, rfl⟩ := gives_get.mp h
    exact .refl _

/-- A change stays within given nodes if every state it makes extends the one before. -/
theorem modify {f : State → State} (hf : ∀ s, Extends I J s (f s)) :
    Confined I J (modify f : Check Unit) where
  grows h := by
    rw [← gives_modify.mp h]
    exact hf _

/-- A change of scopes alone. -/
theorem rescope {f : List Scope → List Scope} :
    Confined I J (MonadStateOf.modifyGet fun s : State => ((), { s with scopes := f s.scopes })) :=
  modify fun s => .rescope s _

/-- Steps for each element stay within given nodes together. -/
theorem forM {f : α → Check Unit} {l : List α} (h : ∀ a ∈ l, Confined I J (f a)) :
    Confined I J (l.forM f) := by
  induction l with
  | nil => exact pure ()
  | cons a l ih =>
    exact (h a List.mem_cons_self).bind fun _ => ih fun b hb => h b (List.mem_cons_of_mem a hb)

/-- Steps that answer for each element stay within given nodes together. -/
theorem mapM {f : α → Check β} {l : List α} (h : ∀ a ∈ l, Confined I J (f a)) :
    Confined I J (l.mapM f) := by
  induction l with
  | nil => rw [List.mapM_nil]; exact pure []
  | cons a l ih =>
    rw [List.mapM_cons]
    exact (h a List.mem_cons_self).bind fun _ =>
      (ih fun b hb => h b (List.mem_cons_of_mem a hb)).bind fun _ => pure _

/-- So does a step in a scope of its own: the scopes around it are no results. -/
theorem inScope {m : Check α} (h : Confined I J m) : Confined I J (inScope m) :=
  rescope.bind fun _ => h.bind fun _ => rescope.bind fun _ => pure _

end Confined

/-! ### Basic steps -/

section Steps

/-- An entry for another node does not change what is found for this one. -/
private theorem lookup_cons_ne {δ : Type} {i k : NodeId} {v : δ} {l : Table δ} (h : i ≠ k) :
    List.lookup i ((k, v) :: l) = List.lookup i l := by
  rw [List.lookup_cons, beq_false_of_ne h]

/-- Reporting adds behind the diagnostics that are there. -/
theorem report_confined (p : Problem) (span : Span) : Confined I J (report p span) :=
  .modify fun s => .reported s (List.forall_mem_singleton.mpr (ofChecking_diagnostic p span))

/-- Resolving a written type reports at most. -/
theorem resolve_confined (t : TypeExpr) : Confined I J (resolve c t) := by
  refine Confined.bind (.modify fun s => ?_) fun _ => .pure _
  exact .reported s (resolveType_errors c.scope t)

/-- A type is filed under its node. -/
theorem setType_confined {id : NodeId} (h : I id) (t : Ty) : Confined I J (setType id t) :=
  .modify fun _ => ⟨List.prefix_refl _, fun _ => .inl,
    fun _ hi => lookup_cons_ne fun e => hi (e ▸ h), fun _ _ => rfl, fun _ _ => rfl, fun _ _ => Iff.rfl⟩

/-- A resolved method is filed under its node. -/
theorem setMethod_confined {id : NodeId} (h : I id) (r : Resolution) :
    Confined I J (setMethod id r) :=
  .modify fun _ => ⟨List.prefix_refl _, fun _ => .inl,
    fun _ _ => rfl, fun _ hi => lookup_cons_ne fun e => hi (e ▸ h), fun _ _ => rfl, fun _ _ => Iff.rfl⟩

/-- A resolved path is filed under its node. -/
theorem setPath_confined {id : NodeId} (h : I id) (d : Decl) : Confined I J (setPath id d) :=
  .modify fun _ => ⟨List.prefix_refl _, fun _ => .inl,
    fun _ _ => rfl, fun _ _ => rfl, fun _ hi => lookup_cons_ne fun e => hi (e ▸ h), fun _ _ => Iff.rfl⟩

/-- An adjustment is filed under the node that is adjusted. -/
theorem setAdjusted_confined {id : NodeId} (h : J id) : Confined I J (setAdjusted id) :=
  .modify fun _ => ⟨List.prefix_refl _, fun _ => .inl, fun _ _ => rfl, fun _ _ => rfl, fun _ _ => rfl,
    fun _ hi => List.mem_cons.trans (or_iff_right fun e => hi (e ▸ h))⟩

/-- Binding a name only changes scopes. -/
theorem bindName_confined (name : String) (type : Option Ty) :
    Confined I J (bindName name type) := .rescope

/-- Filing what a step answers stays within the nodes of the step and its own. -/
theorem filed_confined {id : NodeId} {m : Check Ty} (h : I id) (hm : Confined I J m) :
    Confined I J (filed id m) :=
  hm.bind fun _ => (setType_confined h _).bind fun _ => .pure _

/-- A pattern that wants a tuple reports at most. -/
theorem reportNotTuple_confined (type : Option Ty) (span : Span) :
    Confined I J (reportNotTuple type span) := by
  unfold reportNotTuple
  split
  · split
    · exact .pure ()
    · exact (Confined.lift _).bind fun _ => report_confined _ _
  · exact .pure ()

mutual

/-- Binding a pattern files nothing. -/
theorem bindPattern_confined : (p : Pattern) → (type : Option Ty) →
    Confined I J (bindPattern p type)
  | .binding _ _ name, type => bindName_confined name type
  | .tuple node elems, type => by
    rw [bindPattern]
    split
    · exact bindPatterns_confined elems _
    · exact (reportNotTuple_confined _ _).bind fun _ => bindPatterns_confined elems _
  | .ref _ inner, type => (Confined.lift _).bind fun _ => bindPattern_confined inner _
  | .wildcard _, _ => .pure ()

/-- Nor does binding the parts of one. -/
theorem bindPatterns_confined : (ps : List Pattern) → (types : List Ty) →
    Confined I J (bindPatterns ps types)
  | [], _ => .pure ()
  | p :: ps, [] => (bindPattern_confined p _).bind fun _ => bindPatterns_confined ps []
  | p :: ps, _ :: ts => (bindPattern_confined p _).bind fun _ => bindPatterns_confined ps ts

end

/-- A coercion adjusts the coerced node at most. -/
theorem coerce_confined {e : Expr} (h : J e.id) (actual expected : Ty) :
    Confined I J (coerce c e actual expected) := by
  refine (Confined.lift _).bind fun fits => ?_
  cases fits with
  | exact => exact .pure ()
  | adjusted => exact setAdjusted_confined h
  | mismatch =>
    exact (Confined.lift _).bind fun _ => (Confined.lift _).bind fun _ => report_confined _ _

/-- So does a coercion to a type that is only sometimes expected. -/
theorem coerceTo_confined {e : Expr} (h : J e.id) (actual : Ty) (expected : Option Ty) :
    Confined I J (coerceTo c e actual expected) := by
  cases expected with
  | none => exact .pure ()
  | some _ => exact coerce_confined h actual _

/-- Looking a path with an owner up files its declaration under the path. -/
theorem checkAssociated_confined {node : Node} (h : I node.id) (segments : Path) :
    Confined I J (checkAssociated c node segments) := by
  unfold checkAssociated
  dsimp only
  -- which owner and which trait were found does not matter
  generalize ownerType? c segments.dropLast = owner
  generalize (if owner.isSome then none else c.registry.findTrait? segments.dropLast) = traitPath
  split
  · exact (report_confined _ _).bind fun _ => .pure _
  · split
    · exact (setPath_confined h _).bind fun _ => .pure _
    · exact (report_confined _ _).bind fun _ => .pure _
    · exact .throw _

/-- So does looking up any path that is no local. -/
theorem checkGlobal_confined {node : Node} (h : I node.id) (segments : Path) :
    Confined I J (checkGlobal c node segments) := by
  unfold checkGlobal
  split
  · exact (setPath_confined h _).bind fun _ => .pure _
  · split
    · exact (report_confined _ _).bind fun _ => .pure _
    · exact checkAssociated_confined h segments

/-- Deciding the type of a local changes scopes, and reports at most. -/
theorem decideType_confined (node : Node) (name : String) (expected : Option Ty) :
    Confined I J (decideType node name expected) := by
  unfold decideType
  split
  · exact Confined.rescope.bind fun _ => .pure _
  · exact (report_confined _ _).bind fun _ => Confined.rescope.bind fun _ => .pure _

/-- Checking a path files under the path. -/
theorem checkPath_confined {node : Node} (h : I node.id) (segments : Path)
    (expected : Option Ty) : Confined I J (checkPath c node segments expected) := by
  unfold checkPath
  split
  · refine Confined.get.bind fun s => ?_
    split
    · exact .pure _
    · exact decideType_confined _ _ _
    · exact checkGlobal_confined h _
  · exact checkGlobal_confined h _

/-- Following a type reports at most. -/
theorem derefType_confined (node : Node) (type : Ty) : Confined I J (derefType c node type) := by
  refine (Confined.lift _).bind fun target => ?_
  split
  · exact .pure _
  · split
    · exact (Confined.lift _).bind fun _ => (report_confined _ _).bind fun _ => .pure _
    · exact .pure _

/-- Comparing the number of arguments reports at most. -/
theorem expectedArgs_confined (callable : String) (node : Node) (given : Nat)
    (params : List Ty) : Confined I J (expectedArgs callable node given params) := by
  unfold expectedArgs
  split
  · exact .pure _
  · exact (report_confined _ _).bind fun _ => .pure _

/-- Asking for a written type reports at most. -/
theorem writtenOr_confined (written : Option TypeExpr) (otherwise : Option Ty) :
    Confined I J (writtenOr c written otherwise) := by
  cases written with
  | none => exact .pure _
  | some _ => exact (resolve_confined _).bind fun _ => .pure _

/-- Binding the parameters of a closure files nothing. -/
theorem bindParams_confined (ps : List Param) (expected : List (Option Ty)) :
    Confined I J (bindParams c ps expected) := by
  induction ps generalizing expected with
  | nil => exact .pure ()
  | cons p ps ih =>
    rw [bindParams_cons]
    exact (writtenOr_confined _ _).bind fun _ => (bindPattern_confined _ _).bind fun _ => ih _

/-- Asking for their types files nothing. -/
theorem paramType_confined (p : Param) : Confined I J (paramType c p) := by
  refine Confined.get.bind fun s => ?_
  split
  · exact .pure _
  · exact resolve_confined _
  · exact .pure _

end Steps

/-! ### Expressions -/

/-- Once the callee has a type, a call stays within the nodes of its arguments. -/
theorem callRest_confined {node : Node} {callee : Expr} {args : List Expr} {type : Ty}
    (h : ∀ expected, Confined I J (checkArgs c args expected)) :
    Confined I J (callRest c node callee args type) := by
  unfold callRest
  split
  · exact (Confined.lift _).bind fun _ => (Confined.lift _).bind fun _ =>
      (expectedArgs_confined _ _ _ _).bind fun _ => (h _).bind fun _ => .pure _
  · split
    · exact (Confined.lift _).bind fun _ => (report_confined _ _).bind fun _ =>
        (h _).bind fun _ => .pure _
    · exact (h _).bind fun _ => .pure _

/-- A method call whose method is found files the method, and adjusts its receiver at most. -/
theorem resolvedRest_confined {node : Node} {receiver : Expr} {args : List Expr}
    {r : Resolution} (hI : I node.id) (hJ : J receiver.id)
    (h : ∀ expected, Confined I J (checkArgs c args expected)) :
    Confined I J (resolvedRest c node receiver args r) := by
  -- with an adjusted receiver or not, the arguments are checked in the same way
  have hargs : Confined I J (do
      let params ← (r.decl.type.substSelf r.step).fnParams
      let ret ← (r.decl.type.substSelf r.step).fnRet
      checkArgs c args (← expectedArgs "method" node args.length (params.drop 1))
      return ret) :=
    (Confined.lift _).bind fun _ => (Confined.lift _).bind fun _ =>
      (expectedArgs_confined _ _ _ _).bind fun _ => (h _).bind fun _ => .pure _
  refine (setMethod_confined hI r).bind fun _ => ?_
  dsimp only
  split
  · exact (setAdjusted_confined hJ).bind fun _ => hargs
  · exact hargs

/-- Once the receiver has a type, so does any method call. -/
theorem methodRest_confined {node : Node} {receiver : Expr} {method : String}
    {args : List Expr} {type : Ty} (hI : I node.id) (hJ : J receiver.id)
    (h : ∀ expected, Confined I J (checkArgs c args expected)) :
    Confined I J (methodRest c node receiver method args type) := by
  unfold methodRest
  split
  · exact (h _).bind fun _ => .pure _
  · split
    · exact .throw _
    · exact (report_confined _ _).bind fun _ => (h _).bind fun _ => .pure _
    · exact resolvedRest_confined hI hJ h

/-- Inside a closure, only its body is filed or adjusted. -/
theorem closureInside_confined {params : List Param} {ret : Option TypeExpr} {body : Expr}
    {signature : Option (List Ty × Ty)} (hJ : J body.id)
    (h : ∀ expected, Confined I J (checkExpr c body expected)) :
    Confined I J (closureInside c params ret body signature) :=
  (bindParams_confined _ _).bind fun _ => (writtenOr_confined _ _).bind fun _ =>
    (h _).bind fun _ => (coerceTo_confined hJ _ _).bind fun _ =>
      (Confined.mapM fun p _ => paramType_confined p).bind fun _ => .pure _

mutual

/-- **Checking an expression** files results for its nodes, and adjusts none but those inside. -/
theorem checkExpr_confined : (e : Expr) → (expected : Option Ty) → I e.id →
    (∀ x ∈ e.inside, I x.id ∧ J x.id) → Confined I J (checkExpr c e expected)
  | .path node segments, expected, hid, _ => filed_confined hid (checkPath_confined hid _ _)
  | .int .., _, hid, _ | .str .., _, hid, _ => filed_confined hid (.pure _)
  -- by induction on the expression: what a part files lies among the nodes inside, and the rest is
  -- filed here
  | .borrow node isMut subject, expected, hid, h => by
    obtain ⟨hs, hin⟩ := Expr.forall_walk.mp h
    rw [checkExpr_borrow]
    exact filed_confined hid <| (Confined.lift _).bind fun _ =>
      (checkExpr_confined subject _ hs.1 hin).bind fun _ => .pure _
  | .deref node subject, expected, hid, h => by
    obtain ⟨hs, hin⟩ := Expr.forall_walk.mp h
    rw [checkExpr_deref]
    exact filed_confined hid <| (checkExpr_confined subject _ hs.1 hin).bind fun _ =>
      derefType_confined _ _
  | .field node subject name, expected, hid, h => by
    obtain ⟨hs, hin⟩ := Expr.forall_walk.mp h
    rw [checkExpr_field]
    exact filed_confined hid <| (checkExpr_confined subject _ hs.1 hin).bind fun _ => .pure _
  | .call node callee args, expected, hid, h => by
    obtain ⟨hcallee, hargs⟩ := List.forall_mem_append.mp h
    obtain ⟨hs, hin⟩ := Expr.forall_walk.mp hcallee
    rw [checkExpr_call]
    exact filed_confined hid <| (checkExpr_confined callee _ hs.1 hin).bind fun _ =>
      callRest_confined fun expected => checkArgs_confined args expected hargs
  -- the receiver is the one part that may be adjusted by the call itself
  | .methodCall node receiver method args, expected, hid, h => by
    obtain ⟨hreceiver, hargs⟩ := List.forall_mem_append.mp h
    obtain ⟨hs, hin⟩ := Expr.forall_walk.mp hreceiver
    rw [checkExpr_methodCall]
    exact filed_confined hid <| (checkExpr_confined receiver _ hs.1 hin).bind fun _ =>
      methodRest_confined hid hs.2 fun expected => checkArgs_confined args expected hargs
  | .closure node params ret body, expected, hid, h => by
    obtain ⟨hs, hin⟩ := Expr.forall_walk.mp h
    rw [checkExpr_closure]
    exact filed_confined hid <| (Confined.lift _).bind fun _ => .inScope <|
      closureInside_confined hs.2 fun expected => checkExpr_confined body expected hs.1 hin

/-- Checking arguments files results for their nodes, and adjusts none but these. -/
theorem checkArgs_confined : (es : List Expr) → (expected : List (Option Ty)) →
    (∀ x ∈ Expr.walkAll es, I x.id ∧ J x.id) → Confined I J (checkArgs c es expected)
  | [], _, _ => .pure ()
  | e :: es, expected, h => by
    obtain ⟨he, hes⟩ := List.forall_mem_append.mp h
    obtain ⟨hs, hin⟩ := Expr.forall_walk.mp he
    rw [checkArgs_cons]
    exact (checkExpr_confined e _ hs.1 hin).bind fun _ =>
      (coerceTo_confined hs.2 _ _).bind fun _ => checkArgs_confined es _ hes

end

/-! ### Statements and bodies -/

/-- Checking a statement stays within the nodes of its expression. -/
theorem checkStmt_confined (st : Stmt) (h : ∀ x ∈ st.expr.walk, I x.id ∧ J x.id) :
    Confined I J (checkStmt c st) := by
  obtain ⟨hs, hin⟩ := Expr.forall_walk.mp h
  cases st with
  | letStmt node pattern declared value =>
    rw [checkStmt_letStmt]
    exact (writtenOr_confined _ _).bind fun _ =>
      (checkExpr_confined value _ hs.1 hin).bind fun _ =>
        (coerceTo_confined hs.2 _ _).bind fun _ => bindPattern_confined _ _
  | exprStmt node e => exact (checkExpr_confined e _ hs.1 hin).bind fun _ => .pure _

/-- Checking a body files results for its nodes, and adjusts none but these. -/
theorem checkBody_confined (f : Function) (type : Ty) (h : ∀ x ∈ f.walk, I x.id ∧ J x.id) :
    Confined I J (checkBody c f type) :=
  (Confined.lift _).bind fun _ => .inScope <|
    (Confined.forM fun _ _ => bindPattern_confined _ _).bind fun _ =>
      .forM fun st hst => checkStmt_confined st fun x hx =>
        h x (List.mem_flatMap.mpr ⟨st, hst, hx⟩)

end Typing

end ClosureLint
