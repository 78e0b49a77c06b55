import Mathlib.Data.List.Perm.Basic
import ClosureLint.Proofs.Checking.Closures

/-!
# What a check files

Every expression of a checked body is given a type once, whatever the check of its surroundings
runs into: an unknown callee, a wrong number of arguments, a method that is not found. The meaning of
a method call is filed under a method call, and that of a path under a path.

* `Quiet` — a step that files nothing.
* `Covers` — a step gives a type to each of some expressions, once, and to nothing else.
* `checkExpr_covers`, `checkBody_covers`, `checkBodies_covers` — the checker covers what it checks.
-/

namespace ClosureLint

open ClosureLint.Core (NodeId Expr)

namespace Core.Expr

/-- Whether the expression is a method call. -/
def isMethodCall : Expr → Bool
  | .methodCall .. => true
  | _ => false

/-- Whether the expression is a path. -/
def isPath : Expr → Bool
  | .path .. => true
  | _ => false

end Core.Expr

namespace Typing

open ClosureLint.Core
open ClosureLint.Syntax (Path TypeExpr)

variable {c : Context} {s s' : State} {e : Expr} {X Y Y' : List Expr} {α β : Type}

/-! ### Steps that file nothing -/

/-- Every success of `m` leaves the results as they are. -/
structure Quiet (m : Check α) : Prop where
  tables : ∀ {s a s'}, Gives m s a s' → s'.tables = s.tables

namespace Quiet

/-- A step that only answers files nothing. -/
theorem pure (a : α) : Quiet (pure a : Check α) where
  tables h := by rw [(gives_pure.mp h).2]

/-- Two steps that file nothing file nothing together. -/
theorem bind {m : Check α} {f : α → Check β} (hm : Quiet m) (hf : ∀ a, Quiet (f a)) :
    Quiet (m >>= f) where
  tables h := by
    obtain ⟨a, s', h, h'⟩ := gives_bind.mp h
    rw [(hf a).tables h', hm.tables h]

/-- A step that does not look at the state files nothing. -/
theorem lift (x : Except Fault α) : Quiet (liftM x : Check α) where
  tables h := by rw [(gives_lift.mp h).2]

/-- Looking at the state files nothing. -/
theorem get : Quiet (get : Check State) where
  tables h := by rw [(gives_get.mp h).2]

/-- A change files nothing if it leaves the tables alone. -/
theorem modify {f : State → State} (hf : ∀ s, (f s).tables = s.tables) :
    Quiet (modify f : Check Unit) where
  tables h := by rw [← gives_modify.mp h, hf]

/-- Steps that file nothing for any element file nothing together. -/
theorem forM {f : α → Check Unit} (hf : ∀ a, Quiet (f a)) (l : List α) : Quiet (l.forM f) := by
  induction l with
  | nil => exact pure ()
  | cons a l ih => exact (hf a).bind fun _ => ih

/-- Steps that answer for each element and file nothing, file nothing together. -/
theorem mapM {f : α → Check β} (hf : ∀ a, Quiet (f a)) (l : List α) : Quiet (l.mapM f) := by
  induction l with
  | nil => rw [List.mapM_nil]; exact pure []
  | cons a l ih =>
    rw [List.mapM_cons]
    exact (hf a).bind fun _ => ih.bind fun _ => pure _

end Quiet

/-- Reporting files nothing. -/
theorem report_quiet (p : Problem) (span : Span) : Quiet (report p span) := .modify fun _ => rfl

/-- Resolving a written type files nothing. -/
theorem resolve_quiet (t : TypeExpr) : Quiet (resolve c t) :=
  Quiet.bind (.modify fun _ => rfl) fun _ => .pure _

/-- Binding a name files nothing. -/
theorem bindName_quiet (name : String) (type : Option Ty) : Quiet (bindName name type) :=
  .modify fun _ => rfl

/-- Nor does reporting a pattern that wants a tuple. -/
theorem reportNotTuple_quiet (type : Option Ty) (span : Span) : Quiet (reportNotTuple type span) := by
  unfold reportNotTuple
  split
  · split
    · exact .pure ()
    · exact (Quiet.lift _).bind fun _ => report_quiet _ _
  · exact .pure ()

mutual

/-- Binding a pattern files nothing. -/
theorem bindPattern_quiet : (p : Pattern) → (type : Option Ty) → Quiet (bindPattern p type)
  | .binding _ _ name, type => bindName_quiet name type
  | .tuple node elems, type => by
    rw [bindPattern]
    split
    · exact bindPatterns_quiet elems _
    · exact (reportNotTuple_quiet _ _).bind fun _ => bindPatterns_quiet elems _
  | .ref _ inner, type => (Quiet.lift _).bind fun _ => bindPattern_quiet inner _
  | .wildcard _, _ => .pure ()

/-- Nor does binding the parts of one. -/
theorem bindPatterns_quiet : (ps : List Pattern) → (types : List Ty) → Quiet (bindPatterns ps types)
  | [], _ => .pure ()
  | p :: ps, [] => (bindPattern_quiet p _).bind fun _ => bindPatterns_quiet ps []
  | p :: ps, _ :: ts => (bindPattern_quiet p _).bind fun _ => bindPatterns_quiet ps ts

end

/-- Following a type files nothing. -/
theorem derefType_quiet (node : Node) (type : Ty) : Quiet (derefType c node type) := by
  refine (Quiet.lift _).bind fun target => ?_
  split
  · exact .pure _
  · split
    · exact (Quiet.lift _).bind fun _ => (report_quiet _ _).bind fun _ => .pure _
    · exact .pure _

/-- Comparing the number of arguments files nothing. -/
theorem expectedArgs_quiet (callable : String) (node : Node) (given : Nat) (params : List Ty) :
    Quiet (expectedArgs callable node given params) := by
  unfold expectedArgs
  split
  · exact .pure _
  · exact (report_quiet _ _).bind fun _ => .pure _

/-- Asking for a written type files nothing. -/
theorem writtenOr_quiet (written : Option TypeExpr) (otherwise : Option Ty) :
    Quiet (writtenOr c written otherwise) := by
  cases written with
  | none => exact .pure _
  | some _ => exact (resolve_quiet _).bind fun _ => .pure _

/-- Binding the parameters of a closure files nothing. -/
theorem bindParams_quiet (ps : List Param) (expected : List (Option Ty)) :
    Quiet (bindParams c ps expected) := by
  induction ps generalizing expected with
  | nil => exact .pure ()
  | cons p ps ih =>
    rw [bindParams_cons]
    exact (writtenOr_quiet _ _).bind fun _ => (bindPattern_quiet _ _).bind fun _ => ih _

/-- Asking for their types files nothing. -/
theorem paramType_quiet (p : Param) : Quiet (paramType c p) := by
  refine Quiet.get.bind fun s => ?_
  split
  · exact .pure _
  · exact resolve_quiet _
  · exact .pure _

/-! ### Steps that give types -/

/-- From the results `t` to the results `t'` each of `Y` is given a type, once, and nothing else is.
What else is filed is filed for `X`: adjustments for any of them, meanings for its method calls and its
paths. -/
structure Covered (Y X : List Expr) (t t' : Tables) : Prop where
  types : (t'.types.map Prod.fst).Perm (Y.map Expr.id ++ t.types.map Prod.fst)
  adjusted : ∀ i ∈ t'.adjusted, i ∈ t.adjusted ∨ Among X i
  methods : ∀ m ∈ t'.methods, m ∈ t.methods ∨ Among (X.filter Expr.isMethodCall) m.1
  paths : ∀ p ∈ t'.paths, p ∈ t.paths ∨ Among (X.filter Expr.isPath) p.1

/-- Every success of `m` covers `Y`, within `X`. -/
structure Covers (Y X : List Expr) (m : Check α) : Prop where
  covers : ∀ {s a s'}, Gives m s a s' → Covered Y X s.tables s'.tables

/-- Nothing is covered by tables that did not change. -/
theorem Covered.refl (t : Tables) : Covered [] X t t := ⟨.refl _, fun _ => .inl, fun _ => .inl, fun _ => .inl⟩

/-- What is covered in two steps is covered by both together. -/
theorem Covered.trans {t t' t'' : Tables} (h : Covered Y X t t') (h' : Covered Y' X t' t'') :
    Covered (Y ++ Y') X t t'' where
  types := by
    rw [List.map_append, List.append_assoc]
    calc
      List.Perm _ _ := h'.types
      List.Perm _ _ := h.types.append_left _
      List.Perm _ _ := List.perm_append_comm_assoc _ _ _
  adjusted := fun i hi => (h'.adjusted i hi).elim (h.adjusted i) .inr
  methods := fun m hm => (h'.methods m hm).elim (h.methods m) .inr
  paths := fun p hp => (h'.paths p hp).elim (h.paths p) .inr

namespace Covers

/-- A step that files nothing covers nothing. -/
theorem of_quiet {m : Check α} (h : Quiet m) : Covers [] X m := ⟨fun hg => h.tables hg ▸ .refl _⟩

/-- A step that fails leaves no tables behind, so any list is covered. -/
theorem throw (f : Fault) : Covers Y X (throw f : Check α) := ⟨fun h => absurd h not_gives_throw⟩

/-- Two steps cover what the first and then what the second covers. -/
theorem bind {m : Check α} {f : α → Check β} (hm : Covers Y X m) (hf : ∀ a, Covers Y' X (f a)) :
    Covers (Y ++ Y') X (m >>= f) where
  covers h := by
    obtain ⟨a, s', h, h'⟩ := gives_bind.mp h
    exact (hm.covers h).trans ((hf a).covers h')

/-- A step that files nothing may come first. -/
theorem after {m : Check α} {f : α → Check β} (hm : Quiet m) (hf : ∀ a, Covers Y X (f a)) :
    Covers Y X (m >>= f) := (of_quiet hm).bind hf

/-- A step that gives no type may come behind. -/
theorem before {m : Check α} {f : α → Check β} (hm : Covers Y X m) (hf : ∀ a, Covers [] X (f a)) :
    Covers Y X (m >>= f) := Y.append_nil ▸ hm.bind hf

/-- What a step covers does not depend on what is done with its answer. -/
theorem andPure {m : Check α} {f : α → β} (hm : Covers Y X m) :
    Covers Y X (m >>= fun a => pure (f a)) := hm.before fun _ => of_quiet (.pure _)

/-- Scopes are no tables, so a step in a scope of its own covers the same. -/
theorem inScope {m : Check α} (h : Covers Y X m) : Covers Y X (inScope m) :=
  .after (.modify fun _ => rfl) fun _ => h.before fun _ => of_quiet <|
    Quiet.bind (.modify fun _ => rfl) fun _ => .pure _

/-- Steps for each element cover what each of them covers, in order. -/
theorem forM {f : α → Check Unit} {Z : α → List Expr} {l : List α} (h : ∀ a ∈ l, Covers (Z a) X (f a)) :
    Covers (l.flatMap Z) X (l.forM f) := by
  induction l with
  | nil => exact of_quiet (.pure ())
  | cons a l ih =>
    exact (h a List.mem_cons_self).bind fun _ => ih fun b hb => h b (List.mem_cons_of_mem a hb)

end Covers

/-- The answer of a step is filed as the type of a further expression. -/
theorem filed_covers {m : Check Ty} (h : Covers Y X m) : Covers (e :: Y) X (filed e.id m) where
  covers hg := by
    obtain ⟨s₁, hm, hset⟩ := gives_filed.mp hg
    obtain rfl := gives_modify.mp hset
    have hc := h.covers hm
    exact ⟨hc.types.cons e.id, hc.adjusted, hc.methods, hc.paths⟩

/-- An adjustment of a known expression gives no type. -/
theorem setAdjusted_covers (he : e ∈ X) : Covers [] X (setAdjusted e.id) where
  covers h := by
    obtain rfl := gives_modify.mp h
    refine ⟨.refl _, fun i hi => ?_, fun _ => .inl, fun _ => .inl⟩
    exact (List.mem_cons.mp hi).elim (fun hi => .inr ⟨e, he, hi.symm⟩) .inl

/-- A method is filed under a method call, and gives no type. -/
theorem setMethod_covers (he : e ∈ X) (hm : e.isMethodCall = true) (r : Resolution) :
    Covers [] X (setMethod e.id r) where
  covers h := by
    obtain rfl := gives_modify.mp h
    refine ⟨.refl _, fun _ => .inl, fun m h => ?_, fun _ => .inl⟩
    exact (List.mem_cons.mp h).elim (fun h => .inr (h ▸ among_of_mem (List.mem_filter.mpr ⟨he, hm⟩))) .inl

/-- A declaration is filed under a path, and gives no type. -/
theorem setPath_covers (he : e ∈ X) (hp : e.isPath = true) (d : Decl) :
    Covers [] X (setPath e.id d) where
  covers h := by
    obtain rfl := gives_modify.mp h
    refine ⟨.refl _, fun _ => .inl, fun _ => .inl, fun p h => ?_⟩
    exact (List.mem_cons.mp h).elim (fun h => .inr (h ▸ among_of_mem (List.mem_filter.mpr ⟨he, hp⟩))) .inl

/-- A coercion gives no type. -/
theorem coerceTo_covers (he : e ∈ X) (actual : Ty) (expected : Option Ty) :
    Covers [] X (coerceTo c e actual expected) := by
  cases expected with
  | none => exact .of_quiet (.pure ())
  | some t =>
    refine .after (.lift _) fun fits => ?_
    cases fits with
    | exact => exact .of_quiet (.pure ())
    | adjusted => exact setAdjusted_covers he
    | mismatch =>
      exact .of_quiet <| (Quiet.lift _).bind fun _ => (Quiet.lift _).bind fun _ => report_quiet _ _

/-! ### Paths -/

section

variable {node : Node} {segments : Path}

/-- Looking a path with an owner up gives no type: that is filed behind it. -/
theorem checkAssociated_covers (h : .path node segments ∈ X) :
    Covers [] X (checkAssociated c node segments) := by
  unfold checkAssociated
  dsimp only
  -- which owner and which trait were found does not matter
  generalize ownerType? c segments.dropLast = owner
  generalize (if owner.isSome then none else c.registry.findTrait? segments.dropLast) = traitPath
  split
  · exact .of_quiet <| (report_quiet _ _).bind fun _ => .pure _
  · split
    · exact (setPath_covers h rfl _).andPure
    · exact .of_quiet <| (report_quiet _ _).bind fun _ => .pure _
    · exact .throw _

/-- Nor does looking up any path that is no local. -/
theorem checkGlobal_covers (h : .path node segments ∈ X) :
    Covers [] X (checkGlobal c node segments) := by
  unfold checkGlobal
  split
  · exact (setPath_covers h rfl _).andPure
  · split
    · exact .of_quiet <| (report_quiet _ _).bind fun _ => .pure _
    · exact checkAssociated_covers h

/-- Nor does checking any path. -/
theorem checkPath_covers (h : .path node segments ∈ X) (expected : Option Ty) :
    Covers [] X (checkPath c node segments expected) := by
  unfold checkPath
  split
  · refine .after .get fun s => ?_
    split
    · exact .of_quiet (.pure _)
    · exact .of_quiet ⟨decideType_tables⟩
    · exact checkGlobal_covers h
  · exact checkGlobal_covers h

end

/-! ### Expressions -/

section

variable {node : Node} {args : List Expr}

/-- Whatever the callee is, the arguments of a call are checked, once. -/
theorem callRest_covers {callee : Expr} {type : Ty} (h : ∀ expected, Covers Y X (checkArgs c args expected)) :
    Covers Y X (callRest c node callee args type) := by
  unfold callRest
  split
  · exact .after (.lift _) fun _ => .after (.lift _) fun _ =>
      .after (expectedArgs_quiet _ _ _ _) fun _ => (h _).andPure
  · split
    · exact .after (.lift _) fun _ => .after (report_quiet _ _) fun _ => (h _).andPure
    · exact (h _).andPure

/-- The arguments of a method that is found are checked, once. -/
theorem resolvedRest_covers {receiver : Expr} {method : String} {r : Resolution}
    (hcall : .methodCall node receiver method args ∈ X) (hreceiver : receiver ∈ X)
    (h : ∀ expected, Covers Y X (checkArgs c args expected)) :
    Covers Y X (resolvedRest c node receiver args r) := by
  -- with an adjusted receiver or not, the arguments are checked in the same way
  have hargs : Covers Y X (do
      let params ← (r.decl.type.substSelf r.step).fnParams
      let ret ← (r.decl.type.substSelf r.step).fnRet
      checkArgs c args (← expectedArgs "method" node args.length (params.drop 1))
      return ret) :=
    .after (.lift _) fun _ => .after (.lift _) fun _ =>
      .after (expectedArgs_quiet _ _ _ _) fun _ => (h _).andPure
  refine Covers.bind (Y := []) (setMethod_covers hcall rfl r) fun _ => ?_
  dsimp only
  split
  · exact Covers.bind (Y := []) (setAdjusted_covers hreceiver) fun _ => hargs
  · exact hargs

/-- Whether a method is found or not, the arguments are checked, once. -/
theorem methodRest_covers {receiver : Expr} {method : String} {type : Ty}
    (hcall : .methodCall node receiver method args ∈ X) (hreceiver : receiver ∈ X)
    (h : ∀ expected, Covers Y X (checkArgs c args expected)) :
    Covers Y X (methodRest c node receiver method args type) := by
  unfold methodRest
  split
  · exact (h _).andPure
  · split
    · exact .throw _
    · exact .after (report_quiet _ _) fun _ => (h _).andPure
    · exact resolvedRest_covers hcall hreceiver h

end

/-- The body of a closure is checked, once. -/
theorem closureInside_covers {params : List Param} {ret : Option TypeExpr} {body : Expr}
    {signature : Option (List Ty × Ty)} (hbody : body ∈ X)
    (h : ∀ expected, Covers Y X (checkExpr c body expected)) :
    Covers Y X (closureInside c params ret body signature) :=
  .after (bindParams_quiet _ _) fun _ => .after (writtenOr_quiet _ _) fun _ =>
    (h _).before fun _ => (coerceTo_covers hbody _ _).before fun _ =>
      .of_quiet <| (Quiet.mapM paramType_quiet _).bind fun _ => .pure _

mutual

/-- **Checking an expression gives a type to each expression of its walk, once.** -/
theorem checkExpr_covers : (e : Expr) → (expected : Option Ty) → (∀ x ∈ e.walk, x ∈ X) →
    Covers e.walk X (checkExpr c e expected)
  | .path node segments, expected, h =>
    filed_covers (e := .path node segments) (checkPath_covers (h _ (Expr.mem_walk_self _)) expected)
  | .int node value, expected, _ => filed_covers (e := .int node value) (.of_quiet (.pure _))
  | .str node value, expected, _ => filed_covers (e := .str node value) (.of_quiet (.pure _))
  -- by induction on the expression: each case covers its parts in the order of the walk, and is filed
  -- last
  | .borrow node isMut subject, expected, h => by
    rw [checkExpr_borrow]
    exact filed_covers (e := .borrow node isMut subject) <| .after (.lift _) fun _ =>
      (checkExpr_covers subject _ (List.forall_mem_cons.mp h).2).andPure
  | .deref node subject, expected, h => by
    rw [checkExpr_deref]
    exact filed_covers (e := .deref node subject) <|
      (checkExpr_covers subject _ (List.forall_mem_cons.mp h).2).before fun _ =>
        .of_quiet (derefType_quiet _ _)
  | .field node subject name, expected, h => by
    rw [checkExpr_field]
    exact filed_covers (e := .field node subject name)
      (checkExpr_covers subject _ (List.forall_mem_cons.mp h).2).andPure
  | .call node callee args, expected, h => by
    obtain ⟨hcallee, hargs⟩ := List.forall_mem_append.mp (List.forall_mem_cons.mp h).2
    rw [checkExpr_call]
    exact filed_covers (e := .call node callee args) <|
      (checkExpr_covers callee _ hcallee).bind fun _ =>
        callRest_covers fun expected => checkArgs_covers args expected hargs
  | .methodCall node receiver method args, expected, h => by
    obtain ⟨hreceiver, hargs⟩ := List.forall_mem_append.mp (List.forall_mem_cons.mp h).2
    rw [checkExpr_methodCall]
    exact filed_covers (e := .methodCall node receiver method args) <|
      (checkExpr_covers receiver _ hreceiver).bind fun _ =>
        methodRest_covers (h _ (Expr.mem_walk_self _)) (hreceiver _ receiver.mem_walk_self)
          fun expected => checkArgs_covers args expected hargs
  | .closure node params ret body, expected, h => by
    have hbody := (List.forall_mem_cons.mp h).2
    rw [checkExpr_closure]
    exact filed_covers (e := .closure node params ret body) <| .after (.lift _) fun _ => .inScope <|
      closureInside_covers (hbody _ body.mem_walk_self) fun expected =>
        checkExpr_covers body expected hbody

/-- Checking arguments gives types to them and to what lies inside. -/
theorem checkArgs_covers : (es : List Expr) → (expected : List (Option Ty)) →
    (∀ x ∈ Expr.walkAll es, x ∈ X) → Covers (Expr.walkAll es) X (checkArgs c es expected)
  | [], _, _ => .of_quiet (.pure ())
  | e :: es, expected, h => by
    obtain ⟨he, hes⟩ := List.forall_mem_append.mp h
    rw [checkArgs_cons]
    exact (checkExpr_covers e _ he).bind fun _ => Covers.bind (Y := [])
      (coerceTo_covers (he e e.mem_walk_self) _ _) fun _ => checkArgs_covers es _ hes

end

/-! ### Bodies -/

/-- Checking a statement gives a type to each expression in it, once. -/
theorem checkStmt_covers (st : Stmt) (h : ∀ x ∈ st.expr.walk, x ∈ X) :
    Covers st.expr.walk X (checkStmt c st) := by
  cases st with
  | letStmt node pattern declared value =>
    rw [checkStmt_letStmt]
    exact .after (writtenOr_quiet _ _) fun _ => (checkExpr_covers value _ h).before fun _ =>
      (coerceTo_covers (h value value.mem_walk_self) _ _).before fun _ =>
        .of_quiet (bindPattern_quiet _ _)
  | exprStmt node e => exact (checkExpr_covers e _ h).andPure

/-- Checking a body gives a type to each expression in it, once. -/
theorem checkBody_covers (f : Function) (type : Ty) (h : ∀ x ∈ f.walk, x ∈ X) :
    Covers f.walk X (checkBody c f type) :=
  .after (.lift _) fun _ => .inScope <|
    .after (Quiet.forM (fun _ => bindPattern_quiet _ _) _) fun _ =>
      .forM fun st hst => checkStmt_covers st fun x hx => h x (List.mem_flatMap.mpr ⟨st, hst, hx⟩)

/-- **Checking bodies gives a type to each expression of their walks, once.** -/
theorem checkBodies_covers {file : Option String} {names : StructNames} {d : Declared}
    (bs : List Body) {next : NodeId} {fs : List Function}
    (h : Gives (checkBodies file names d next bs) s fs s')
    (hX : ∀ x ∈ fs.flatMap Function.walk, x ∈ X) :
    Covered (fs.flatMap Function.walk) X s.tables s'.tables := by
  induction bs generalizing next s fs with
  | nil =>
    rw [checkBodies] at h
    obtain ⟨rfl, rfl⟩ := gives_pure.mp h
    exact .refl _
  | cons b bs ih =>
    rw [checkBodies] at h
    obtain ⟨_, s₁, h₁, h⟩ := gives_bind.mp h
    obtain ⟨fs₁, h₂, rfl⟩ := gives_bind_pure.mp h
    -- the first body covers its walk, and the others theirs by induction
    obtain ⟨hfirst, hrest⟩ := List.forall_mem_append.mp hX
    exact ((checkBody_covers _ _ hfirst).covers h₁).trans (ih h₂ hrest)

end Typing

end ClosureLint
