import ClosureLint.Proofs.Checking.Accord
import ClosureLint.Proofs.Checking.Steps
import ClosureLint.Proofs.Core.Relocated

/-!
# Checking what stands elsewhere

The checker looks at an extent only to report a problem there. So a body that stands elsewhere is
checked in the same way, and what is reported stands elsewhere too. Nor does it look at what was
reported before, or at more of its context than what the paths of the body mean.

* `resolveType_relocate` — what a written type means that stands elsewhere.
* `Elsewhere` — two states are the same, but for what was reported before, for where the rest of
  the diagnostics stands, and for declarations that are related by `V`.
* `checkExpr_relocate`, `checkBody_relocate` — the checker takes such states to such states, in
  contexts that give the same meaning to all paths.
-/

namespace ClosureLint

open ClosureLint.Syntax (TypeExpr Path optionalPaths optionalPaths_some)

variable {g : Loc → Loc}

/-! ### Written types -/

/-- What means no type means none elsewhere, and is reported there. -/
theorem TypeScope.unresolved_relocate (s : TypeScope) (l : Loc) (p : Problem) :
    s.unresolved (g l) p
      = ((s.unresolved l p).1, (s.unresolved l p).2.map (Diagnostic.relocate g)) := rfl

mutual

/-- **A written type that stands elsewhere** means the same, and what is reported stands there too. -/
theorem resolveType_relocate (s : TypeScope) : (t : TypeExpr) → resolveType s (t.relocate g)
      = ((resolveType s t).1, (resolveType s t).2.map (Diagnostic.relocate g))
  | .named l path args => by
    rw [TypeExpr.relocate, resolveType, resolveType, TypeExpr.isEmpty_relocateAll]
    cases s.builtIn path (!args.isEmpty) with
    | type t => rfl
    | selfMissing => exact s.unresolved_relocate l _
    | none =>
      dsimp only
      -- paths are looked up as they are written
      cases s.names.find? path with
      | none => exact s.unresolved_relocate l _
      | some full =>
        dsimp only
        rw [resolveTypes_relocate s args]
  | .ref _ _ inner | .array _ inner _ | .slice _ inner => by
    rw [TypeExpr.relocate, resolveType, resolveType, resolveType_relocate s inner]
  | .tuple _ elems => by
    rw [TypeExpr.relocate, resolveType, resolveType, resolveTypes_relocate s elems]
  | .fnPtr _ _ params none => by
    rw [TypeExpr.relocate, resolveType, resolveType, resolveTypes_relocate s params]
  | .fnPtr _ _ params (some ret) => by
    rw [TypeExpr.relocate, resolveType, resolveType, resolveTypes_relocate s params]
    dsimp only
    rw [resolveType_relocate s ret, List.map_append]

/-- So do written types one by one. -/
theorem resolveTypes_relocate (s : TypeScope) : (ts : List TypeExpr) →
    resolveTypes s (TypeExpr.relocateAll g ts)
      = ((resolveTypes s ts).1, (resolveTypes s ts).2.map (Diagnostic.relocate g))
  | [] => rfl
  | t :: ts => by
    rw [TypeExpr.relocateAll, resolveTypes, resolveTypes, resolveType_relocate s t,
      resolveTypes_relocate s ts, List.map_append]

end

namespace Typing

open ClosureLint.Core

variable {A : Path → Prop} {V : Decl → Decl → Prop} {c c' : Context} {D D' : List Diagnostic}
  {s s' : State}

/-! ### States -/

/-- The second state has the scopes of the first, and its results up to `V`. What the first has
reported after `D` it has reported after `D'`, elsewhere. -/
structure Elsewhere (g : Loc → Loc) (V : Decl → Decl → Prop) (D D' : List Diagnostic)
    (s s' : State) : Prop where
  scopes : s'.scopes = s.scopes
  tables : s.tables.Accords V s'.tables
  reported : ∃ ds, s.diagnostics = D ++ ds ∧ s'.diagnostics = D' ++ ds.map (Diagnostic.relocate g)

/-- States that are the same but for places stay so when their scopes change in the same way. -/
theorem Elsewhere.rescope (h : Elsewhere g V D D' s s') (f : List Scope → List Scope) :
    Elsewhere g V D D' { s with scopes := f s.scopes } { s' with scopes := f s'.scopes } :=
  ⟨congrArg f h.scopes, h.tables, h.reported⟩

/-- And when the same is reported in both, elsewhere. -/
theorem Elsewhere.report (h : Elsewhere g V D D' s s') (ds : List Diagnostic) :
    Elsewhere g V D D' { s with diagnostics := s.diagnostics ++ ds }
      { s' with diagnostics := s'.diagnostics ++ ds.map (Diagnostic.relocate g) } := by
  obtain ⟨before, hs, hs'⟩ := h.reported
  refine ⟨h.scopes, h.tables, before ++ ds, ?_, ?_⟩
  · show s.diagnostics ++ ds = _
    rw [hs, List.append_assoc]
  · show s'.diagnostics ++ _ = _
    rw [hs', List.append_assoc, List.map_append]

/-- The step `m'` does elsewhere what `m` does. -/
def Repeats (g : Loc → Loc) (V : Decl → Decl → Prop) (D D' : List Diagnostic) {α : Type}
    (m m' : Check α) : Prop :=
  Couples (Elsewhere g V D D') (Elsewhere g V D D') m m'

/-! ### Basic steps -/

section Steps

/-- A problem is reported elsewhere. -/
theorem report_relocate (p : Problem) (span : Span) :
    Repeats g V D D' (report p span) (report p (span.relocate g)) :=
  .modify fun _ _ hs => hs.report [p.diagnostic span]

/-- The same type is filed. -/
theorem setType_repeats (id : NodeId) (t : Ty) : Repeats g V D D' (setType id t) (setType id t) :=
  .modify fun _ _ ⟨hs, ht, hr⟩ =>
    ⟨hs, ⟨congrArg ((id, t) :: ·) ht.types, ht.adjusted, ht.methods, ht.paths⟩, hr⟩

/-- Methods that go together are filed. -/
theorem setMethod_repeats (id : NodeId) {r r' : Resolution} (h : r.Accords V r') :
    Repeats g V D D' (setMethod id r) (setMethod id r') :=
  .modify fun _ _ ⟨hs, ht, hr⟩ =>
    ⟨hs, ⟨ht.types, ht.adjusted, .cons ⟨rfl, h⟩ ht.methods, ht.paths⟩, hr⟩

/-- Declarations that go together are filed. -/
theorem setPath_repeats (id : NodeId) {d d' : Decl} (h : V d d') :
    Repeats g V D D' (setPath id d) (setPath id d') :=
  .modify fun _ _ ⟨hs, ht, hr⟩ =>
    ⟨hs, ⟨ht.types, ht.adjusted, ht.methods, .cons ⟨rfl, h⟩ ht.paths⟩, hr⟩

/-- The same adjustment is filed. -/
theorem setAdjusted_repeats (id : NodeId) : Repeats g V D D' (setAdjusted id) (setAdjusted id) :=
  .modify fun _ _ ⟨hs, ht, hr⟩ =>
    ⟨hs, ⟨ht.types, congrArg (id :: ·) ht.adjusted, ht.methods, ht.paths⟩, hr⟩

/-- A written type resolves to the same elsewhere. -/
theorem resolve_relocate (hc : c.Accords A V c') (t : TypeExpr) (ht : ∀ path ∈ t.paths, A path) :
    Repeats g V D D' (resolve c t) (resolve c' (t.relocate g)) := by
  have hreport : Repeats g V D D'
      (modify fun s => { s with diagnostics := s.diagnostics ++ (resolveType c.scope t).2 })
      (modify fun s => { s with
        diagnostics := s.diagnostics ++ (resolveType c.scope t).2.map (Diagnostic.relocate g) }) :=
    .modify fun _ _ hs => hs.report _
  unfold resolve
  rw [resolveType_relocate, resolveType_accords hc.scope t ht]
  exact hreport.bind fun _ => .pure _

/-- A change of scopes alone. -/
theorem rescope_repeats (f : List Scope → List Scope) :
    Repeats g V D D' (modify fun s => { s with scopes := f s.scopes })
      (modify fun s => { s with scopes := f s.scopes }) :=
  .modify fun _ _ hs => hs.rescope f

/-- A step in a scope of its own goes the same way. -/
theorem inScope_repeats {α : Type} {m m' : Check α} (h : Repeats g V D D' m m') :
    Repeats g V D D' (inScope m) (inScope m') :=
  (rescope_repeats fun scopes => [] :: scopes).bind fun _ => h.bind fun _ =>
    (rescope_repeats fun scopes => scopes.drop 1).bind fun _ => .pure _

/-- The answer of a step that goes the same way is filed. -/
theorem filed_repeats (id : NodeId) {m m' : Check Ty} (h : Repeats g V D D' m m') :
    Repeats g V D D' (filed id m) (filed id m') :=
  h.bind fun _ => (setType_repeats id _).bind fun _ => .pure _

/-- A pattern that wants a tuple is reported elsewhere. -/
theorem reportNotTuple_relocate (type : Option Ty) (span : Span) :
    Repeats g V D D' (reportNotTuple type span) (reportNotTuple type (span.relocate g)) := by
  unfold reportNotTuple
  split
  · split
    · exact .pure ()
    · exact (Couples.lift _).bind fun _ => report_relocate _ span
  · exact .pure ()

mutual

/-- A pattern that stands elsewhere binds the same. -/
theorem bindPattern_relocate : (p : Pattern) → (type : Option Ty) →
    Repeats g V D D' (bindPattern p type) (bindPattern (p.relocate g) type)
  | .binding _ _ name, type => rescope_repeats (bindIn name type)
  | .tuple node elems, type => by
    -- a tuple pattern is opened by its length
    rw [Pattern.relocate, bindPattern, bindPattern, Pattern.length_relocateAll]
    split
    · exact bindPatterns_relocate elems _
    · exact (reportNotTuple_relocate _ node.span).bind fun _ => bindPatterns_relocate elems _
  | .ref _ inner, type => (Couples.lift _).bind fun _ => bindPattern_relocate inner _
  | .wildcard _, _ => .pure ()

/-- So do the parts of one. -/
theorem bindPatterns_relocate : (ps : List Pattern) → (types : List Ty) →
    Repeats g V D D' (bindPatterns ps types) (bindPatterns (Pattern.relocateAll g ps) types)
  | [], _ => .pure ()
  | p :: ps, [] => (bindPattern_relocate p _).bind fun _ => bindPatterns_relocate ps []
  | p :: ps, _ :: ts => (bindPattern_relocate p _).bind fun _ => bindPatterns_relocate ps ts

end

/-- A coercion goes the same way elsewhere. -/
theorem coerceTo_relocate (hc : c.Accords A V c') (e : Expr) (actual : Ty) (expected : Option Ty) :
    Repeats g V D D' (coerceTo c e actual expected)
      (coerceTo c' (e.relocate g) actual expected) := by
  cases expected with
  | none => exact .pure ()
  | some t =>
    unfold coerceTo coerce
    rw [Expr.id_relocate, Expr.span_relocate, hc.targets]
    refine (Couples.lift _).bind fun fits => ?_
    -- whether the types fit is a matter of the types, and only a mismatch has a place
    cases fits with
    | exact => exact .pure ()
    | adjusted => exact setAdjusted_repeats e.id
    | mismatch =>
      exact (Couples.lift _).bind fun _ => (Couples.lift _).bind fun _ => report_relocate _ e.span

variable (n : Node)

/-- A path with an owner denotes what goes together. -/
theorem checkAssociated_relocate (hc : c.Accords A V c') {segments : Path}
    (hfront : A segments.dropLast) :
    Repeats g V D D' (checkAssociated c n segments)
      (checkAssociated c' (n.relocate g) segments) := by
  unfold checkAssociated
  dsimp only
  rw [hc.ownerType? hfront, hc.registry.traits _ hfront]
  generalize ownerType? c segments.dropLast = owner
  -- both registries answer with declarations that go together, or with the same error
  have hitem := hc.registry.items owner segments.dropLast (Path.last segments) hfront
  generalize (if owner.isSome then none else c.registry.findTrait? segments.dropLast) = traitPath
    at hitem ⊢
  split
  · exact (report_relocate _ n.span).bind fun _ => .pure _
  · generalize c.registry.resolveAssociated owner traitPath (Path.last segments) = found,
      c'.registry.resolveAssociated owner traitPath (Path.last segments) = found' at hitem ⊢
    cases hitem with
    | ok h =>
      dsimp only
      rw [hc.registry.types _ _ h]
      exact (setPath_repeats n.id h).bind fun _ => .pure _
    | error e =>
      cases e with
      | refused e => exact (report_relocate _ n.span).bind fun _ => .pure _
      | fault f => exact .throw _ _

/-- So does any path that is no local. -/
theorem checkGlobal_relocate (hc : c.Accords A V c') {segments : Path} (hsegments : A segments) :
    Repeats g V D D' (checkGlobal c n segments) (checkGlobal c' (n.relocate g) segments) := by
  have hfunction := hc.registry.functions segments hsegments
  unfold checkGlobal
  generalize c.registry.getFree? (Path.text segments) = found,
    c'.registry.getFree? (Path.text segments) = found' at hfunction ⊢
  cases hfunction with
  | some h =>
    dsimp only
    rw [hc.registry.types _ _ h]
    exact (setPath_repeats n.id h).bind fun _ => .pure _
  | none =>
    dsimp only
    split
    · exact (report_relocate _ n.span).bind fun _ => .pure _
    · next hlength => exact checkAssociated_relocate n hc (hc.fronts segments hsegments hlength)

/-- A local is decided to have the same type elsewhere. -/
theorem decideType_relocate (name : String) (expected : Option Ty) :
    Repeats g V D D' (decideType n name expected) (decideType (n.relocate g) name expected) := by
  unfold decideType
  split
  · exact (rescope_repeats (decideLocal name _)).bind fun _ => .pure _
  · exact (report_relocate _ n.span).bind fun _ =>
      (rescope_repeats (decideLocal name _)).bind fun _ => .pure _

/-- A path has the same type elsewhere. -/
theorem checkPath_relocate (hc : c.Accords A V c') {segments : Path} (hsegments : A segments)
    (expected : Option Ty) :
    Repeats g V D D' (checkPath c n segments expected)
      (checkPath c' (n.relocate g) segments expected) := by
  unfold checkPath
  split
  · refine .get fun s s' hs => ?_
    -- locals are looked up in the scopes, which are the same
    rw [hs.scopes]
    split
    · exact .pure _
    · exact decideType_relocate n _ _
    · exact checkGlobal_relocate n hc hsegments
  · exact checkGlobal_relocate n hc hsegments

/-- A type is followed in the same way elsewhere. -/
theorem derefType_relocate (hc : c.Accords A V c') (type : Ty) :
    Repeats g V D D' (derefType c n type) (derefType c' (n.relocate g) type) := by
  unfold derefType
  rw [hc.targets]
  refine (Couples.lift _).bind fun target => ?_
  split
  · exact .pure _
  · split
    · exact (Couples.lift _).bind fun _ => (report_relocate _ n.span).bind fun _ => .pure _
    · exact .pure _

/-- The number of arguments is compared in the same way elsewhere. -/
theorem expectedArgs_relocate (callable : String) (given : Nat) (params : List Ty) :
    Repeats g V D D' (expectedArgs callable n given params)
      (expectedArgs callable (n.relocate g) given params) := by
  unfold expectedArgs
  split
  · exact .pure _
  · exact (report_relocate _ n.span).bind fun _ => .pure _

/-- A written type takes precedence elsewhere too. -/
theorem writtenOr_relocate (hc : c.Accords A V c') {written : Option TypeExpr}
    (hwritten : ∀ path ∈ optionalPaths written, A path) (otherwise : Option Ty) :
    Repeats g V D D' (writtenOr c written otherwise)
      (writtenOr c' (written.map (TypeExpr.relocate g)) otherwise) := by
  cases written with
  | none => exact .pure _
  | some t =>
    exact (resolve_relocate hc t (optionalPaths_some t ▸ hwritten)).bind fun _ => .pure _

/-- The parameters of a closure bind the same elsewhere. -/
theorem bindParams_relocate (hc : c.Accords A V c') {ps : List Param}
    (hps : ∀ path ∈ paramPaths ps, A path) (expected : List (Option Ty)) :
    Repeats g V D D' (bindParams c ps expected)
      (bindParams c' (ps.map (Param.relocate g)) expected) := by
  induction ps generalizing expected with
  | nil => exact .pure ()
  | cons p ps ih =>
    rw [paramPaths_cons, List.forall_mem_append] at hps
    rw [List.map_cons, bindParams_cons, bindParams_cons]
    exact (writtenOr_relocate hc hps.1 _).bind fun _ =>
      (bindPattern_relocate p.pattern _).bind fun _ => ih hps.2 _

/-- What is decided on for a pattern is a matter of its names. -/
theorem decidedType?_relocate (scopes : List Scope) (p : Pattern) :
    decidedType? scopes (p.relocate g) = decidedType? scopes p := by
  cases p <;> rfl

/-- The parameter of a closure ends with the same type elsewhere. -/
theorem paramType_relocate (hc : c.Accords A V c') {p : Param}
    (hp : ∀ path ∈ optionalPaths p.declared, A path) :
    Repeats g V D D' (paramType c p) (paramType c' (p.relocate g)) := by
  refine .get fun s s' hs => ?_
  rw [hs.scopes, Param.relocate, decidedType?_relocate]
  cases decidedType? s.scopes p.pattern with
  | some t => exact .pure t
  | none =>
    cases hdeclared : p.declared with
    | some t =>
      rw [hdeclared, optionalPaths_some] at hp
      exact resolve_relocate hc t hp
    | none => exact .pure _

end Steps

/-! ### Expressions -/

section

variable {args : List Expr} (n : Node) (hc : c.Accords A V c')
  (hargs : ∀ expected, Repeats g V D D' (checkArgs c args expected)
    (checkArgs c' (Expr.relocateAll g args) expected))

include hargs

/-- What follows the check of a callee. -/
theorem callRest_relocate (callee : Expr) (type : Ty) :
    Repeats g V D D' (callRest c n callee args type)
      (callRest c' (n.relocate g) (callee.relocate g) (Expr.relocateAll g args) type) := by
  have hlength : (Expr.relocateAll g args).length = args.length := by
    rw [Expr.relocateAll_eq_map, List.length_map]
  unfold callRest
  rw [hlength, Expr.span_relocate]
  split
  · exact (Couples.lift _).bind fun _ => (Couples.lift _).bind fun _ =>
      (expectedArgs_relocate n _ _ _).bind fun _ => (hargs _).bind fun _ => .pure _
  · split
    · exact (Couples.lift _).bind fun _ => (report_relocate _ callee.span).bind fun _ =>
        (hargs _).bind fun _ => .pure _
    · exact (hargs _).bind fun _ => .pure _

include hc

/-- What follows the check of a receiver. -/
theorem methodRest_relocate (receiver : Expr) (method : String) (type : Ty) :
    Repeats g V D D' (methodRest c n receiver method args type)
      (methodRest c' (n.relocate g) (receiver.relocate g) method (Expr.relocateAll g args) type) := by
  have hlength : (Expr.relocateAll g args).length = args.length := by
    rw [Expr.relocateAll_eq_map, List.length_map]
  unfold methodRest
  split
  · exact (hargs _).bind fun _ => .pure _
  · have hmethod := hc.registry.methods c.targets type method
    rw [hc.targets]
    generalize c.registry.resolveMethod c.targets type method = found,
      c'.registry.resolveMethod c.targets type method = found' at hmethod ⊢
    -- both searches end in the same way
    cases hmethod with
    | error e =>
      cases e with
      | fault f => exact .throw _ _
      | refused e => exact (report_relocate _ n.span).bind fun _ => (hargs _).bind fun _ => .pure _
    | @ok r r' h =>
      have hrest : Repeats g V D D' (do
            let params ← (r.decl.type.substSelf r.step).fnParams
            let ret ← (r.decl.type.substSelf r.step).fnRet
            checkArgs c args (← expectedArgs "method" n args.length (params.drop 1))
            return ret) (do
            let params ← (r.decl.type.substSelf r.step).fnParams
            let ret ← (r.decl.type.substSelf r.step).fnRet
            checkArgs c' (Expr.relocateAll g args)
              (← expectedArgs "method" (n.relocate g) args.length (params.drop 1))
            return ret) :=
        (Couples.lift _).bind fun _ => (Couples.lift _).bind fun _ =>
          (expectedArgs_relocate n _ _ _).bind fun _ => (hargs _).bind fun _ => .pure _
      dsimp only
      unfold resolvedRest
      -- of the declaration only its type counts
      rw [hlength, Expr.id_relocate, h.receiverAdjusted, h.step, hc.registry.types _ _ h.decl]
      refine (setMethod_repeats n.id h).bind fun _ => ?_
      dsimp only
      split
      · exact (setAdjusted_repeats receiver.id).bind fun _ => hrest
      · exact hrest

omit hargs

/-- The inside of a closure. -/
theorem closureInside_relocate {params : List Param} {ret : Option TypeExpr} (body : Expr)
    (signature : Option (List Ty × Ty)) (hparams : ∀ path ∈ paramPaths params, A path)
    (hret : ∀ path ∈ optionalPaths ret, A path)
    (hbody : ∀ expected, Repeats g V D D' (checkExpr c body expected)
      (checkExpr c' (body.relocate g) expected)) :
    Repeats g V D D' (closureInside c params ret body signature)
      (closureInside c' (params.map (Param.relocate g)) (ret.map (TypeExpr.relocate g))
        (body.relocate g) signature) := by
  have htypes (p : Param) (hp : p ∈ params) :
      Repeats g V D D' (paramType c p) (paramType c' (p.relocate g)) :=
    paramType_relocate hc fun path h => hparams path (List.mem_flatMap.mpr ⟨p, hp, h⟩)
  exact (bindParams_relocate hc hparams _).bind fun _ => (writtenOr_relocate hc hret _).bind fun _ =>
    (hbody _).bind fun _ => (coerceTo_relocate hc body _ _).bind fun _ =>
      (Couples.mapM_map htypes).bind fun _ => .pure _

end

mutual

/-- **An expression that stands elsewhere** is checked in the same way. -/
theorem checkExpr_relocate (hc : c.Accords A V c') : (e : Expr) → (∀ path ∈ e.paths, A path) →
    (expected : Option Ty) →
    Repeats g V D D' (checkExpr c e expected) (checkExpr c' (e.relocate g) expected)
  | .path n segments, he, expected =>
    filed_repeats n.id (checkPath_relocate n hc (he _ List.mem_cons_self) expected)
  | .int n _, _, _ | .str n _, _, _ => filed_repeats n.id (.pure _)
  -- by induction on the expression: its paths are those of its parts
  | .borrow n _ subject, he, expected => by
    rw [Expr.relocate, checkExpr_borrow, checkExpr_borrow]
    exact filed_repeats n.id <| (Couples.lift _).bind fun _ =>
      (checkExpr_relocate hc subject he _).bind fun _ => .pure _
  | .deref n subject, he, _ => by
    rw [Expr.relocate, checkExpr_deref, checkExpr_deref]
    exact filed_repeats n.id <| (checkExpr_relocate hc subject he _).bind fun _ =>
      derefType_relocate n hc _
  | .field n subject _, he, _ => by
    rw [Expr.relocate, checkExpr_field, checkExpr_field]
    exact filed_repeats n.id <| (checkExpr_relocate hc subject he _).bind fun _ => .pure _
  | .call n callee args, he, _ => by
    rw [Expr.paths, List.forall_mem_append] at he
    rw [Expr.relocate, checkExpr_call, checkExpr_call]
    exact filed_repeats n.id <| (checkExpr_relocate hc callee he.1 _).bind fun _ =>
      callRest_relocate n (checkArgs_relocate hc args he.2) callee _
  | .methodCall n receiver method args, he, _ => by
    rw [Expr.paths, List.forall_mem_append] at he
    rw [Expr.relocate, checkExpr_methodCall, checkExpr_methodCall]
    exact filed_repeats n.id <| (checkExpr_relocate hc receiver he.1 _).bind fun _ =>
      methodRest_relocate n hc (checkArgs_relocate hc args he.2) receiver method _
  | .closure n params ret body, he, expected => by
    rw [Expr.paths, List.forall_mem_append, List.forall_mem_append] at he
    rw [Expr.relocate, checkExpr_closure, checkExpr_closure, List.length_map]
    exact filed_repeats n.id <| (Couples.lift _).bind fun _ => inScope_repeats <|
      closureInside_relocate hc body _ he.1 he.2.1 (checkExpr_relocate hc body he.2.2)

/-- So are arguments. -/
theorem checkArgs_relocate (hc : c.Accords A V c') : (es : List Expr) →
    (∀ path ∈ Expr.pathsAll es, A path) → (expected : List (Option Ty)) →
    Repeats g V D D' (checkArgs c es expected) (checkArgs c' (Expr.relocateAll g es) expected)
  | [], _, _ => .pure ()
  | e :: es, he, expected => by
    rw [Expr.pathsAll, List.forall_mem_append] at he
    rw [Expr.relocateAll, checkArgs_cons, checkArgs_cons]
    exact (checkExpr_relocate hc e he.1 _).bind fun _ => (coerceTo_relocate hc e _ _).bind fun _ =>
      checkArgs_relocate hc es he.2 _

end

/-! ### Statements and bodies -/

/-- So is a statement. -/
theorem checkStmt_relocate (hc : c.Accords A V c') (st : Stmt) (hst : ∀ path ∈ st.paths, A path) :
    Repeats g V D D' (checkStmt c st) (checkStmt c' (st.relocate g)) := by
  cases st with
  | letStmt n pattern declared value =>
    rw [Stmt.paths, List.forall_mem_append] at hst
    rw [Stmt.relocate, checkStmt_letStmt, checkStmt_letStmt]
    exact (writtenOr_relocate hc hst.1 _).bind fun _ =>
      (checkExpr_relocate hc value hst.2 _).bind fun _ =>
        (coerceTo_relocate hc value _ _).bind fun _ => bindPattern_relocate pattern _
  | exprStmt n e => exact (checkExpr_relocate hc e hst none).bind fun _ => .pure _

/-- **A body that stands elsewhere** is checked in the same way. -/
theorem checkBody_relocate (hc : c.Accords A V c') (f : Function) (type : Ty)
    (hf : ∀ path ∈ f.body.stmts.flatMap Stmt.paths, A path) :
    Repeats g V D D' (checkBody c f type) (checkBody c' (f.relocate g) type) := by
  -- parameters and statements are taken one by one, as they stand elsewhere
  have hbind (types : List Ty) : Repeats g V D D'
      ((f.params.zip types).forM fun a => bindPattern a.1.pattern (some a.2))
      (((f.relocate g).params.zip types).forM fun a => bindPattern a.1.pattern (some a.2)) := by
    rw [Function.relocate, List.zip_map_left]
    refine .forM_map fun a _ => ?_
    exact bindPattern_relocate a.1.pattern (some a.2)
  have hstmts (st : Stmt) (hst : st ∈ f.body.stmts) :
      Repeats g V D D' (checkStmt c st) (checkStmt c' (st.relocate g)) :=
    checkStmt_relocate hc st fun path h => hf path (List.mem_flatMap.mpr ⟨st, hst, h⟩)
  exact (Couples.lift _).bind fun types => inScope_repeats <|
    (hbind types).bind fun _ => .forM_map hstmts

end Typing

end ClosureLint
