import ClosureLint.Proofs.Checking.Mirrors

/-!
# All around an argument that is replaced

What is true of an argument and of what stands in its place is true of the expressions, statements
and bodies around them, and of the bodies of a whole program.

* `Spreads.expr` — around the argument.
* `Sits` — what has to be known of an expression and the one in its place, wherever it stands.
* `Spreads.stmts`, `Spreads.body` — around such an expression.
* `checkBodies_iff` — the bodies of a program are checked one after the other.
* `Spreads.each` — one of them holds the expression.
-/

namespace ClosureLint.Typing

open ClosureLint.Core
variable {P : NodeId → NodeId → Prop} {c : Context} {s s' : State} {α β : Type}
  {x r : Expr}

/-- Checks one argument against what is expected of it. -/
def checkArg (c : Context) (e : Expr) (expected : Option Ty) : Check Unit := do
  let type ← checkExpr c e expected
  coerceTo c e type expected

/-- Arguments are checked one after the other. -/
theorem checkArgs_cons_arg (e : Expr) (es : List Expr) (expected : List (Option Ty)) :
    checkArgs c (e :: es) expected = (do
      checkArg c e (expected.head?.getD none)
      checkArgs c es expected.tail) := by
  rw [checkArgs_cons, checkArg, bind_assoc]

section

variable {R : {α : Type} → Check α → Check α → Prop} {E : Expr → Expr → Prop}

/-! ### Expressions -/

theorem length_of_fixed {es es' : List Expr} (h : FixedAll P x r es es') : es'.length = es.length := by
  induction es generalizing es' with
  | nil => cases h
  | cons e es ih =>
    cases h with
    | here h | head _ h => rw [List.length_cons, List.length_cons, length_of_alike h]
    | tail _ h => rw [List.length_cons, List.length_cons, ih h]

mutual

/-- **An expression in which an argument is replaced** is checked as the argument is. -/
theorem Spreads.expr (hR : Spreads P R) (hP : OneToOne P)
    (harg : ∀ expected, R (checkArg c x expected) (checkArg c r expected)) :
    {e e' : Expr} → Fixed P x r e e' → (expected : Option Ty) →
    R (checkExpr c e expected) (checkExpr c e' expected)
  | _, _, .borrow h hsubject, expected => by
    rw [checkExpr_borrow, checkExpr_borrow]
    exact hR.filed hP h.id <| hR.after (.lift _) fun _ =>
      hR.before (hR.expr hP harg hsubject _) fun _ => .pure _
  | _, _, .deref h hsubject, expected => by
    rw [checkExpr_deref, checkExpr_deref]
    exact hR.filed hP h.id <| hR.before (hR.expr hP harg hsubject _) fun _ =>
      derefType_mirrors h.span _
  | _, _, .field h hsubject, expected => by
    rw [checkExpr_field, checkExpr_field]
    exact hR.filed hP h.id <| hR.before (hR.expr hP harg hsubject _) fun _ => .pure _
  -- the argument is somewhere in the callee, and the arguments are alike
  | _, _, .callee h hcallee hargs, expected => by
    rw [checkExpr_call, checkExpr_call]
    exact hR.filed hP h.id <| hR.before (hR.expr hP harg hcallee _) fun _ =>
      Mirrors.spreads.callRest h.span hcallee.node.span (length_of_alike hargs)
        (checkArgs_mirrors hP hargs) _
  -- it is one of the arguments or in one, and the callee is alike
  | _, _, .call h hcallee hargs, expected => by
    rw [checkExpr_call, checkExpr_call]
    exact hR.filed hP h.id <| hR.after (checkExpr_mirrors hP hcallee _) fun _ =>
      hR.callRest h.span hcallee.node.span (length_of_fixed hargs) (hR.args hP harg hargs) _
  | _, _, .receiver h hreceiver hargs, expected => by
    rw [checkExpr_methodCall, checkExpr_methodCall]
    exact hR.filed hP h.id <| hR.before (hR.expr hP harg hreceiver _) fun _ =>
      Mirrors.spreads.methodRest hP h (Mirrors.spreads.adjusts hP hreceiver.node.id)
        (length_of_alike hargs) (checkArgs_mirrors hP hargs) _
  | _, _, .methodCall h hreceiver hargs, expected => by
    rw [checkExpr_methodCall, checkExpr_methodCall]
    exact hR.filed hP h.id <| hR.after (checkExpr_mirrors hP hreceiver _) fun _ =>
      hR.methodRest hP h (hR.adjusts hP hreceiver.node.id) (length_of_fixed hargs)
        (hR.args hP harg hargs) _
  -- the parameters bind the same names on both sides, and the body is accepted as before
  | _, _, .closure h hparams hbody, expected => by
    rw [checkExpr_closure, checkExpr_closure, length_params hparams]
    exact hR.filed hP h.id <| hR.after (.lift _) fun _ => hR.scope <|
      hR.closureInside hparams (hR.accepts hP hbody.node (hR.expr hP harg hbody))

/-- **Arguments in one of which an argument is replaced.** -/
theorem Spreads.args (hR : Spreads P R) (hP : OneToOne P)
    (harg : ∀ expected, R (checkArg c x expected) (checkArg c r expected)) :
    {es es' : List Expr} → FixedAll P x r es es' → (expected : List (Option Ty)) →
    R (checkArgs c es expected) (checkArgs c es' expected)
  | _, _, .here hrest, expected => by
    -- this is the argument that is replaced: all that is known is how it is checked
    rw [checkArgs_cons_arg, checkArgs_cons_arg]
    exact hR.before (harg _) fun _ => checkArgs_mirrors hP hrest _
  | _, _, .head h hrest, expected => by
    rw [checkArgs_cons, checkArgs_cons]
    exact hR.before (hR.expr hP harg h _) fun _ =>
      (coerceTo_mirrors hP h.node _ _).bind fun _ => checkArgs_mirrors hP hrest _
  | _, _, .tail h hrest, expected => by
    rw [checkArgs_cons, checkArgs_cons]
    exact hR.after (checkExpr_mirrors hP h _) fun _ => hR.after (coerceTo_mirrors hP h.node _ _)
      fun _ => hR.args hP harg hrest _

end

/-- What `R` says of the checks of `e` and `e'` it also says of what follows on them where an
expression may stand: the value is accepted, or a method is called on it. -/
structure Sits (P : NodeId → NodeId → Prop) (R : {α : Type} → Check α → Check α → Prop)
    (c : Context) (e e' : Expr) : Prop where
  span : e'.span = e.span
  checked : ∀ expected, R (checkExpr c e expected) (checkExpr c e' expected)
  accepted : ∀ expected {β : Type} {f f' : Ty → Check β}, (∀ t, Mirrors P (f t) (f' t)) →
    R (do let type ← checkExpr c e expected; coerceTo c e type expected; f type)
      (do let type ← checkExpr c e' expected; coerceTo c e' type expected; f' type)
  received : ∀ {n n' : Node} {args args' : List Expr} (method : String), Pairs P n n' →
    AlikeAll P args args' →
    R (do let type ← checkExpr c e none; methodRest c n e method args type)
      (do let type ← checkExpr c e' none; methodRest c n' e' method args' type)

/-- Under paired nodes the rest is mirrored. -/
theorem Sits.of_pairs (hR : Spreads P R) (hP : OneToOne P) {e e' : Expr}
    (h : Pairs P e.node e'.node)
    (he : ∀ expected, R (checkExpr c e expected) (checkExpr c e' expected)) : Sits P R c e e' where
  span := h.span
  checked := he
  accepted := hR.accepts hP h he
  received _ hn hargs := hR.before (he none) fun _ =>
    Mirrors.spreads.methodRest hP hn (Mirrors.spreads.adjusts hP h.id) (length_of_alike hargs)
      (checkArgs_mirrors hP hargs) _

theorem sits_of_alike (hP : OneToOne P) {e e' : Expr} (h : Alike P e e') :
    Sits P (Mirrors P) c e e' :=
  .of_pairs Mirrors.spreads hP h.node (checkExpr_mirrors hP h)

theorem Spreads.fixed (hR : Spreads P R) (hP : OneToOne P)
    (harg : ∀ expected, R (checkArg c x expected) (checkArg c r expected)) {e e' : Expr}
    (h : Fixed P x r e e') : Sits P R c e e' :=
  .of_pairs hR hP h.node (hR.expr hP harg h)

/-! ### Statements and bodies -/

theorem Spreads.stmt (hR : Spreads P R) {st st' : Stmt} (h : StmtWith E st st')
    (hsits : ∀ {e e'}, E e e' → Sits P R c e e') : R (checkStmt c st) (checkStmt c st') := by
  cases h with
  | letStmt hpattern he =>
    rw [checkStmt_letStmt, checkStmt_letStmt]
    -- the patterns are the same up to identities, which binding does not look at
    simp only [bindPattern_congr hpattern]
    exact hR.after (writtenOr_mirrors _ _) fun _ =>
      (hsits he).accepted _ fun _ => bindPattern_mirrors _ _
  | exprStmt he => exact hR.before ((hsits he).checked none) fun _ => .pure _

theorem stmts_mirrors (hP : OneToOne P) {ss ss' : List Stmt}
    (h : List.Forall₂ (StmtWith (Alike P)) ss ss') :
    Mirrors P (ss.forM (checkStmt c)) (ss'.forM (checkStmt c)) := by
  induction h with
  | nil => exact .pure ()
  | cons h _ ih =>
    exact (Mirrors.spreads.stmt h (sits_of_alike hP)).bind fun _ => ih

/-- **Statements of which one holds the expression.** -/
theorem Spreads.stmts (hR : Spreads P R) (hP : OneToOne P) {ss ss' : List Stmt}
    (h : OneOff (StmtWith (Alike P)) (StmtWith E) ss ss')
    (hsits : ∀ {e e'}, E e e' → Sits P R c e e') :
    R (ss.forM (checkStmt c)) (ss'.forM (checkStmt c)) := by
  induction h with
  | here h hrest => exact hR.before (hR.stmt h hsits) fun _ => stmts_mirrors hP hrest
  | there h _ ih => exact hR.after (Mirrors.spreads.stmt h (sits_of_alike hP)) fun _ => ih

/-- Parameters that are the same up to identities are bound in the same way. -/
private theorem bindAll_congr {ps ps' : List Param}
    (h : ps'.map Param.unnumbered = ps.map Param.unnumbered) (types : List Ty) :
    (ps'.zip types).forM (fun (p, t) => bindPattern p.pattern (some t))
      = (ps.zip types).forM fun (p, t) => bindPattern p.pattern (some t) := by
  induction ps generalizing ps' types with
  | nil =>
    obtain rfl := List.map_eq_nil_iff.mp h
    rfl
  | cons p ps ih =>
    obtain ⟨p', ps'', rfl, hp, hps⟩ := List.map_eq_cons_iff.mp h
    cases types with
    | nil => rfl
    | cons t types =>
      have hpattern : p'.pattern.unnumbered = p.pattern.unnumbered := congrArg Param.pattern hp
      change (bindPattern p'.pattern (some t) >>= fun _ => _) = bindPattern p.pattern (some t) >>= _
      rw [bindPattern_congr hpattern]
      exact bind_congr fun _ => ih hps types

/-- The inside of a body, whose parameters have the given types. -/
def bodyInside (c : Context) (f : Function) (types : List Ty) : Check Unit := do
  (f.params.zip types).forM fun (p, t) => bindPattern p.pattern (some t)
  f.body.stmts.forM (checkStmt c)

theorem checkBody_eq (f : Function) (type : Ty) :
    checkBody c f type = (do
      let types ← type.fnParams
      inScope (bodyInside c f types)) := rfl

theorem Spreads.bodyInside (hR : Spreads P R) {f f' : Function}
    (hparams : f'.params.map Param.unnumbered = f.params.map Param.unnumbered)
    (h : R (f.body.stmts.forM (checkStmt c)) (f'.body.stmts.forM (checkStmt c))) (types : List Ty) :
    R (bodyInside c f types) (bodyInside c f' types) := by
  -- binding looks at no identity
  have hbind (l : List (Param × Ty)) :
      Mirrors P (l.forM fun (p, t) => bindPattern p.pattern (some t))
        (l.forM fun (p, t) => bindPattern p.pattern (some t)) := by
    induction l with
    | nil => exact .pure ()
    | cons a l ih => exact (bindPattern_mirrors _ _).bind fun _ => ih
  unfold Typing.bodyInside
  rw [bindAll_congr hparams]
  exact hR.after (hbind _) fun _ => h

theorem Spreads.body (hR : Spreads P R) {f f' : Function}
    (hparams : f'.params.map Param.unnumbered = f.params.map Param.unnumbered)
    (h : R (f.body.stmts.forM (checkStmt c)) (f'.body.stmts.forM (checkStmt c))) (type : Ty) :
    R (checkBody c f type) (checkBody c f' type) := by
  rw [checkBody_eq, checkBody_eq]
  exact hR.after (.lift _) fun types => hR.scope (hR.bodyInside hparams h types)

end

/-! ### The bodies of a program -/

variable {file : Option String} {names : StructNames} {d : Declared}

/-- The function of a body, not yet numbered. -/
def Body.lowered (file : Option String) (b : Body) : Function :=
  lowerFunction { file := file } b.function b.stmts

/-- The type of a body's function, and what `Self` means in it. -/
def Body.signature (b : Body) : Ty × Option Ty := (b.type, b.selfType)

/-- Checks functions one after the other. -/
def checkEach (file : Option String) (names : StructNames) (d : Declared) :
    List Function → List (Ty × Option Ty) → Check Unit
  | f :: fs, (type, selfType) :: rest => do
    checkBody (contextOf file names d selfType) f type
    checkEach file names d fs rest
  | _, _ => return ()

/-- The context of a body is made of the declarations, and not of other bodies. -/
theorem contextOf_congr {d' : Declared} (hregistry : d'.registry = d.registry)
    (htargets : d'.targets = d.targets) (selfType : Option Ty) :
    contextOf file names d' selfType = contextOf file names d selfType := by
  rw [contextOf, contextOf, hregistry, htargets]

theorem checkEach_congr {d' : Declared} (hregistry : d'.registry = d.registry)
    (htargets : d'.targets = d.targets) (fs : List Function) (signatures : List (Ty × Option Ty)) :
    checkEach file names d' fs signatures = checkEach file names d fs signatures := by
  induction fs generalizing signatures with
  | nil => cases signatures <;> rfl
  | cons f fs ih =>
    cases signatures with
    | nil => rfl
    | cons signature signatures =>
      rw [checkEach, checkEach, contextOf_congr hregistry htargets, ih]

/-- **The bodies of a program** are numbered, and then checked one after the other. -/
theorem checkBodies_iff (bodies : List Body) {next : NodeId} {fs : List Function} :
    Gives (checkBodies file names d next bodies) s fs s' ↔
      fs = Function.numberAll next (bodies.map (Body.lowered file)) ∧
        Gives (checkEach file names d fs (bodies.map Body.signature)) s () s' := by
  induction bodies generalizing next fs s with
  | nil =>
    rw [checkBodies, gives_pure]
    constructor
    · rintro ⟨rfl, rfl⟩
      exact ⟨rfl, gives_pure.mpr ⟨rfl, rfl⟩⟩
    · rintro ⟨rfl, h⟩
      exact ⟨rfl, (gives_pure.mp h).2⟩
  | cons b bodies ih =>
    rw [checkBodies, gives_bind]
    constructor
    -- the first body is checked, and the others are numbered from where it ended
    · rintro ⟨_, s₁, h₁, h⟩
      obtain ⟨rest, h₂, rfl⟩ := gives_bind_pure.mp h
      obtain ⟨rfl, h₂⟩ := ih.mp h₂
      exact ⟨rfl, gives_bind.mpr ⟨(), s₁, h₁, h₂⟩⟩
    · rintro ⟨rfl, h⟩
      obtain ⟨_, s₁, h₁, h₂⟩ := gives_bind.mp h
      exact ⟨(), s₁, h₁, gives_bind.mpr ⟨_, s', ih.mpr ⟨rfl, h₂⟩, gives_pure.mpr ⟨rfl, rfl⟩⟩⟩

theorem checkEach_mirrors (hP : OneToOne P) {fs fs' : List Function}
    (h : List.Forall₂ (AlikeFunction P) fs fs') (signatures : List (Ty × Option Ty)) :
    Mirrors P (checkEach file names d fs signatures) (checkEach file names d fs' signatures) := by
  induction h generalizing signatures with
  | nil => exact .pure ()
  | cons h _ ih =>
    cases signatures with
    | nil => exact .pure ()
    | cons signature signatures =>
      exact (Mirrors.spreads.body h.params (stmts_mirrors hP h.stmts) _).bind fun _ => ih _

/-- **Functions of which one holds the expression.** -/
theorem Spreads.each {R : {α : Type} → Check α → Check α → Prop} {E : Expr → Expr → Prop}
    (hR : Spreads P R) (hP : OneToOne P) {fs fs' : List Function}
    (h : OneOff (AlikeFunction P) (FunctionWith P E) fs fs') {signatures : List (Ty × Option Ty)}
    (hlength : signatures.length = fs.length)
    (hsits : ∀ f f' signature, (f, signature) ∈ fs.zip signatures → FunctionWith P E f f' →
      ∀ {e e'}, E e e' → Sits P R (contextOf file names d signature.2) e e') :
    R (checkEach file names d fs signatures) (checkEach file names d fs' signatures) := by
  induction h generalizing signatures with
  -- this function holds the expression, and those behind it are alike
  | here h hrest =>
    obtain ⟨signature, signatures, rfl⟩ := List.exists_cons_of_length_eq_add_one hlength
    have hbody := hR.stmts hP h.stmts (hsits _ _ signature List.mem_cons_self h)
    exact hR.before (hR.body h.params hbody _) fun _ => checkEach_mirrors hP hrest _
  -- a function in front of it is mirrored
  | there h _ ih =>
    obtain ⟨signature, signatures, rfl⟩ := List.exists_cons_of_length_eq_add_one hlength
    exact hR.after (Mirrors.spreads.body h.params (stmts_mirrors hP h.stmts) _) fun _ =>
      ih (Nat.succ.inj hlength) fun f f' signature hmem =>
        hsits f f' signature (List.mem_cons_of_mem _ hmem)

end ClosureLint.Typing
