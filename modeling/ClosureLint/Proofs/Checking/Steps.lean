import ClosureLint.Proofs.Outcome
import ClosureLint.Typing.Program

/-!
# What checking an expression consists of

The checker decides on a type first and files it afterwards. Each form of expression has its own
way to decide, given here as a step of its own.

* `filed` — a step whose answer is filed as the type of a node.
* `callRest`, `methodRest`, `resolvedRest`, `closureInside` — what follows once the parts that come
  first are checked.
* `unfiled`, `checkExpr_eq_filed` — what each form does before its answer is filed.
* `checkExpr_call`, `checkExpr_methodCall`, … — the checker, one equation for each form.
* `gives_filed`, `gives_inScope` — what a step gives whose answer is filed, or that has a scope of its
  own.
-/

namespace ClosureLint.Typing

open ClosureLint.Core
open ClosureLint.Syntax (Path TypeExpr)

variable {c : Context} {s s' : State}

/-- A step that answers a type, which is then filed under a node. -/
def filed (id : NodeId) (step : Check Ty) : Check Ty := do
  let type ← step
  setType id type
  return type

/-- The arguments of a call, and its type, when what is called has type `type`. -/
def callRest (c : Context) (node : Node) (callee : Expr) (args : List Expr) (type : Ty) :
    Check Ty := do
  if type.kind = .function then
    let params ← type.fnParams
    let ret ← type.fnRet
    checkArgs c args (← expectedArgs "function" node args.length params)
    return ret
  else
    if type.kind ≠ .unknown then report (.notCallable (← type.text)) callee.span
    checkArgs c args []
    return .unknown

/-- The arguments of a method call, and its type, when the method is known. -/
def resolvedRest (c : Context) (node : Node) (receiver : Expr) (args : List Expr)
    (r : Resolution) : Check Ty := do
  setMethod node.id r
  if r.receiverAdjusted then setAdjusted receiver.id
  let fnType := r.decl.type.substSelf r.step
  let params ← fnType.fnParams
  let ret ← fnType.fnRet
  checkArgs c args (← expectedArgs "method" node args.length (params.drop 1))
  return ret

/-- The arguments of a method call, and its type, when the receiver has type `type`. -/
def methodRest (c : Context) (node : Node) (receiver : Expr) (method : String) (args : List Expr)
    (type : Ty) : Check Ty := do
  if type.kind = .unknown then
    checkArgs c args []
    return .unknown
  else
    match c.registry.resolveMethod c.targets type method with
    | .error (.fault f) => throw f
    | .error (.refused e) =>
      report (.resolution e) node.span
      checkArgs c args []
      return .unknown
    | .ok r => resolvedRest c node receiver args r

/-- The meaning of a written type; where none is written, `otherwise`. -/
def writtenOr (c : Context) (written : Option TypeExpr) (otherwise : Option Ty) :
    Check (Option Ty) :=
  match written with
  | some t => do return some (← resolve c t)
  | none => return otherwise

/-- Accepts `e` where a type is expected; without an expectation anything is accepted. -/
def coerceTo (c : Context) (e : Expr) (actual : Ty) (expected : Option Ty) : Check Unit :=
  match expected with
  | some t => coerce c e actual t
  | none => return ()

/-- The inside of a closure, and the type of the closure. -/
def closureInside (c : Context) (params : List Param) (ret : Option TypeExpr) (body : Expr)
    (signature : Option (List Ty × Ty)) : Check Ty := do
  bindParams c params (((signature.map Prod.fst).getD []).map some)
  let retExpected ← writtenOr c ret (signature.map Prod.snd)
  let bodyType ← checkExpr c body retExpected
  coerceTo c body bodyType retExpected
  let paramTypes ← params.mapM (paramType c)
  return Ty.function paramTypes (retExpected.getD bodyType) false

/-! ### Answers that are filed, and scopes -/

/-- An answer is given first and filed then. -/
theorem gives_filed {t : Ty} {id : NodeId} {m : Check Ty} :
    Gives (filed id m) s t s' ↔ ∃ s₁, Gives m s t s₁ ∧ Gives (setType id t) s₁ () s' := by
  unfold filed
  rw [gives_bind]
  constructor
  · rintro ⟨_, s₁, h, hrest⟩
    obtain ⟨_, hset, rfl⟩ := gives_bind_pure.mp hrest
    exact ⟨s₁, h, hset⟩
  · rintro ⟨s₁, h, hset⟩
    exact ⟨t, s₁, h, gives_bind_pure.mpr ⟨(), hset, rfl⟩⟩

/-- A step with a scope of its own opens it before and drops it behind. -/
theorem gives_inScope {α : Type} {m : Check α} {a : α} :
    Gives (inScope m) s a s' ↔ ∃ s₁, Gives m { s with scopes := [] :: s.scopes } a s₁ ∧
      { s₁ with scopes := s₁.scopes.drop 1 } = s' := by
  unfold inScope
  rw [gives_modify_bind, gives_bind]
  constructor
  · rintro ⟨_, s₁, h, hdrop⟩
    have hpure := gives_modify_bind.mp hdrop
    obtain ⟨rfl, rfl⟩ := gives_pure.mp hpure
    exact ⟨s₁, h, rfl⟩
  · rintro ⟨s₁, h, rfl⟩
    exact ⟨a, s₁, h, gives_modify_bind.mpr (gives_pure.mpr ⟨rfl, rfl⟩)⟩

/-! ### The checker, form by form -/

section

variable (c : Context) (node : Node) (expected : Option Ty)

/-- What the check of an expression does before its answer is filed. -/
def unfiled : Expr → Check Ty
  | .path node segments => checkPath c node segments expected
  | .int .. => pure (intType expected)
  | .str .. => pure (Ty.ref .str)
  | .borrow _ isMut subject => do
    let inner ← checkExpr c subject (← expectedPointee expected)
    return Ty.ref inner isMut
  | .deref node subject => do
    let inner ← checkExpr c subject none
    derefType c node inner
  | .field _ subject _ => do
    let _ ← checkExpr c subject none
    return .unknown
  | .call node callee args => do
    let type ← checkExpr c callee none
    callRest c node callee args type
  | .methodCall node receiver method args => do
    let type ← checkExpr c receiver none
    methodRest c node receiver method args type
  | .closure _ params ret body => do
    let signature ← expectedSignature expected params.length
    inScope (closureInside c params ret body signature)

/-- **Every check ends by filing its answer.** -/
theorem checkExpr_eq_filed (e : Expr) :
    checkExpr c e expected = filed e.id (unfiled c expected e) := by
  cases e with
  | path | int | str => rfl
  | borrow | field => simp only [checkExpr, unfiled, filed, bind_assoc, pure_bind]
  | deref => simp only [checkExpr, unfiled, filed, bind_assoc]
  -- every branch ends in the same way, so the filing can be moved behind all of them
  | call node callee args =>
    simp only [checkExpr, unfiled, filed, bind_assoc]
    refine bind_congr fun type => ?_
    unfold callRest
    split
    · simp only [bind_assoc]
    · split <;> simp only [bind_assoc]
  | methodCall node receiver method args =>
    simp only [checkExpr, unfiled, filed, bind_assoc]
    refine bind_congr fun type => ?_
    unfold methodRest
    split
    · simp only [bind_assoc]
    · cases c.registry.resolveMethod c.targets type method with
      | error e =>
        cases e with
        | fault => rfl
        | refused => simp only [bind_assoc]
      | ok r =>
        simp only [resolvedRest, bind_assoc]
        -- the receiver may be adjusted on the way
        by_cases h : r.receiverAdjusted = true
        · simp only [if_pos h, bind_assoc]
        · simp only [if_neg h, bind_assoc]
  | closure node params ret body =>
    simp only [checkExpr, unfiled, filed, bind_assoc]
    refine bind_congr fun signature => ?_
    refine congrArg (inScope · >>= _) ?_
    simp only [closureInside, writtenOr, coerceTo]
    refine bind_congr fun _ => ?_
    cases ret with
    | none =>
      simp only [pure_bind]
      refine bind_congr fun bodyType => ?_
      cases signature.map Prod.snd <;> rfl
    | some t => simp only [bind_assoc, pure_bind]

/-- A path, -/
theorem checkExpr_path (segments : Path) :
    checkExpr c (.path node segments) expected
      = filed node.id (checkPath c node segments expected) :=
  checkExpr_eq_filed c expected (.path node segments)

/-- a string, -/
theorem checkExpr_str (value : List Nat) :
    checkExpr c (.str node value) expected = filed node.id (pure (Ty.ref .str)) :=
  checkExpr_eq_filed c expected (.str node value)

/-- a borrow, -/
theorem checkExpr_borrow (isMut : Bool) (subject : Expr) :
    checkExpr c (.borrow node isMut subject) expected = filed node.id (do
      let inner ← checkExpr c subject (← expectedPointee expected)
      return Ty.ref inner isMut) :=
  checkExpr_eq_filed c expected (.borrow node isMut subject)

/-- a dereference, -/
theorem checkExpr_deref (subject : Expr) :
    checkExpr c (.deref node subject) expected = filed node.id (do
      let inner ← checkExpr c subject none
      derefType c node inner) :=
  checkExpr_eq_filed c expected (.deref node subject)

/-- a field, which has no known type, -/
theorem checkExpr_field (subject : Expr) (name : String) :
    checkExpr c (.field node subject name) expected = filed node.id (do
      let _ ← checkExpr c subject none
      return .unknown) :=
  checkExpr_eq_filed c expected (.field node subject name)

/-- a call, -/
theorem checkExpr_call (callee : Expr) (args : List Expr) :
    checkExpr c (.call node callee args) expected = filed node.id (do
      let type ← checkExpr c callee none
      callRest c node callee args type) :=
  checkExpr_eq_filed c expected (.call node callee args)

/-- a method call, -/
theorem checkExpr_methodCall (receiver : Expr) (method : String) (args : List Expr) :
    checkExpr c (.methodCall node receiver method args) expected = filed node.id (do
      let type ← checkExpr c receiver none
      methodRest c node receiver method args type) :=
  checkExpr_eq_filed c expected (.methodCall node receiver method args)

/-- and a closure. -/
theorem checkExpr_closure (params : List Param) (ret : Option TypeExpr) (body : Expr) :
    checkExpr c (.closure node params ret body) expected = filed node.id (do
      let signature ← expectedSignature expected params.length
      inScope (closureInside c params ret body signature)) :=
  checkExpr_eq_filed c expected (.closure node params ret body)

/-- Arguments are checked one by one, each against what is expected of it. -/
theorem checkArgs_cons (e : Expr) (es : List Expr) (expected : List (Option Ty)) :
    checkArgs c (e :: es) expected = (do
      let type ← checkExpr c e (expected.head?.getD none)
      coerceTo c e type (expected.head?.getD none)
      checkArgs c es expected.tail) := by
  simp only [checkArgs, coerceTo]
  refine bind_congr fun type => ?_
  cases expected.head?.getD none <;> rfl

/-- Parameters are bound one by one. -/
theorem bindParams_cons (p : Param) (ps : List Param) (expected : List (Option Ty)) :
    bindParams c (p :: ps) expected = (do
      let type ← writtenOr c p.declared (expected.head?.getD none)
      bindPattern p.pattern type
      bindParams c ps expected.tail) := by
  rw [bindParams]
  cases p.declared with
  | none => simp only [writtenOr, pure_bind]
  | some t => simp only [writtenOr, bind_assoc, pure_bind]

/-- The value of a `let` is checked against the written type before its names are bound. -/
theorem checkStmt_letStmt (pattern : Pattern) (declared : Option TypeExpr) (value : Expr) :
    checkStmt c (.letStmt node pattern declared value) = (do
      let expected ← writtenOr c declared none
      let type ← checkExpr c value expected
      coerceTo c value type expected
      bindPattern pattern (some (expected.getD type))) := by
  cases declared with
  | none => simp only [checkStmt, writtenOr, coerceTo, pure_bind]
  | some t => simp only [checkStmt, writtenOr, coerceTo, bind_assoc, pure_bind]

end

end ClosureLint.Typing
