import ClosureLint.Core.Walk
import ClosureLint.Typing.Tables
import ClosureLint.Typing.TypeExpr

/-!
# Checking a body

Every expression of a body gets a type, given the type that its place expects. Where the two
differ, a coercion may bridge the gap; it is recorded, and anything else is reported. A closure
parameter without a written type gets its type from the type the closure is expected to have, or
else from the first place that uses it and expects a type.

* `Context` — what is the same for a whole body.
* `State` — the scopes, the results so far, and the diagnostics so far.
* `coerce` — whether a type fits where another is expected.
* `checkExpr`, `checkStmt`, `checkBody` — the checker.
-/

namespace ClosureLint.Typing

open ClosureLint.Core
open ClosureLint.Syntax (Path TypeExpr)

/-- What is the same for a whole body. -/
structure Context where
  scope : TypeScope
  registry : Registry
  targets : DerefTable
deriving Repr, Inhabited

/-- The locals of one scope, latest first. A local whose type is not decided yet has none. -/
abbrev Scope := List (String × Option Ty)

/-- The scopes, innermost first, the results and the diagnostics. -/
structure State where
  scopes : List Scope := []
  tables : Tables := {}
  diagnostics : List Diagnostic := []
deriving Repr, Inhabited

/-- A step of checking. -/
abbrev Check := StateT State (Except Fault)

/-! ### Scopes -/

/-- The local that `name` means: the latest of the innermost scope that has one. -/
def lookupLocal (scopes : List Scope) (name : String) : Option (Option Ty) :=
  scopes.findSome? fun s => s.lookup name

/-- The scope with `type` as the type of the latest local `name`. -/
def decideIn (name : String) (type : Ty) : Scope → Scope
  | [] => []
  | l :: ls => if l.1 = name then (name, some type) :: ls else l :: decideIn name type ls

/-- The scopes with `type` as the type of the local that `name` means. -/
def decideLocal (name : String) (type : Ty) : List Scope → List Scope
  | [] => []
  | s :: ss =>
    if (s.lookup name).isSome then decideIn name type s :: ss else s :: decideLocal name type ss

/-- Binds `name` in the innermost scope. -/
def bindIn (name : String) (type : Option Ty) : List Scope → List Scope
  | [] => [[(name, type)]]
  | s :: ss => ((name, type) :: s) :: ss

/-! ### Steps -/

/-- Reports a problem. -/
def report (p : Problem) (span : Span) : Check Unit :=
  modify fun s => { s with diagnostics := s.diagnostics ++ [p.diagnostic span] }

/-- The meaning of a written type, its diagnostics reported. -/
def resolve (c : Context) (t : TypeExpr) : Check Ty := do
  let (type, ds) := resolveType c.scope t
  modify fun s => { s with diagnostics := s.diagnostics ++ ds }
  return type

/-- Files the type of a node. -/
def setType (id : NodeId) (type : Ty) : Check Unit :=
  modify fun s => { s with tables := { s.tables with types := (id, type) :: s.tables.types } }

/-- Marks a node as adjusted. -/
def setAdjusted (id : NodeId) : Check Unit :=
  modify fun s => { s with tables := { s.tables with adjusted := id :: s.tables.adjusted } }

/-- Files what a method call means. -/
def setMethod (id : NodeId) (r : Resolution) : Check Unit :=
  modify fun s => { s with tables := { s.tables with methods := (id, r) :: s.tables.methods } }

/-- Files what a path means. -/
def setPath (id : NodeId) (d : Decl) : Check Unit :=
  modify fun s => { s with tables := { s.tables with paths := (id, d) :: s.tables.paths } }

/-- Binds a name. -/
def bindName (name : String) (type : Option Ty) : Check Unit :=
  modify fun s => { s with scopes := bindIn name type s.scopes }

/-- Runs a step in a scope of its own. -/
def inScope {α : Type} (step : Check α) : Check α := do
  modify fun s => { s with scopes := [] :: s.scopes }
  let a ← step
  modify fun s => { s with scopes := s.scopes.drop 1 }
  return a

/-! ### Patterns -/

/-- The types of a tuple pattern's `n` parts, when the whole has type `type`. Types that say nothing
about the parts give none. -/
def tupleParts (type : Option Ty) (n : Nat) : Option (List Ty) :=
  match type with
  | some t => if t.kind = .tuple ∧ t.params.length = n then some t.params else none
  | none => none

/-- Reports a tuple pattern where the type is known and no tuple. -/
def reportNotTuple (type : Option Ty) (span : Span) : Check Unit :=
  match type with
  | some t =>
    -- a tuple of another length is not reported
    if t.kind = .unknown ∨ t.kind = .tuple then return ()
    else do report (.notTuple (← t.text)) span
  | none => return ()

/-- The type below a reference pattern. -/
def pointee (type : Option Ty) : Except Fault Ty :=
  match type with
  | some t => if t.kind = .ref then Ty.firstPart t.params else return .unknown
  | none => return .unknown

mutual

/-- Binds the names of a pattern that stands for a value of type `type`. -/
def bindPattern : Pattern → Option Ty → Check Unit
  | .binding _ _ name, type => bindName name type
  | .tuple node elems, type => do
    match tupleParts type elems.length with
    | some types => bindPatterns elems types
    | none =>
      reportNotTuple type node.span
      -- the names in it are bound all the same
      bindPatterns elems []
  | .ref _ inner, type => do bindPattern inner (some (← pointee type))
  | .wildcard _, _ => return ()

/-- Binds the names of several patterns. Where types run out, the rest is unknown. -/
def bindPatterns : List Pattern → List Ty → Check Unit
  | [], _ => return ()
  | p :: ps, [] => do
    bindPattern p (some .unknown)
    bindPatterns ps []
  | p :: ps, t :: ts => do
    bindPattern p (some t)
    bindPatterns ps ts

end

/-! ### Coercions -/

/-- Whether a reference of type `actual` may be used where `expected` is needed: a mutable one as a
shared one, an array as a slice, and a struct as what it dereferences to. -/
def isRefCoercion (targets : DerefTable) (actual expected : Ty) : Except Fault Bool := do
  if actual.kind ≠ .ref ∨ expected.kind ≠ .ref then return false
  if expected.isMut && !actual.isMut then return false
  let from_ ← Ty.firstPart actual.params
  let to_ ← Ty.firstPart expected.params
  -- only the flags differ
  if from_ = to_ then return true
  if from_.kind = .array ∧ to_.kind = .slice then
    if (← Ty.firstPart from_.params) = (← Ty.firstPart to_.params) then return true
  -- the chain begins with the type itself
  return ((← from_.derefChain targets).drop 1).contains to_

/-- How a type fits where another is expected. -/
inductive Fit where
  | exact
  | adjusted
  | mismatch
deriving DecidableEq, Repr, Inhabited

/-- How a value of type `actual` fits where `expected` is needed. Unknown types and parameters fit
everywhere; a function fits where one with as many parameters is expected, unless it is unsafe and
the other is not. -/
def fit (targets : DerefTable) (actual expected : Ty) : Except Fault Fit := do
  if expected.isLenient || actual.isLenient || actual == expected then return .exact
  if ← isRefCoercion targets actual expected then return .adjusted
  if actual.kind = .function ∧ expected.kind = .function then
    -- the types of the parameters and the result do not count
    if (← actual.fnParams).length = (← expected.fnParams).length
        ∧ (expected.isUnsafe || !actual.isUnsafe) then
      return if actual.isUnsafe = expected.isUnsafe then .exact else .adjusted
  return .mismatch

/-- Accepts `e`, of type `actual`, where `expected` is needed, or reports it. -/
def coerce (c : Context) (e : Expr) (actual expected : Ty) : Check Unit := do
  match ← fit c.targets actual expected with
  | .exact => return ()
  | .adjusted => setAdjusted e.id
  | .mismatch => do report (.mismatch (← expected.text) (← actual.text)) e.span

/-! ### Paths -/

/-- The type that a single name in front of an item names: `Self`, or a built-in type. -/
def builtInOwner? (selfType : Option Ty) : Path → Option Ty
  | [name] =>
    match if name = "Self" then selfType else none with
    | some t => some t
    | none => Ty.primitive? name
  | _ => none

/-- The type that the path in front of an item names: `Self`, a built-in type, or a struct. -/
def ownerType? (c : Context) (owner : Path) : Option Ty :=
  match builtInOwner? c.scope.selfType owner with
  | some t => some t
  | none => (c.scope.names.find? owner).map fun full => .nominal full

/-- A path of several segments: an item of the type or trait that all but the last of them name. -/
def checkAssociated (c : Context) (node : Node) (segments : Path) : Check Ty := do
  let front := segments.dropLast
  let owner := ownerType? c front
  -- a type hides a trait of that name
  let traitPath := if owner.isSome then none else c.registry.findTrait? front
  if owner.isNone && traitPath.isNone then
    report (.unknownPrefix (Path.text front)) node.span
    return .unknown
  match c.registry.resolveAssociated owner traitPath (Path.last segments) with
  | .ok d =>
    setPath node.id d
    return match owner with
      | some t => d.type.substSelf t
      | none => d.type
  | .error (.refused e) =>
    report (.resolution e) node.span
    return .unknown
  | .error (.fault f) => throw f

/-- A path that is no local: a function, or an item of a type or trait. -/
def checkGlobal (c : Context) (node : Node) (segments : Path) : Check Ty := do
  match c.registry.getFree? (Path.text segments) with
  | some d =>
    setPath node.id d
    return d.type
  | none =>
    if segments.length = 1 then
      report (.unknownValue (Path.text segments)) node.span
      return .unknown
    else checkAssociated c node segments

/-- A local whose type is not decided yet takes the type its place expects. -/
def decideType (node : Node) (name : String) (expected : Option Ty) : Check Ty := do
  match expected.filter fun t => t.kind ≠ .unknown with
  | some t =>
    modify fun s => { s with scopes := decideLocal name t s.scopes }
    return t
  | none =>
    report (.needsType name) node.span
    -- so that it is reported once
    modify fun s => { s with scopes := decideLocal name .unknown s.scopes }
    return .unknown

/-- A path. -/
def checkPath (c : Context) (node : Node) (segments : Path) (expected : Option Ty) : Check Ty := do
  match segments with
  | [name] =>
    match lookupLocal (← get).scopes name with
    | some (some t) => return t
    | some none => decideType node name expected
    | none => checkGlobal c node segments
  | _ => checkGlobal c node segments

/-! ### Expressions -/

/-- The type of an integer literal: the one expected if that is an integer type, else `i32`. -/
def intType (expected : Option Ty) : Ty :=
  (expected.filter fun t => t.kind = .int ∨ t.kind = .uint).getD (.int "i32")

/-- What is expected below a borrow. -/
def expectedPointee (expected : Option Ty) : Except Fault (Option Ty) :=
  match expected with
  | some t => if t.kind = .ref then do return some (← Ty.firstPart t.params) else return none
  | none => return none

/-- The type of `*e` for `e` of type `type`. -/
def derefType (c : Context) (node : Node) (type : Ty) : Check Ty := do
  match ← type.deref? c.targets with
  | some t => return t
  | none =>
    if type.kind ≠ .unknown then report (.notDereferenceable (← type.text)) node.span
    return .unknown

/-- What the arguments of a call are expected to be: the parameters, or nothing when there are not
as many, which is reported. -/
def expectedArgs (callable : String) (node : Node) (given : Nat) (params : List Ty) :
    Check (List (Option Ty)) := do
  if given = params.length then return params.map some
  report (.wrongArity callable params.length given) node.span
  return List.replicate given none

/-- What a closure of `n` parameters is expected to be, from the type its place expects. -/
def expectedSignature (expected : Option Ty) (n : Nat) : Except Fault (Option (List Ty × Ty)) := do
  match expected.filter fun t => t.kind = .function with
  | none => return none
  | some t =>
    let params ← t.fnParams
    if params.length = n then return some (params, ← t.fnRet) else return none

/-- Binds closure parameters: to their written types, else to the expected ones. -/
def bindParams (c : Context) : List Param → List (Option Ty) → Check Unit
  | [], _ => return ()
  | p :: ps, expected => do
    let type ←
      match p.declared with
      | some t => pure (some (← resolve c t))
      | none => pure (expected.head?.getD none)
    bindPattern p.pattern type
    bindParams c ps expected.tail

/-- The type that a binding has been decided to have. -/
def decidedType? (scopes : List Scope) : Pattern → Option Ty
  | .binding _ _ name => (lookupLocal scopes name).getD none
  | _ => none

/-- The type of a closure parameter once the body is checked. -/
def paramType (c : Context) (p : Param) : Check Ty := do
  match decidedType? (← get).scopes p.pattern, p.declared with
  | some t, _ => return t
  | none, some t => resolve c t
  | none, none => return .unknown

mutual

/-- Checks an expression where `expected` is expected, and files its type. -/
def checkExpr (c : Context) (e : Expr) (expected : Option Ty) : Check Ty := do
  let type ←
    match e with
    | .int .. => pure (intType expected)
    | .str .. => pure (Ty.ref .str)
    | .path node segments => checkPath c node segments expected
    | .borrow _ isMut subject => do
      let inner ← checkExpr c subject (← expectedPointee expected)
      pure (Ty.ref inner isMut)
    | .deref node subject => do
      let inner ← checkExpr c subject none
      derefType c node inner
    -- structs declare no fields, so that nothing is known of their types
    | .field _ subject _ => do
      let _ ← checkExpr c subject none
      pure .unknown
    | .call node callee args => do
      let type ← checkExpr c callee none
      if type.kind = .function then do
        let params ← type.fnParams
        let ret ← type.fnRet
        checkArgs c args (← expectedArgs "function" node args.length params)
        pure ret
      else do
        -- where an unknown type comes from something was reported
        if type.kind ≠ .unknown then report (.notCallable (← type.text)) callee.span
        checkArgs c args []
        pure .unknown
    | .methodCall node receiver method args => do
      let type ← checkExpr c receiver none
      if type.kind = .unknown then do
        checkArgs c args []
        pure .unknown
      else
        match c.registry.resolveMethod c.targets type method with
        | .error (.fault f) => throw f
        | .error (.refused e) => do
          report (.resolution e) node.span
          checkArgs c args []
          pure .unknown
        | .ok r => do
          setMethod node.id r
          -- the receiver is coerced by the search, not as an argument
          if r.receiverAdjusted then setAdjusted receiver.id
          let fnType := r.decl.type.substSelf r.step
          let params ← fnType.fnParams
          let ret ← fnType.fnRet
          checkArgs c args (← expectedArgs "method" node args.length (params.drop 1))
          pure ret
    | .closure _ params ret body => do
      let signature ← expectedSignature expected params.length
      inScope do
        bindParams c params (((signature.map Prod.fst).getD []).map some)
        let retExpected ←
          match ret with
          | some t => pure (some (← resolve c t))
          | none => pure (signature.map Prod.snd)
        let bodyType ← checkExpr c body retExpected
        match retExpected with
        | some t => coerce c body bodyType t
        | none => pure ()
        -- the body may have decided on types that were left open
        let paramTypes ← params.mapM (paramType c)
        pure (Ty.function paramTypes (retExpected.getD bodyType) false)
  setType e.id type
  return type

/-- Checks arguments against what is expected of them; where expectations run out, anything
fits. -/
def checkArgs (c : Context) : List Expr → List (Option Ty) → Check Unit
  | [], _ => return ()
  | e :: es, expected => do
    let type ← checkExpr c e (expected.head?.getD none)
    match expected.head?.getD none with
    | some t => coerce c e type t
    | none => pure ()
    checkArgs c es expected.tail

end

/-! ### Statements and bodies -/

/-- Checks a statement. -/
def checkStmt (c : Context) : Stmt → Check Unit
  | .letStmt _ pattern declared value => do
    let expected ←
      match declared with
      | some t => pure (some (← resolve c t))
      | none => pure none
    let type ← checkExpr c value expected
    match expected with
    | some t => coerce c value type t
    | none => pure ()
    bindPattern pattern (some (expected.getD type))
  | .exprStmt _ e => do
    let _ ← checkExpr c e none

/-- Checks a function with a body, whose type is `type`. -/
def checkBody (c : Context) (f : Function) (type : Ty) : Check Unit := do
  let params ← type.fnParams
  inScope do
    (f.params.zip params).forM fun (p, t) => bindPattern p.pattern (some t)
    f.body.stmts.forM (checkStmt c)

end ClosureLint.Typing
