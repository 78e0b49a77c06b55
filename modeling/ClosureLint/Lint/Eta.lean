import ClosureLint.Lint.Level
import ClosureLint.Ty.Match
import ClosureLint.Typing.Tables

/-!
# Redundant closures

A closure that hands its parameters on to a call, each once and in order, can be replaced by what
is called: `|a| foo(a)` by `foo`, and `|x, y| x.bar(y)` by a path such as `Type::bar`.

* `forwards` — the parameters are handed on by name, in order.
* `checkCall`, `checkMethodCall`, `checkClosure` — the closures found redundant, with the text to
  put in their place.
* `qualifiedName?` — the path prefix under which a method can be named.
* `checkPlace` — the diagnostics for the closures that stand as arguments of a call.
-/

namespace ClosureLint.Eta

open ClosureLint.Core (Expr Param Node)

/-- A closure found redundant. The replacement is missing when the source text is. -/
structure Finding where
  replacement : Option String
deriving DecidableEq, Repr, Inhabited

/-- Whether a parameter is a simple binding, and `arg` the local it binds. -/
def forwardsOne (p : Param) (arg : Expr) : Bool :=
  match p.pattern, arg with
  | .binding _ _ name, .path _ [segment] => segment == name
  | _, _ => false

/-- Whether every parameter is handed on as the argument at its place. The longer list's surplus is
not looked at. -/
def forwards (params : List Param) (args : List Expr) : Bool :=
  (params.zip args).all fun (p, a) => forwardsOne p a

/-- The finding for `|params| callee(args)`. -/
def checkCall (q : Query) (params : List Param) (call callee : Expr) (args : List Expr) :
    Option Finding :=
  if args.length ≠ params.length then none
  -- what the closure coerces would not be coerced without it
  else if q.isAdjusted call || args.any q.isAdjusted then none
  else if (q.typeOf callee).isUnsafeFn then none
  else if !forwards params args then none
  else some ⟨q.text? callee⟩

/-- The path prefix of a method whose declared receiver type is `expected`, called on a receiver of
type `actual`. For a trait's method it is enough that the receiver is borrowed as deeply as the
declaration says; for another one the types need the same shape, because a receiver reached by
dereferencing would be named by the wrong type. -/
def qualifiedName? (expected actual : Ty) (traitPath : Option String) (isInherent : Bool) :
    Except Fault (Option String) := do
  match traitPath with
  | some path => if ← expected.sameBorrowDepth actual then return some path
  | none => pure ()
  if isInherent then
    if ← expected.sameShape actual then return some (← actual.displayName)
  return none

/-- The path prefix of the method that `call` means, when it is called on `receiver`. -/
def methodOwner? (q : Query) (d : Decl) (call receiver : Expr) :
    Except Fault (Option String) := do
  match ← q.signature? call with
  | none => return none
  | some (expected, _) =>
    qualifiedName? expected (q.typeOf receiver) d.traitPath? d.isInherent

/-- The finding for `|params| receiver.method(args)`. Whether the receiver is adjusted does not
matter, because `methodOwner?` compares its type. -/
def checkMethodCall (q : Query) (params : List Param) (call receiver : Expr) (method : String)
    (args : List Expr) : Except Fault (Option Finding) := do
  if (receiver :: args).length ≠ params.length then return none
  if q.isAdjusted call || args.any q.isAdjusted then return none
  match q.method? call with
  | none => return none
  | some d =>
    if d.type.isUnsafeFn then return none
    if !forwards params (receiver :: args) then return none
    match ← methodOwner? q d call receiver with
    | none => return none
    | some owner => return some ⟨some (owner ++ "::" ++ method)⟩

/-- The finding for an expression, if it is a redundant closure. -/
def checkClosure (q : Query) (e : Expr) : Except Fault (Option Finding) :=
  match e with
  | .closure _ params _ body =>
    match body with
    | .call _ callee args => return checkCall q params body callee args
    | .methodCall _ receiver method args => checkMethodCall q params body receiver method args
    | _ => return none
  | _ => return none

/-- The diagnostic for a finding at `span`. -/
def Finding.diagnostic (f : Finding) (l : Lint) (level : Level) (span : Span) : Diagnostic where
  message := l.message
  code := some l.name
  phase := some "lint"
  severity := level.severity
  span := span
  notes := ["`" ++ l.name ++ "` is set to `" ++ level.word ++ "`"]
  suggestions :=
    (f.replacement.map fun text => ⟨l.suggestion, text, span, l.applicability⟩).toList

/-- The expressions whose closures a place is responsible for: the arguments of a call, and the
receiver too where there is one. -/
def candidates : Expr → List Expr
  | .call _ _ args => args
  | .methodCall _ receiver _ args => receiver :: args
  | _ => []

/-- The diagnostics for the arguments of `e`. Code that came out of a macro is left alone. -/
def checkPlace (config : Config) (q : Query) (e : Expr) : Except Fault (List Diagnostic) := do
  if !config.isEnabled redundantClosure || e.span.fromMacro then return []
  -- the candidates may come out of a macro themselves
  let findings ← (candidates e).mapM fun arg => do
    return (← checkClosure q arg).map fun f =>
      f.diagnostic redundantClosure (config.level redundantClosure) arg.span
  return findings.filterMap id

end ClosureLint.Eta
