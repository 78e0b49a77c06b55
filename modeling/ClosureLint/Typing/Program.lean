import ClosureLint.Core.Lower
import ClosureLint.Text.Quoted
import ClosureLint.Typing.Body

/-!
# Checking a program

Declarations come first: structs and what they dereference to, then traits, impls and functions.
They fill the registry and give the list of bodies to check, which are then lowered and checked one
after the other.

* `Declared` — what the declarations give.
* `declare` — goes through all declarations of a program.
* `Checked` — bodies, results and diagnostics of a program.
* `check` — declares, lowers and checks.
-/

namespace ClosureLint.Typing

open ClosureLint.Syntax
  (FunctionDef ImplDef Program Receiver ReceiverForm Stmt StructDef TraitDef TypeExpr Path)

/-- What ends the checking of a program: a malformed type, or a receiver that no reading gives. -/
inductive CheckFault where
  | type (f : Fault)
  | receiverOutsideImpl (path : String)
  | unsupportedReceiver (form path : String)
deriving DecidableEq, Repr, Inhabited

/-- The wording of a fault of checking. -/
def CheckFault.message : CheckFault → String
  | .type f => f.message
  | .receiverOutsideImpl path => "`self` receiver on '" ++ path ++ "' outside a trait or impl"
  | .unsupportedReceiver form path =>
    "unsupported `self` receiver " ++ Text.quoted form ++ " on '" ++ path ++ "'"

/-- A malformed type ends the checking of a program. -/
instance : MonadLift (Except Fault) (Except CheckFault) where
  monadLift := Except.mapError .type

/-- A body to check: the function, its statements, its type, and what `Self` means in it. -/
structure Body where
  function : FunctionDef
  stmts : List Stmt
  type : Ty
  selfType : Option Ty
deriving Repr, Inhabited

/-- What the declarations give. -/
structure Declared where
  registry : Registry := {}
  targets : DerefTable := []
  bodies : List Body := []
  diagnostics : List Diagnostic := []
deriving Repr, Inhabited

/-- A step of going through declarations. -/
abbrev Declare := StateT Declared (Except CheckFault)

/-- Reports a problem with the declaration at `l`. -/
def reportAt (file : Option String) (p : Problem) (l : Loc) : Declare Unit :=
  modify fun s => { s with diagnostics := s.diagnostics ++ [p.diagnostic (spanIn file l)] }

/-- The meaning of a written type, its diagnostics reported. -/
def declareType (scope : TypeScope) (t : TypeExpr) : Declare Ty := do
  let (type, ds) := resolveType scope t
  modify fun s => { s with diagnostics := s.diagnostics ++ ds }
  return type

/-- The meanings of several written types. -/
def declareTypes (scope : TypeScope) (ts : List TypeExpr) : Declare (List Ty) :=
  ts.mapM (declareType scope)

/-- Makes a registration. A refusal is reported at `l`, and answered with `none`. -/
def register {α : Type} (file : Option String) (l : Loc)
    (step : Registry → Except (Failure RegistryError) (α × Registry)) : Declare (Option α) := do
  match step (← get).registry with
  | .ok (a, registry) =>
    modify fun s => { s with registry := registry }
    return some a
  | .error (.refused e) =>
    reportAt file (.registry e) l
    return none
  | .error (.fault f) => throw (.type f)

/-- A registration that answers nothing. -/
def quietly (step : Except (Failure RegistryError) Registry) :
    Except (Failure RegistryError) (Unit × Registry) :=
  step.map fun r => ((), r)

/-- Adds the body of a function, if it has one. -/
def addBody (f : FunctionDef) (type : Ty) (selfType : Option Ty) : Declare Unit :=
  match f.body with
  | none => return ()
  | some stmts => modify fun s => { s with bodies := s.bodies ++ [⟨f, stmts, type, selfType⟩] }

/-! ### Types of functions -/

/-- The type and mode of a receiver. -/
def receiverType (scope : TypeScope) (f : FunctionDef) (r : Receiver) :
    Declare (Ty × SelfMode) := do
  match scope.selfType, r.form with
  | none, _ => throw (.receiverOutsideImpl f.path.text)
  | some t, .value => return (t, .byValue)
  | some t, .ref => return (.ref t, .byRef)
  | some t, .refMut => return (.ref t true, .byRefMut)
  | some _, .typed type => return (← declareType scope type, .typed)
  | some _, .unsupported form => throw (.unsupportedReceiver form f.path.text)

/-- The type of a function, its receiver first, and how it takes the receiver. -/
def functionType (scope : TypeScope) (f : FunctionDef) : Declare (Ty × Option SelfMode) := do
  let receiver ← f.receiver.mapM (receiverType scope f)
  let params ← declareTypes scope (f.params.map (·.type))
  let ret ←
    match f.ret with
    | some t => declareType scope t
    | none => pure .unit
  let type := Ty.function ((receiver.map Prod.fst).toList ++ params) ret f.isUnsafe
  return (type, receiver.map Prod.snd)

/-! ### Declarations -/

/-- Reports the structs whose path was declared before; `seen` are the paths so far. -/
def declareStructs (file : Option String) : List String → List StructDef → Declare Unit
  | _, [] => return ()
  | seen, d :: ds => do
    if d.path.text ∈ seen then reportAt file (.repeatedName d.path.text) d.loc
    declareStructs file (d.path.text :: seen) ds

/-- Declares what a struct dereferences to. -/
def declareTarget (scope : TypeScope) (d : StructDef) : Declare Unit := do
  match d.derefTarget with
  | none => return ()
  | some t =>
    let type ← declareType scope t
    modify fun s => { s with targets := (d.path.text, type) :: s.targets }

/-- Declares an item of a trait. -/
def declareTraitMethod (scope : TypeScope) (traitPath : String) (f : FunctionDef) :
    Declare Unit := do
  let (type, mode) ← functionType scope f
  match ← register scope.file f.loc fun r => r.registerTraitMethod traitPath f.name type mode with
  -- an item with a body is a default
  | some _ => addBody f type scope.selfType
  | none => return ()

/-- Declares a trait with its items. -/
def declareTrait (scope : TypeScope) (d : TraitDef) : Declare Unit := do
  let path := d.path.text
  match ← register scope.file d.loc fun r => quietly (r.registerTrait path) with
  | some () => d.methods.forM (declareTraitMethod { scope with selfType := some .selfParam } path)
  -- the items of a trait that is refused are not declared
  | none => return ()

/-- Declares an item of an impl without a trait. -/
def declareInherent (scope : TypeScope) (target : Ty) (f : FunctionDef) : Declare Unit := do
  let (type, mode) ← functionType scope f
  match ← register scope.file f.loc fun r => r.registerInherent target f.name type mode with
  | some _ => addBody f type scope.selfType
  | none => return ()

/-- Takes the body of a trait's item from an impl of the trait. -/
def declareTraitItem (scope : TypeScope) (traitPath : String) (f : FunctionDef) :
    Declare Unit := do
  if ((← get).registry.getTraitMethod? traitPath f.name).isNone then
    reportAt scope.file (.notMember f.name traitPath) f.loc
  -- a head without a body is not looked at
  else if f.body.isSome then
    let (type, _) ← functionType scope f
    addBody f type scope.selfType

/-- Declares that a trait is implemented for `target`. -/
def declareTraitImpl (scope : TypeScope) (target : Ty) (written : Path) (d : ImplDef) :
    Declare Unit := do
  match (← get).registry.findTrait? written with
  | none => reportAt scope.file (.unknownTrait written.text) d.loc
  | some path =>
    match ← register scope.file d.loc fun r => quietly (r.registerTraitImpl path target) with
    | some () => d.methods.forM (declareTraitItem scope path)
    | none => return ()

/-- Declares an impl. One whose target is unknown is passed over. -/
def declareImpl (scope : TypeScope) (d : ImplDef) : Declare Unit := do
  let target ← declareType scope d.target
  if target.kind = .unknown then return ()
  let scope := { scope with selfType := some target }
  match d.traitPath with
  | some path => declareTraitImpl scope target path d
  | none => d.methods.forM (declareInherent scope target)

/-- Declares a function. -/
def declareFunction (scope : TypeScope) (f : FunctionDef) : Declare Unit := do
  let (type, _) ← functionType scope f
  match ← register scope.file f.loc fun r => r.registerFree f.path.text type with
  -- outside of traits and impls `Self` means nothing
  | some _ => addBody f type none
  | none => return ()

/-- The declared structs of a program. -/
def structNames (p : Program) : StructNames := .ofList (p.structs.map (·.path.text))

/-- Goes through all declarations of a program. -/
def declare (file : Option String) (p : Program) : Declare Unit := do
  let scope : TypeScope := ⟨structNames p, file, none⟩
  declareStructs file [] p.structs
  p.structs.forM (declareTarget scope)
  -- impls may stand in front of the traits that they implement
  p.traits.forM (declareTrait scope)
  p.impls.forM (declareImpl scope)
  p.functions.forM (declareFunction scope)

/-! ### Bodies -/

/-- A program after checking. -/
structure Checked where
  functions : List Core.Function
  tables : Tables
  registry : Registry
  diagnostics : List Diagnostic
  source : Option String
deriving Repr, Inhabited

/-- The questions that lints may ask about a checked program. -/
def Checked.query (c : Checked) : Query := ⟨c.tables, c.source⟩

/-- What is the same for a whole body. -/
def contextOf (file : Option String) (names : StructNames) (d : Declared) (selfType : Option Ty) :
    Context :=
  ⟨⟨names, file, selfType⟩, d.registry, d.targets⟩

/-- Lowers and checks bodies one after the other. Their nodes are numbered from `next` on. -/
def checkBodies (file : Option String) (names : StructNames) (d : Declared) :
    (next : Core.NodeId) → List Body → Check (List Core.Function)
  | _, [] => return []
  | next, b :: bs => do
    let (function, after) := (Core.lowerFunction { file := file } b.function b.stmts).number next
    -- all bodies share the tables, as no two nodes share an identity
    checkBody (contextOf file names d b.selfType) function b.type
    return function :: (← checkBodies file names d after bs)

/-- Checks a program. An empty source text counts as none. -/
def check (file : Option String) (p : Program) : Except CheckFault Checked := do
  let ((), declared) ← (declare file p).run {}
  let start : State := { diagnostics := declared.diagnostics }
  let (functions, final) ←
    (checkBodies file (structNames p) declared 1 declared.bodies).run start
  return {
    functions := functions
    tables := final.tables
    registry := declared.registry
    diagnostics := final.diagnostics
    source := if p.source.isEmpty then none else some p.source }

end ClosureLint.Typing
