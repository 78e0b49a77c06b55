import ClosureLint.Names
import ClosureLint.Ty.Text

/-!
# The registry of callables

All functions and methods that a program declares, numbered from 1 in the order in which they are
registered, with the traits and the record of which type implements which. A method that a trait
declares is registered once, as the trait's item; an impl of the trait adds no callable.

* `Decl` — a registered function or method.
* `Registry` — the declarations; `registerFree`, `registerInherent`, `registerTrait`,
  `registerTraitMethod`, `registerTraitImpl` add to it or refuse.
* `getFree?`, `getInherent?`, `getTraitMethod?`, `traitsOf` — look-ups.
-/

namespace ClosureLint

/-- What goes wrong in an operation that may refuse: a malformed type, or a refusal. -/
inductive Failure (ε : Type) where
  | fault (f : Fault)
  | refused (e : ε)
deriving DecidableEq, Repr

/-- A fault of a type ends every operation on it. -/
instance {ε : Type} : MonadLift (Except Fault) (Except (Failure ε)) where
  monadLift := Except.mapError .fault

/-- How a method takes its receiver. -/
inductive SelfMode where
  | byValue
  | byRef
  | byRefMut
  | typed
deriving DecidableEq, Repr, Inhabited

/-- The name under which a receiver mode is reported. -/
def SelfMode.name : SelfMode → String
  | .byValue => "SELF_BY_VALUE"
  | .byRef => "SELF_BY_REF"
  | .byRefMut => "SELF_BY_REF_MUT"
  | .typed => "SELF_TYPED"

/-- Where a callable was declared: at the top, in an impl of the type filed under `key`, or in a
trait. -/
inductive Origin where
  | free
  | inherent (target : Ty) (key : String)
  | traitItem (traitPath : String)
deriving DecidableEq, Repr, Inhabited

/-- The name under which an origin is reported. -/
def Origin.name : Origin → String
  | .free => "FREE_FUNCTION"
  | .inherent .. => "METHOD_INHERENT"
  | .traitItem _ => "METHOD_TRAIT"

/-- A function or method. A receiver is the first parameter of `type`. -/
structure Decl where
  id : Int
  name : String
  path : String
  origin : Origin
  type : Ty
  selfMode : Option SelfMode := none
deriving DecidableEq, Repr, Inhabited

namespace Decl

/-- Whether the callable has a receiver. -/
def isMethod (d : Decl) : Bool := d.selfMode.isSome

/-- The receiver's type, as the signature gives it. -/
def selfType? (d : Decl) : Except Fault (Option Ty) :=
  match d.selfMode with
  | none => return none
  | some _ => do return some (← Ty.firstPart (← d.type.fnParams))

/-- Whether only unsafe code may call it. -/
def isUnsafe (d : Decl) : Bool := d.type.isUnsafe

/-- The trait that declares it. -/
def traitPath? (d : Decl) : Option String :=
  match d.origin with
  | .traitItem path => some path
  | _ => none

/-- Whether it is an item of an impl without a trait. -/
def isInherent (d : Decl) : Bool :=
  match d.origin with
  | .inherent .. => true
  | _ => false

/-- The type in whose impl it was declared. -/
def implTarget? (d : Decl) : Option Ty :=
  match d.origin with
  | .inherent target _ => some target
  | _ => none

end Decl

/-- Why a declaration is not registered. -/
inductive RegistryError where
  | duplicateFunction (path : String)
  | duplicateItem (name typeText : String)
  | duplicateTrait (path : String)
  | unknownTrait (path : String)
  | duplicateMethod (name traitPath : String)
  | conflictingImpl (traitPath typeText : String)
deriving DecidableEq, Repr, Inhabited

/-- The wording of a registry error. -/
def RegistryError.message : RegistryError → String
  | .duplicateFunction path => "duplicate function '" ++ path ++ "'"
  | .duplicateItem name typeText =>
    "duplicate definitions with name '" ++ name ++ "' for type '" ++ typeText ++ "'"
  | .duplicateTrait path => "duplicate trait '" ++ path ++ "'"
  | .unknownTrait path => "unknown trait '" ++ path ++ "'"
  | .duplicateMethod name traitPath =>
    "duplicate method '" ++ name ++ "' in trait '" ++ traitPath ++ "'"
  | .conflictingImpl traitPath typeText =>
    "conflicting implementations of trait '" ++ traitPath ++ "' for type '" ++ typeText ++ "'"

/-- The declarations in order of their numbers, the traits in order of declaration, and the pairs
of an impl key and a trait in order of implementation. -/
structure Registry where
  decls : List Decl := []
  traits : List String := []
  impls : List (String × String) := []
deriving DecidableEq, Repr, Inhabited

namespace Registry

/-! ### Look-ups -/

/-- The declaration of the given number. -/
def get? (r : Registry) (id : Int) : Option Decl := r.decls.find? fun d => d.id = id

/-- The function at `path`. -/
def getFree? (r : Registry) (path : String) : Option Decl :=
  r.decls.find? fun d => d.origin = .free ∧ d.path = path

/-- The item `name` of the impls filed under `key`. -/
def getInherentByKey? (r : Registry) (key name : String) : Option Decl :=
  r.decls.find? fun d =>
    match d.origin with
    | .inherent _ k => k = key ∧ d.name = name
    | _ => false

/-- The item `name` of the impls for `target`. -/
def getInherent? (r : Registry) (target : Ty) (name : String) : Except Fault (Option Decl) := do
  return r.getInherentByKey? (← target.implKey) name

/-- The item `name` of a trait. -/
def getTraitMethod? (r : Registry) (traitPath name : String) : Option Decl :=
  r.decls.find? fun d => d.origin = .traitItem traitPath ∧ d.name = name

/-- Whether the trait is declared. -/
def hasTrait (r : Registry) (traitPath : String) : Bool := r.traits.contains traitPath

/-- The names of a trait's items, in order of declaration. -/
def traitMethodNames (r : Registry) (traitPath : String) : List String :=
  (r.decls.filter fun d => d.origin = .traitItem traitPath).map Decl.name

/-- The traits implemented for the type filed under `key`. -/
def traitsByKey (r : Registry) (key : String) : List String :=
  (r.impls.filter fun i => i.1 = key).map Prod.snd

/-- The traits implemented for `target`, in order of implementation. -/
def traitsOf (r : Registry) (target : Ty) : Except Fault (List String) := do
  return r.traitsByKey (← target.implKey)

/-- The declared trait that `segments` names: by its path, or for one segment the only trait whose
path ends in it. -/
def findTrait? (r : Registry) (segments : List String) : Option String :=
  let full := "::".intercalate segments
  if r.hasTrait full then some full
  else
    match segments with
    | [segment] =>
      -- a segment that several paths end in names none of them
      match r.traits.filter fun path => lastSegment path = segment with
      | [path] => some path
      | _ => none
    | _ => none

/-! ### Registration -/

/-- The number of the next declaration. -/
def nextId (r : Registry) : Int := r.decls.length + 1

/-- Appends a declaration. -/
def add (r : Registry) (name path : String) (origin : Origin) (type : Ty)
    (selfMode : Option SelfMode) : Decl × Registry :=
  let decl : Decl := ⟨r.nextId, name, path, origin, type, selfMode⟩
  (decl, { r with decls := r.decls ++ [decl] })

/-- Registers a function. -/
def registerFree (r : Registry) (path : String) (type : Ty) :
    Except (Failure RegistryError) (Decl × Registry) := do
  if (r.getFree? path).isSome then throw (.refused (.duplicateFunction path))
  return r.add (lastSegment path) path .free type none

/-- Registers an item of an impl without a trait. -/
def registerInherent (r : Registry) (target : Ty) (name : String) (type : Ty)
    (selfMode : Option SelfMode) : Except (Failure RegistryError) (Decl × Registry) := do
  let key ← target.implKey
  if (r.getInherentByKey? key name).isSome then
    throw (.refused (.duplicateItem name (← target.text)))
  return r.add name (key ++ "::" ++ name) (.inherent target key) type selfMode

/-- Registers a trait. -/
def registerTrait (r : Registry) (traitPath : String) :
    Except (Failure RegistryError) Registry := do
  if r.hasTrait traitPath then throw (.refused (.duplicateTrait traitPath))
  return { r with traits := r.traits ++ [traitPath] }

/-- Registers an item of a trait. -/
def registerTraitMethod (r : Registry) (traitPath name : String) (type : Ty)
    (selfMode : Option SelfMode) : Except (Failure RegistryError) (Decl × Registry) := do
  if !r.hasTrait traitPath then throw (.refused (.unknownTrait traitPath))
  if (r.getTraitMethod? traitPath name).isSome then
    throw (.refused (.duplicateMethod name traitPath))
  return r.add name (traitPath ++ "::" ++ name) (.traitItem traitPath) type selfMode

/-- Records that a trait is implemented for `target`. -/
def registerTraitImpl (r : Registry) (traitPath : String) (target : Ty) :
    Except (Failure RegistryError) Registry := do
  if !r.hasTrait traitPath then throw (.refused (.unknownTrait traitPath))
  let key ← target.implKey
  if r.impls.contains (key, traitPath) then
    throw (.refused (.conflictingImpl traitPath (← target.text)))
  return { r with impls := r.impls ++ [(key, traitPath)] }

end Registry

end ClosureLint
