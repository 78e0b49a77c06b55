import ClosureLint.Names
import ClosureLint.Syntax.Basic
import ClosureLint.Typing.Problem

/-!
# What a written type means

Inside a trait or impl `Self` means the given type. A single name that spells a built-in type means
that type, every other path a declared struct. A path that means nothing is reported and stands for
the unknown type; what is written between its angle brackets is not looked at.

* `resolveType` — the type, and the diagnostics in the order in which the written type gives them.
-/

namespace ClosureLint

open ClosureLint.Syntax (TypeExpr Path)

/-- What resolving needs to know: the declared structs, the file, and what `Self` means. -/
structure TypeScope where
  names : StructNames
  file : Option String := none
  selfType : Option Ty := none
deriving Repr, Inhabited

/-- What a name without generic arguments means if it is `Self` or spells a built-in type. -/
inductive BuiltIn where
  | none
  | selfMissing
  | type (t : Ty)
deriving Repr, Inhabited

/-- Looks a path up among `Self` and the built-in types. -/
def TypeScope.builtIn (s : TypeScope) (path : Path) (hasArgs : Bool) : BuiltIn :=
  match path, hasArgs with
  | [name], false =>
    if name = "Self" then
      match s.selfType with
      | some t => .type t
      | Option.none => .selfMissing
    else
      match Ty.primitive? name with
      | some t => .type t
      | Option.none => .none
  | _, _ => .none

/-- The unknown type, with the reason why it is unknown. -/
def TypeScope.unresolved (s : TypeScope) (l : Loc) (p : Problem) : Ty × List Diagnostic :=
  (.unknown, [p.diagnostic (spanIn s.file l)])

mutual

/-- What a written type means. -/
def resolveType (s : TypeScope) : TypeExpr → Ty × List Diagnostic
  | .named l path args =>
    match s.builtIn path (!args.isEmpty) with
    | .type t => (t, [])
    | .selfMissing => s.unresolved l .selfOutsideImpl
    | .none =>
      match s.names.find? path with
      -- the arguments of an unknown type are not looked at
      | none => s.unresolved l (.unknownType path.text)
      | some full =>
        let (args, ds) := resolveTypes s args
        (.nominal full args, ds)
  | .ref _ isMut inner =>
    let (t, ds) := resolveType s inner
    (.ref t isMut, ds)
  | .array _ elem length =>
    let (t, ds) := resolveType s elem
    (.array t (some length), ds)
  | .slice _ elem =>
    let (t, ds) := resolveType s elem
    (.slice t, ds)
  | .tuple _ elems =>
    let (ts, ds) := resolveTypes s elems
    (.tuple ts, ds)
  | .fnPtr _ isUnsafe params ret =>
    let (ts, ds) := resolveTypes s params
    match ret with
    | none => (.function ts .unit isUnsafe, ds)
    | some ret =>
      let (t, ds') := resolveType s ret
      (.function ts t isUnsafe, ds ++ ds')

/-- What several written types mean. -/
def resolveTypes (s : TypeScope) : List TypeExpr → List Ty × List Diagnostic
  | [] => ([], [])
  | t :: ts =>
    let (t, ds) := resolveType s t
    let (ts, ds') := resolveTypes s ts
    (t :: ts, ds ++ ds')

end

end ClosureLint
