import ClosureLint.Ty.Basic

/-!
# The text of a type, and its parts

A type is written the way the source spells it: `&mut [i32; 3]`, `std::vec::Vec<u8>`,
`unsafe fn(&str) -> bool`. The unit result of a function is left out, a tuple of one element keeps
its comma, and an array whose length is not known shows `_`.

* `Fault` — what an operation answers when a description lacks the part it needs.
* `Ty.text` — the written form.
* `Ty.inner`, `Ty.fnParams`, `Ty.fnRet`, `Ty.stripRefs` — the parts of a type.
* `Ty.implKey` — the name under which implementations for a type are filed.
* `Ty.displayName` — the path prefix under which a type's methods are called.
-/

namespace ClosureLint

/-- A description lacks what an operation needs. The text is the written form of the type that the
operation was asked about. -/
inductive Fault where
  | missingPart
  | notContainer (text : String)
  | noParameters (text : String)
  | noResult (text : String)
  | noReceiver
deriving DecidableEq, Repr, Inhabited

/-- The wording of a fault. -/
def Fault.message : Fault → String
  | .missingPart => "tuple index out of range"
  | .notContainer text => "inner called on non-container type " ++ text
  | .noParameters text => "fn_params called on non-function type " ++ text
  | .noResult text => "fn_ret called on non-function type " ++ text
  | .noReceiver => ""

namespace Ty

/-- The first of `ps`, where one is needed. -/
def firstPart (ps : List Ty) : Except Fault Ty :=
  match ps with
  | p :: _ => .ok p
  | [] => .error .missingPart

/-- The last of `ps`, where one is needed. -/
def lastPart (ps : List Ty) : Except Fault Ty :=
  match ps.getLast? with
  | some p => .ok p
  | none => .error .missingPart

/-- Texts separated by a comma and a space. -/
def commaSeparated (texts : List String) : String := ", ".intercalate texts

mutual

/-- The written form of a type. -/
def text : Ty → Except Fault String
  | ⟨k, name, ps, isMut, length, isUnsafe⟩ =>
    match k with
    | .ref =>
      match ps with
      | p :: _ => return (if isMut then "&mut " else "&") ++ (← text p)
      | [] => throw .missingPart
    | .array =>
      match ps with
      | p :: _ =>
        -- a length that is not known shows as an underscore
        return "[" ++ (← text p) ++ "; " ++ (length.elim "_" toString) ++ "]"
      | [] => throw .missingPart
    | .slice =>
      match ps with
      | p :: _ => return "[" ++ (← text p) ++ "]"
      | [] => throw .missingPart
    | .nominal => do
      let texts ← textAll ps
      return if texts.isEmpty then name else name ++ "<" ++ commaSeparated texts ++ ">"
    | .function => do
      let texts ← textAll ps
      -- the result is the last part, and is not shown where it is `()`
      match ps.getLast?, texts.getLast? with
      | some ret, some retText =>
        return (if isUnsafe then "unsafe fn(" else "fn(") ++ commaSeparated texts.dropLast ++ ")"
          ++ (if ret = unit then "" else " -> " ++ retText)
      | _, _ => throw .missingPart
    | .tuple => do
      match ← textAll ps with
      -- a comma tells a tuple of one from parentheses
      | [one] => return "(" ++ one ++ ",)"
      | texts => return "(" ++ commaSeparated texts ++ ")"
    | .unknown => return "\x7bunknown\x7d"
    | _ => return name

/-- The written forms of several types. -/
def textAll : List Ty → Except Fault (List String)
  | [] => return []
  | t :: ts => return (← text t) :: (← textAll ts)

end

/-! ### The parts of a type -/

/-- What a reference points to, or the element of an array or slice. -/
def inner (t : Ty) : Except Fault Ty :=
  match t.kind, t.params with
  | .ref, p :: _ | .array, p :: _ | .slice, p :: _ => return p
  | _, _ => do throw (.notContainer (← t.text))

/-- The parameter types of a function. -/
def fnParams (t : Ty) : Except Fault (List Ty) :=
  if t.kind = .function then return t.params.dropLast
  else do throw (.noParameters (← t.text))

/-- The result type of a function. -/
def fnRet (t : Ty) : Except Fault Ty :=
  if t.kind = .function then lastPart t.params
  else do throw (.noResult (← t.text))

mutual

/-- The type below all leading references. -/
def stripRefs : Ty → Except Fault Ty
  | ⟨.ref, _, ps, _, _, _⟩ => stripRefsFirst ps
  | t => return t

/-- The type below the leading references of the first of several types. -/
def stripRefsFirst : List Ty → Except Fault Ty
  | [] => throw .missingPart
  | t :: _ => stripRefs t

end

/-! ### Names of types -/

/-- Implementations are filed under the path of a struct, whatever its generic arguments, and under
the written form of every other type. -/
def implKey (t : Ty) : Except Fault String :=
  if t.kind = .nominal then return t.name else t.text

/-- The path prefix of a type's methods, looking through references: the path of a struct, the
written form of any other type. -/
def displayName (t : Ty) : Except Fault String := do (← t.stripRefs).implKey

end Ty

end ClosureLint
