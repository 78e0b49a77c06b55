/-!
# Types

A type is a description: a kind, a name, the types it is made of, and three flags. Which of the
fields mean something depends on the kind.

| kind | name | params |
|---|---|---|
| `bool` `char` `int` `uint` `float` `str` | its spelling | none |
| `ref` `array` `slice` | empty | the one inner type |
| `nominal` | the full path, the type's identity | generic arguments |
| `function` | `fn` | the parameters, then the result |
| `tuple` | empty | the elements; the unit type has none |
| `param` | the parameter's name, such as `Self` | none |
| `unknown` | empty | none |

Descriptions that break this table can be written down too. An operation that needs a part which
is not there answers with a fault, and `Ty.WellFormed` says when that cannot happen.

* `Ty` — type descriptions, with decidable equality over all fields.
* `Ty.primitive?` — the built-in types by name.
* `Ty.WellFormed` — every part that a kind asks for is there, at every depth.
-/

namespace ClosureLint

/-- The kinds of types. -/
inductive Kind where
  | bool | char | int | uint | float | str
  | ref | array | slice
  | nominal | function | tuple | param | unknown
deriving DecidableEq, Repr, Inhabited

/-- The name under which a kind is reported. -/
def Kind.name : Kind → String
  | .bool => "BOOL"
  | .char => "CHAR"
  | .int => "INT"
  | .uint => "UINT"
  | .float => "FLOAT"
  | .str => "STR"
  | .ref => "REF"
  | .array => "ARRAY"
  | .slice => "SLICE"
  | .nominal => "NOMINAL"
  | .function => "FUNCTION"
  | .tuple => "TUPLE"
  | .param => "PARAM"
  | .unknown => "UNKNOWN"

/-- All kinds, each once. -/
def Kind.all : List Kind :=
  [.bool, .char, .int, .uint, .float, .str, .ref, .array, .slice, .nominal, .function, .tuple,
    .param, .unknown]

/-- A type description. `isMut` belongs to references, `length` to arrays, `isUnsafe` to
functions. -/
structure Ty where
  kind : Kind
  name : String := ""
  params : List Ty := []
  isMut : Bool := false
  length : Option Int := none
  isUnsafe : Bool := false
deriving Repr, Inhabited

namespace Ty

mutual

/-- Equality of types compares every field, whether the kind uses it or not. -/
def decEq : (a b : Ty) → Decidable (a = b)
  | ⟨k, n, ps, m, l, u⟩, ⟨k', n', ps', m', l', u'⟩ =>
    match decEqList ps ps' with
    | isTrue hp =>
      if h : k = k' ∧ n = n' ∧ m = m' ∧ l = l' ∧ u = u' then
        isTrue (by obtain ⟨rfl, rfl, rfl, rfl, rfl⟩ := h; subst hp; rfl)
      else
        isFalse (by intro e; injection e; exact h ⟨‹_›, ‹_›, ‹_›, ‹_›, ‹_›⟩)
    | isFalse hp => isFalse (by intro e; injection e; exact hp ‹_›)

/-- Equality of lists of types. -/
def decEqList : (as bs : List Ty) → Decidable (as = bs)
  | [], [] => isTrue rfl
  | [], _ :: _ => isFalse nofun
  | _ :: _, [] => isFalse nofun
  | a :: as, b :: bs =>
    match decEq a b, decEqList as bs with
    | isTrue h, isTrue hs => isTrue (by rw [h, hs])
    | isFalse h, _ => isFalse (by intro e; injection e; exact h ‹_›)
    | _, isFalse hs => isFalse (by intro e; injection e; exact hs ‹_›)

end

instance : DecidableEq Ty := decEq

/-! ### Building types -/

/-- The type of no value: the empty tuple. -/
def unit : Ty := ⟨.tuple, "", [], false, none, false⟩

/-- The type of an expression that could not be typed. -/
def unknown : Ty := ⟨.unknown, "", [], false, none, false⟩

/-- The type of string slices. -/
def str : Ty := ⟨.str, "str", [], false, none, false⟩

/-- The signed integer type of the given spelling. -/
def int (name : String) : Ty := ⟨.int, name, [], false, none, false⟩

/-- A reference to `inner`. -/
def ref (inner : Ty) (isMut : Bool := false) : Ty := ⟨.ref, "", [inner], isMut, none, false⟩

/-- An array of `length` elements. -/
def array (elem : Ty) (length : Option Int) : Ty := ⟨.array, "", [elem], false, length, false⟩

/-- A slice. -/
def slice (elem : Ty) : Ty := ⟨.slice, "", [elem], false, none, false⟩

/-- A declared struct with its generic arguments. -/
def nominal (path : String) (args : List Ty := []) : Ty :=
  ⟨.nominal, path, args, false, none, false⟩

/-- A function from `params` to `ret`. -/
def function (params : List Ty) (ret : Ty) (isUnsafe : Bool) : Ty :=
  ⟨.function, "fn", params ++ [ret], false, none, isUnsafe⟩

/-- A tuple. -/
def tuple (elems : List Ty) : Ty := ⟨.tuple, "", elems, false, none, false⟩

/-- The type that stands for the implementing type inside a trait. -/
def selfParam : Ty := ⟨.param, "Self", [], false, none, false⟩

/-- The spellings of signed integer types. -/
def signedNames : List String := ["i8", "i16", "i32", "i64", "i128", "isize"]

/-- The spellings of unsigned integer types. -/
def unsignedNames : List String := ["u8", "u16", "u32", "u64", "u128", "usize"]

/-- The spellings of floating-point types. -/
def floatNames : List String := ["f32", "f64"]

/-- The built-in type of the given spelling. -/
def primitive? (name : String) : Option Ty :=
  if name = "bool" then some ⟨.bool, name, [], false, none, false⟩
  else if name = "char" then some ⟨.char, name, [], false, none, false⟩
  else if name = "str" then some str
  else if name ∈ signedNames then some (int name)
  else if name ∈ unsignedNames then some ⟨.uint, name, [], false, none, false⟩
  else if name ∈ floatNames then some ⟨.float, name, [], false, none, false⟩
  else none

/-! ### Well-formed types -/

/-- Whether a description of kind `k` may have `n` parts: a container has one, a function at least
its result. -/
def arityOk : Kind → Nat → Bool
  | .ref, n | .array, n | .slice, n => n == 1
  | .function, n => n != 0
  | .nominal, _ | .tuple, _ => true
  | _, n => n == 0

mutual

/-- A type is well formed when its kind allows the number of its parts, and they are well formed. -/
def wellFormed : Ty → Bool
  | ⟨k, _, ps, _, _, _⟩ => arityOk k ps.length && wellFormedAll ps

/-- All types of a list are well formed. -/
def wellFormedAll : List Ty → Bool
  | [] => true
  | t :: ts => wellFormed t && wellFormedAll ts

end

/-- A type that has the parts its kind asks for, at every depth. -/
abbrev WellFormed (t : Ty) : Prop := t.wellFormed = true

/-! ### Flags of a type -/

/-- Whether the type is a reference. -/
def isRef (t : Ty) : Bool := t.kind == .ref

/-- Whether the type is a function that only unsafe code may call. -/
def isUnsafeFn (t : Ty) : Bool := t.kind == .function && t.isUnsafe

/-- Types that fit everywhere: what could not be typed, and parameters such as `Self`. -/
def isLenient (t : Ty) : Bool := t.kind == .unknown || t.kind == .param

end Ty

end ClosureLint
