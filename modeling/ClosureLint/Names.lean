/-!
# Declared names

Structs and traits are declared under full paths such as `std::vec::Vec`. A use may give the full
path, or the last segment alone when only one declared path ends in it.

* `lastSegment` — the part of a path behind its last `::`.
* `StructNames` — the declared struct paths, with an index by last segment.
* `StructNames.find?` — the declared path that a use names.
-/

namespace ClosureLint

/-- What stands behind the last `::` of a text, if there is one. -/
def afterLastColons : List Char → Option (List Char)
  | [] => none
  | [_] => none
  | c :: d :: cs =>
    match afterLastColons (d :: cs) with
    | some rest => some rest
    | none => if c = ':' ∧ d = ':' then some cs else none

/-- The last segment of a path. -/
def lastSegment (path : String) : String :=
  match afterLastColons path.toList with
  | some cs => String.ofList cs
  | none => path

/-- The declared struct paths, each once, and the paths that end in each last segment. -/
structure StructNames where
  paths : List String := []
  byLast : List (String × List String) := []
deriving Repr, Inhabited

namespace StructNames

/-- The declared paths that end in `segment`. -/
def endingIn (names : StructNames) (segment : String) : List String :=
  (names.byLast.lookup segment).getD []

/-- The names with `path` declared too. -/
def insert (names : StructNames) (path : String) : StructNames :=
  if path ∈ names.paths then names
  else
    let last := lastSegment path
    { paths := names.paths ++ [path]
      byLast := (last, names.endingIn last ++ [path]) :: names.byLast }

/-- The names of the given declared paths. -/
def ofList (paths : List String) : StructNames := paths.foldl insert {}

/-- The declared path that `segments` names: that path itself, or for one segment the only path
that ends in it. -/
def find? (names : StructNames) (segments : List String) : Option String :=
  let full := "::".intercalate segments
  if full ∈ names.paths then some full
  else
    match segments with
    | [segment] =>
      match names.endingIn segment with
      | [path] => some path
      | _ => none
    | _ => none

end StructNames

end ClosureLint
