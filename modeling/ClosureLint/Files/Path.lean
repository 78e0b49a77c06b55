/-!
# File paths

A path is a sequence of names, from the top of all files or from the working directory. How often
its slashes are written does not matter, and neither do the names that mean the directory they
stand in; the name of the parent directory is kept, because what it means depends on the files.

* `FilePath.parse` — the path that a text means.
* `FilePath.text` — its shortest written form.
-/

namespace ClosureLint

/-- Where a path starts: at the working directory, at the top, or at the place that two slashes
stand for, which a system may tell from the top. -/
inductive PathRoot where
  | relative
  | top
  | doubleSlash
deriving DecidableEq, Repr, Inhabited

/-- The text in front of the names. -/
def PathRoot.text : PathRoot → String
  | .relative => ""
  | .top => "/"
  | .doubleSlash => "//"

/-- A path, with the names that it goes through. -/
structure FilePath where
  root : PathRoot
  names : List String
deriving DecidableEq, Repr, Inhabited

namespace FilePath

/-- The place where a path with `slashes` leading slashes starts. -/
def rootOf (slashes : Nat) : PathRoot :=
  match slashes with
  | 0 => .relative
  | 2 => .doubleSlash
  | _ => .top

/-- Whether a name stands for a step. No name and the name of the same directory do not. -/
def isStep (name : String) : Bool := name != "" && name != "."

/-- The path that a text means. -/
def parse (s : String) : FilePath :=
  let slashes := (s.toList.takeWhile (· = '/')).length
  ⟨rootOf slashes, ((s.splitToList (· = '/')).filter isStep)⟩

/-- The shortest text that means a path. -/
def text (p : FilePath) : String :=
  let s := p.root.text ++ "/".intercalate p.names
  if s.isEmpty then "." else s

end FilePath

end ClosureLint
