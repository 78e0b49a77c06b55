import ClosureLint.Files.Path

/-!
# A directory of files

What reading a file gives, when the working directory holds known files and nothing is known of the
directories around it but that they are there.

* `FileTree` — the files by the names that lead to them.
* `FileTree.read` — the octets at a path, or the reason why there are none.
-/

namespace ClosureLint

/-- Why a file cannot be read. -/
inductive ReadError where
  | notFound
  | isDirectory
  | notDirectory
  | nameTooLong
  | other (reason : String)
deriving DecidableEq, Repr, Inhabited

/-- The wording of a reason. -/
def ReadError.message : ReadError → String
  | .notFound => "No such file or directory"
  | .isDirectory => "Is a directory"
  | .notDirectory => "Not a directory"
  | .nameTooLong => "File name too long"
  | .other reason => reason

/-- The files of a directory, each with the names that lead to it. A directory that holds no file is
not there. -/
structure FileTree where
  files : List (List String × List UInt8) := []
deriving Repr, Inhabited

namespace FileTree

/-- The tree of files given by the texts of their paths. -/
def ofList (files : List (String × List UInt8)) : FileTree :=
  ⟨files.map fun (path, octets) => ((FilePath.parse path).names, octets)⟩

/-- The file that `names` lead to. -/
def file? (t : FileTree) (names : List String) : Option (List UInt8) := t.files.lookup names

/-- Whether `names` lead to a directory. -/
def isDirectory (t : FileTree) (names : List String) : Bool :=
  names.isEmpty || t.files.any fun (path, _) => names.isPrefixOf path && names != path

/-- A directory: one of the tree, or one around it. -/
inductive Place where
  | inside (names : List String)
  | outside
deriving DecidableEq, Repr, Inhabited

/-- The parent directory. -/
def Place.parent : Place → Place
  | .inside [] | .outside => .outside
  | .inside names => .inside names.dropLast

/-- The most octets that a name may have. -/
def maxNameSize : Nat := 255

/-- What reading gives when the names are followed from a directory. -/
def readFrom (t : FileTree) : Place → (names : List String) → Except ReadError (List UInt8)
  | _, [] => throw .isDirectory
  | place, name :: rest =>
    if maxNameSize < name.utf8ByteSize then throw .nameTooLong
    else if name = ".." then t.readFrom place.parent rest
    else
      match place with
      | .outside => throw .notFound
      | .inside names =>
        let names := names ++ [name]
        match t.file? names with
        | some octets => if rest.isEmpty then return octets else throw .notDirectory
        | none => if t.isDirectory names then t.readFrom (.inside names) rest else throw .notFound

/-- What reading the file at a path gives. -/
def read (t : FileTree) (p : FilePath) : Except ReadError (List UInt8) :=
  t.readFrom (if p.root = .relative then .inside [] else .outside) p.names

end FileTree

end ClosureLint
