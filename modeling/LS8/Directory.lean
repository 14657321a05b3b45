import LS8.IoError

/-!
# Directories

A tree of directories, known by its files. It hangs somewhere in a larger tree, of which nothing is
known but that its directories can be entered and hold nothing else.

* `divide`, `namesOf`: the names in a path;
* `Directory`, `Directory.contains`: a directory is there if a file lies below it;
* `Directory.walk`, `Directory.outside`: a path is followed name by name, inside and above the tree;
* `Directory.fetch`, `Directory.readBelow`, `Directory.read`: the file at a path.
-/

set_option autoImplicit false

namespace LS8

/-- A path of so many bytes is too long. -/
def pathLimit : Nat := 4096

/-- No name in a path is longer than this, in bytes. -/
def nameLimit : Nat := 255

/-- A path as slashes divide it. -/
def divide : List Char → List (List Char)
  | [] => [[]]
  | c :: path =>
    if c = '/' then [] :: divide path
    else
      match divide path with
      | [] => [[c]]
      | name :: names => (c :: name) :: names

/-- The names in a path. -/
def namesOf (path : String) : List String := (divide path.toList).map String.ofList

/-- A tree of directories. -/
structure Directory where
  /-- The files, each with the names on the way to it. -/
  files : List (List String × ByteArray)
  /-- The length of the path that leads to the tree itself, with the slash at its end, in bytes. -/
  rootLength : Nat

namespace Directory

/-- Whether a name in a path stays where it is: it is empty, or a single dot. -/
def stays (name : String) : Bool := name = "" || name = "."

/-- The tree of files given by their paths. -/
def ofPaths (rootLength : Nat) (files : List (String × ByteArray)) : Directory where
  files := files.map fun file => ((namesOf file.1).filter (!stays ·), file.2)
  rootLength

/-- Whether the names lead to a directory. -/
def contains (tree : Directory) (names : List String) : Bool :=
  names.isEmpty || tree.files.any fun file => names.isPrefixOf file.1

/-- Why there is nothing under a name. -/
def missing (name : String) : IoError :=
  if nameLimit < name.utf8ByteSize then .nameTooLong else .notFound

/-- Why names lead to no file from a directory above the tree: they come to a directory, or the
first of them that asks for more leads nowhere. -/
def outside (names : List String) : IoError :=
  match names.find? fun name => !stays name && name ≠ ".." with
  | none => .isDirectory
  | some name => missing name

/-- The file to which the names lead from a directory of the tree. Two dots go up. -/
def walk (tree : Directory) (here : List String) : List String → Except IoError ByteArray
  | [] => .error .isDirectory
  | name :: rest =>
    if stays name then tree.walk here rest
    else if name = ".." then
      if here.isEmpty then .error (outside rest) else tree.walk here.dropLast rest
    else
      let there := here ++ [name]
      match tree.files.lookup there with
      | some content => if rest.isEmpty then .ok content else .error .notDirectory
      | none => if tree.contains there then tree.walk there rest else .error (missing name)

/-- The contents of the file to which a path leads from the tree, if the whole path that is asked
for has `length` bytes. -/
def fetch (tree : Directory) (length : Nat) (path : String) : Except IoError ByteArray :=
  if '\x00' ∈ path.toList then .error .nulInPath
  else if pathLimit ≤ length then .error .nameTooLong
  else tree.walk [] (namesOf path)

/-- The contents of the file at a path below the tree, however many slashes it starts with. It is
asked for by the path that leads to the tree and on to the file. -/
def readBelow (tree : Directory) (path : String) : Except IoError ByteArray :=
  tree.fetch (tree.rootLength + path.utf8ByteSize) path

/-- The contents of the file at a path, for one who works in the tree. An empty path leads nowhere,
and one that starts with a slash leads out of the tree. -/
def read (tree : Directory) (path : String) : Except IoError ByteArray :=
  match path.toList with
  | [] | '/' :: _ => .error .notFound
  | _ => tree.fetch path.utf8ByteSize path

end Directory

end LS8
