import SourceDiagnostics.Files.Basic

/-!
A directory tree as a file store. A path is followed piece by piece, and every piece but the last
has to lead to a directory; so has the last one if a slash comes after it. The tree hangs below
other directories, up to the root of all absolute paths. Nothing is known of those but that they
are directories, so a name that is looked up there leads to nothing.
-/

namespace SourceDiagnostics

inductive Directory.Node where
  | leaf (entry : Entry)
  | directory (children : List (Bytes × Node))

structure Directory where
  children : List (Bytes × Directory.Node) := []

/-- Where a path can lead: to one of the directories above a tree, or into the tree. -/
inductive Directory.Place where
  | above
  | within (names : List Bytes)
  deriving DecidableEq, Repr

namespace Directory

namespace Node

def entry : Node → Entry
  | leaf entry => entry
  | directory _ => .directory

def ofEntry : Entry → Node
  | .directory => directory []
  | entry => leaf entry

def find? : Node → List Bytes → Option Node
  | node, [] => some node
  | leaf _, _ :: _ => none
  | directory children, name :: rest => (children.lookup name).bind (find? · rest)

/-- What is in a directory, with something else, or nothing, where names lead from there. The names
have to lead from directory to directory up to the last one. -/
def replace (new : Option Node) (children : List (Bytes × Node)) :
    List Bytes → List (Bytes × Node)
  | [] => children
  | [name] => (new.map (name, ·)).toList ++ children.filter (·.1 != name)
  | name :: rest =>
      children.map fun (other, child) =>
        match child with
        | directory inner =>
            (other, if other = name then directory (replace new inner rest) else child)
        | leaf _ => (other, child)

end Node

def find? (tree : Directory) : Place → Option Entry
  | .above => some .directory
  | .within names => ((Node.directory tree.children).find? names).map Node.entry

/-! Following a path. A piece can be followed from a directory only; where it leads there may be
nothing yet. -/

def parent : Bytes := [0x2E, 0x2E]

def longestName : Nat := 255

def longestPath : Nat := 4095

def advance (place : Place) (piece : Bytes) : Except FileError Place :=
  if piece = [] ∨ piece = Path.here then .ok place
  else if piece = parent then
    match place with
    | .above | .within [] => .ok .above
    | .within names => .ok (.within names.dropLast)
  else if longestName < piece.length then .error .nameTooLong
  else
    match place with
    | .above => .error .noEntry
    | .within names => .ok (.within (names ++ [piece]))

def follow (tree : Directory) (place : Place) (piece : Bytes) : Except FileError Place :=
  match tree.find? place with
  | none => .error .noEntry
  | some .directory => advance place piece
  | some _ => .error .noDirectory

def route (path : Path) : Except FileError (Place × List Bytes) :=
  if path.bytes.contains 0 then .error .nulInName
  else if longestPath < path.bytes.length then .error .nameTooLong
  else if path.bytes = [] then .error .noEntry
  else if path.isAbsolute then .ok (.above, path.pieces)
  else .ok (.within [], path.pieces)

def locate (tree : Directory) (path : Path) : Except FileError Place := do
  let (start, pieces) ← route path
  pieces.foldlM tree.follow start

def read (tree : Directory) (path : Path) : Except FileError Bytes := do
  let place ← tree.locate path
  match tree.find? place with
  | none => .error .noEntry
  | some entry => entry.read

/-! Editing. An edit is made as far as it is possible. -/

def replace (place : Place) (entry : Option Entry) (tree : Directory) : Directory :=
  match place with
  | .above => tree
  | .within names => ⟨Node.replace (entry.map Node.ofEntry) tree.children names⟩

/-- Follows pieces from a place as far as they lead, and makes a directory wherever there is
nothing. -/
def enter (tree : Directory) (place : Place) : (pieces : List Bytes) → Directory
  | [] => tree
  | piece :: rest =>
      match tree.follow place piece with
      | .error _ => tree
      | .ok next =>
          let tree :=
            if tree.find? next = none then tree.replace next (some .directory) else tree
          tree.enter next rest

def makeDirectories (tree : Directory) (path : Path) : Directory :=
  match route path with
  | .error _ => tree
  | .ok (start, pieces) => tree.enter start pieces

/-- The path to where the last name of a path is looked up, if there is a name, and what comes
after that name. -/
def splitLast (path : Path) : Option (Path × List Bytes) :=
  let backwards := path.pieces.reverse
  let ending := backwards.takeWhile (!Path.isName ·)
  match backwards.dropWhile (!Path.isName ·) with
  | [] => none
  | _ :: before => some (.ofPieces (before.dropWhile (!Path.isName ·)).reverse, ending)

def putFile (tree : Directory) (path : Path) (entry : Entry) : Directory :=
  match tree.locate path with
  | .error _ => tree
  | .ok place =>
      if tree.find? place = some .directory then tree else tree.replace place (some entry)

/-- Makes a path lead to an entry, as far as that is possible, after making the directories on the
way to its last name. Nothing may come after the name of a file, and only slashes after that of a
directory. -/
def write (tree : Directory) (path : Path) (entry : Entry) : Directory :=
  match splitLast path with
  | none => tree
  | some (way, ending) =>
      if entry = .directory then
        match route path with
        | .error _ => tree
        | .ok _ =>
            if ending.contains Path.here then tree.makeDirectories way
            else tree.makeDirectories path
      else
        let tree := tree.makeDirectories way
        if ending = [] then tree.putFile path entry else tree

def remove (tree : Directory) (path : Path) : Except FileError Directory := do
  let place ← tree.locate path
  match tree.find? place with
  | none => .error .noEntry
  | some .directory => .error .isDirectory
  | some _ => return tree.replace place none

/-! With a file `d/f`: the same file by detours, and paths that lead astray. -/

private def sample : Directory :=
  Directory.write {} (Path.ofString "d/f") (.file [1])

example : sample.read (Path.ofString "./d/../d//f") = .ok [1] := rfl
example : sample.read (Path.ofString "d/") = .error .isDirectory := rfl
example : sample.read (Path.ofString "d/f/") = .error .noDirectory := rfl
example : sample.read (Path.ofString "e/../d/f") = .error .noEntry := rfl
example : sample.read (Path.ofString "/d/..") = .error .noEntry := rfl
example : sample.read (Path.ofString "/.") = .error .isDirectory := rfl

instance : FileStore Directory where
  read := read
  edit
    | .write path entry, tree => tree.write path entry
    | .remove path, tree => (tree.remove path).toOption.getD tree

end Directory

end SourceDiagnostics
