import SourceDiagnostics.Files.Basic

/-!
A file store in memory, without directories: each path, exactly as spelled, is an entry of its
own.
-/

namespace SourceDiagnostics

/-- The entries by path, and what every other path leads to, if anything. -/
structure Memory where
  entries : List (Path × Entry) := []
  fallback : Option Entry := none
  deriving DecidableEq, Repr, Inhabited

namespace Memory

def missing : FileError := ⟨.notFound, "no such file"⟩

def find? (memory : Memory) (path : Path) : Option Entry :=
  (memory.entries.lookup path).or memory.fallback

def erase (path : Path) (memory : Memory) : Memory :=
  { memory with entries := memory.entries.filter (·.1 != path) }

def insert (path : Path) (entry : Entry) (memory : Memory) : Memory :=
  { memory with entries := (path, entry) :: (memory.erase path).entries }

instance : FileStore Memory where
  read memory path := ((memory.find? path).map Entry.read).getD (.error missing)
  edit
    | .write path entry => insert path entry
    | .remove path => erase path

end Memory

end SourceDiagnostics
