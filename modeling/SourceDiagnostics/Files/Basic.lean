import SourceDiagnostics.FileError
import SourceDiagnostics.Path

/-!
File stores: places where paths lead to contents. What a store has at a path is a file, a
directory, or something that cannot be read; a store can be edited by putting something at a path
or taking it away.
-/

namespace SourceDiagnostics

inductive Entry where
  | file (contents : Bytes)
  | directory
  | unreadable (error : FileError)
  deriving DecidableEq, Repr, Inhabited

inductive Edit where
  | write (path : Path) (entry : Entry)
  | remove (path : Path)
  deriving DecidableEq, Repr

/-- A kind of file store. Reading does not change a store; an edit is made as far as it is
possible, and cannot fail. -/
class FileStore (φ : Type) where
  read : φ → Path → Except FileError Bytes
  edit : Edit → φ → φ

namespace FileError

/-! The errors of a file system. -/

def noEntry : FileError := ⟨.notFound, "No such file or directory (os error 2)"⟩

def isDirectory : FileError := ⟨.isADirectory, "Is a directory (os error 21)"⟩

def noDirectory : FileError := ⟨.notADirectory, "Not a directory (os error 20)"⟩

def nameTooLong : FileError := ⟨.invalidFilename, "File name too long (os error 36)"⟩

def nulInName : FileError := ⟨.invalidInput, "file name contained an unexpected NUL byte"⟩

end FileError

def Entry.read : Entry → Except FileError Bytes
  | .file contents => .ok contents
  | .directory => .error .isDirectory
  | .unreadable error => .error error

end SourceDiagnostics
