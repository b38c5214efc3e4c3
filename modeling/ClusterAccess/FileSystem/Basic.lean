import ClusterAccess.Path
import ClusterAccess.Text.Surrogate
import ClusterAccess.Text.Utf8

/-!
# File access

Resolving a configuration asks three things of the disk: is this a file, is this a directory, and what
text does this file hold. Each of them may fail. Paths are spelled out as texts; relative ones start at the
current directory.
-/
namespace ClusterAccess

/-- Why a path leads to no file, or a file gives no text. -/
inductive ReadFault where
  | missing (path : String)
  | denied (path : String)
  | isDirectory (path : String)
  | notDirectory (path : String)
  | tooLong (path : String)
  | badPath
  | unencodable (fault : Text.Unencodable)
  | notText (malformed : Utf8.Malformed)
  deriving DecidableEq, Repr

def ReadFault.message : ReadFault → String
  | .missing path => s!"No such file: {path}"
  | .denied path => s!"Permission denied: {path}"
  | .isDirectory path => s!"Is a directory: {path}"
  | .notDirectory path => s!"Not a directory: {path}"
  | .tooLong path => s!"File name too long: {path}"
  | .badPath => "embedded null byte"
  | .unencodable fault => fault.message
  | .notText malformed => malformed.message

def ReadFault.name : ReadFault → String
  | .missing _ => "FileNotFoundError"
  | .denied _ => "PermissionError"
  | .isDirectory _ => "IsADirectoryError"
  | .notDirectory _ => "NotADirectoryError"
  | .tooLong _ => "OSError"
  | .badPath => "ValueError"
  | .unencodable _ => "UnicodeEncodeError"
  | .notText _ => "UnicodeDecodeError"

/-- The trouble is with the disk or with what a file holds, not with the path as a text: no file can have
such a path. -/
def ReadFault.isOfFile : ReadFault → Bool
  | .badPath | .unencodable _ => false
  | _ => true

structure FileSystem where
  /-- The names on the way from the root to the current directory. -/
  directory : List String
  /-- Whether a path names a file, if that can be told. -/
  testFile : String → Except ReadFault Bool
  /-- Whether a path names a directory, if that can be told. -/
  testDirectory : String → Except ReadFault Bool
  readText : String → Except ReadFault String

namespace FileSystem

def absolute (fs : FileSystem) (p : Path) : Path := p.absolute fs.directory

/-- The path is found to name a file. -/
def isFile (fs : FileSystem) (path : String) : Bool := (fs.testFile path).toOption.getD false

/-- The path is found to name a directory. -/
def isDirectory (fs : FileSystem) (path : String) : Bool := (fs.testDirectory path).toOption.getD false

end FileSystem

/-- The text of some octets. -/
def readOctets (octets : List UInt8) : Except ReadFault String :=
  (Utf8.decode octets).mapError .notText

end ClusterAccess
