import ClusterAccess.FileSystem.Basic
import ClusterAccess.Path
import ClusterAccess.Text.Lines

/-!
# Files on a disk

Files and directories by their absolute names. A path is followed name by name: `..` leads up, no name
leads on from a file, and none from a directory that may not be searched. Line ends of every kind are read
as line feeds.
-/
namespace ClusterAccess

structure Disk where
  /-- The current directory. -/
  directory : List String
  files : List (List String × List UInt8)
  directories : List (List String)

/-- What one may not do on a disk: search some directories, and read some files. -/
structure Denials where
  search : List (List String)
  read : List (List String)

def Denials.none : Denials := ⟨[], []⟩

/-- The octets that a name may have. -/
def maxName : Nat := 255

/-- The octets that a path may have. -/
def maxPath : Nat := 4095

/-- Nothing is there: the path leads nowhere, or it is none that anything can have. -/
def ReadFault.isAbsence : ReadFault → Bool
  | .missing _ | .notDirectory _ | .badPath | .unencodable _ => true
  | _ => false

namespace Disk

def contents? (d : Disk) (names : List String) : Option (List UInt8) :=
  (d.files.find? (·.1 == names)).map (·.2)

def holdsDirectory (d : Disk) (names : List String) : Bool :=
  names.isEmpty || d.directories.any (names.isPrefixOf ·) ||
    d.files.any fun (file, _) => names.isPrefixOf file && names != file

/-- Where the names lead from a place that has been reached. -/
def follow (d : Disk) (denied : Denials) (path : String) (reached : List String) :
    List String → Except ReadFault (List String)
  | [] => .ok reached
  | name :: rest =>
    if d.holdsDirectory reached then
      if denied.search.contains reached then .error (.denied path)
      else if maxName < Text.octetCount name then .error (.tooLong path)
      else d.follow denied path (if name = ".." then reached.dropLast else reached ++ [name]) rest
    else if (d.contents? reached).isSome then .error (.notDirectory path)
    else .error (.missing path)

def find (d : Disk) (denied : Denials) (path : String) : Except ReadFault (List String) :=
  match Text.unnameable? path with
  | some fault => .error (.unencodable fault)
  | none =>
    if path.toList.contains (Char.ofNat 0) then .error .badPath
    else if maxPath < Text.octetCount path then .error (.tooLong path)
    else d.follow denied path [] ((Path.ofText path).absolute d.directory).names

/-- Whether a path leads to names of a kind. -/
def test (d : Disk) (denied : Denials) (kind : List String → Bool) (path : String) :
    Except ReadFault Bool :=
  match d.find denied path with
  | .ok names => .ok (kind names)
  | .error fault => if fault.isAbsence then .ok false else .error fault

def readText (d : Disk) (denied : Denials) (path : String) : Except ReadFault String := do
  let names ← d.find denied path
  if denied.read.contains names then throw (.denied path)
  if d.holdsDirectory names then throw (.isDirectory path)
  match d.contents? names with
  | some octets => return String.ofList (Text.unifyLineEnds (← readOctets octets).toList)
  | none => throw (.missing path)

/-- The disk for someone who may not do everything. -/
def guarded (d : Disk) (denied : Denials) : FileSystem :=
  ⟨d.directory, d.test denied fun names => (d.contents? names).isSome, d.test denied d.holdsDirectory,
    d.readText denied⟩

def fileSystem (d : Disk) : FileSystem := d.guarded .none

end Disk

end ClusterAccess
