import ClusterAccess.FileSystem.Basic
import ClusterAccess.Text.Split

/-!
# Files held in memory

A finite set of named files, some of which may not be read. Names are compared as texts. A directory is
what some file's name starts with.
-/
namespace ClusterAccess

structure FileTree where
  files : List (String × List UInt8)
  denied : List String
  deriving Repr

namespace FileTree

def empty : FileTree := ⟨[], []⟩

def contents? (t : FileTree) (path : String) : Option (List UInt8) :=
  (t.files.find? (·.1 == path)).map (·.2)

def isFile (t : FileTree) (path : String) : Bool :=
  (t.contents? path).isSome || t.denied.contains path

/-- The path as a prefix of what lies below it: with one slash at the end. -/
def below (path : String) : String :=
  String.ofList ((path.toList.reverse.dropWhile (· == '/')).reverse ++ ['/'])

def isDirectory (t : FileTree) (path : String) : Bool :=
  t.files.any fun (name, _) => Text.startsWith (below path) name

def readText (t : FileTree) (path : String) : Except ReadFault String :=
  if t.denied.contains path then .error (.denied path)
  else match t.contents? path with
    | some octets => readOctets octets
    | none => .error (.missing path)

def fileSystem (t : FileTree) (directory : List String) : FileSystem :=
  ⟨directory, fun path => .ok (t.isFile path), fun path => .ok (t.isDirectory path), t.readText⟩

/-- The file holds these octets and can be read. -/
def write (t : FileTree) (path : String) (octets : List UInt8) : FileTree :=
  ⟨(path, octets) :: t.files.filter (·.1 != path), t.denied.filter (· != path)⟩

def remove (t : FileTree) (path : String) : FileTree :=
  { t with files := t.files.filter (·.1 != path) }

def deny (t : FileTree) (path : String) : FileTree := { t with denied := path :: t.denied }

end FileTree

end ClusterAccess
