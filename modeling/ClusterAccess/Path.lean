import ClusterAccess.Text.Split

/-!
# Paths

A path in normal form: its root, and the names along it without empty names and `.`. A name `..` stays,
because what it stands for depends on the disk. Two leading slashes are a root of their own; three or
more are one.
-/
namespace ClusterAccess

inductive Path.Root where
  | relative
  | slash
  | doubleSlash
  deriving DecidableEq, Repr

structure Path where
  root : Path.Root
  names : List String
  deriving DecidableEq, Repr

namespace Path

def rootOf : List Char → Root
  | '/' :: '/' :: '/' :: _ => .slash
  | '/' :: '/' :: _ => .doubleSlash
  | '/' :: _ => .slash
  | _ => .relative

/-- The path that a text spells. -/
def ofText (s : String) : Path :=
  ⟨rootOf s.toList, (Text.split '/' s).filter fun name => name ≠ "" ∧ name ≠ "."⟩

def Root.text : Root → String
  | .relative => ""
  | .slash => "/"
  | .doubleSlash => "//"

/-- The normal spelling, `.` for the empty path. -/
def text (p : Path) : String :=
  let s := p.root.text ++ "/".intercalate p.names
  if s = "" then "." else s

instance : ToString Path := ⟨text⟩

def isAbsolute (p : Path) : Bool := p.root ≠ .relative

/-- The directory that holds the path; a root and the empty path are their own. -/
def parent (p : Path) : Path := { p with names := p.names.dropLast }

/-- The second path, taken from the directory that the first one names. -/
def join (p q : Path) : Path := if q.isAbsolute then q else { p with names := p.names ++ q.names }

/-- The path as it is from the root; a relative one starts at the directory with the given names. -/
def absolute (directory : List String) (p : Path) : Path := Path.join ⟨.slash, directory⟩ p

/-- A spelling is absolute when it starts with a slash. -/
def isAbsoluteText (s : String) : Bool := Text.startsWith "/" s

/-- A spelled name below a spelled directory, with one slash between them. -/
def joinText (directory name : String) : String :=
  if isAbsoluteText name then name
  else if directory = "" ∨ directory.toList.getLast? = some '/' then directory ++ name
  else directory ++ "/" ++ name

theorem isAbsolute_absolute (directory : List String) (p : Path) :
    (p.absolute directory).isAbsolute = true := by
  by_cases h : p.root = .relative <;> simp [absolute, join, isAbsolute, h]

theorem absolute_of_isAbsolute (directory : List String) {p : Path} (h : p.isAbsolute = true) :
    p.absolute directory = p := by
  simp [absolute, join, h]

end Path

end ClusterAccess
