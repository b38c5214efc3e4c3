import ClusterAccess.CommandLine.Files
import ClusterAccess.FileSystem.FileTree

/-!
# The program

Reads the variables and the files that a run may look at, runs it on them, and writes what it leaves
behind.
-/
namespace ClusterAccess.CommandLine

def readVariables : IO (List (String × String)) := do
  let found ← variableNames.mapM fun name => do
    return (← IO.getEnv name).map (name, ·)
  return found.filterMap id

/-- The file as far as it can be read. -/
def readFile (t : FileTree) (path : String) : IO FileTree := do
  try
    return t.write path (unified (← IO.FS.readBinFile path).toList)
  catch
    | .permissionDenied .. => return t.deny path
    | _ => return t

def readFiles (t : FileTree) (paths : List String) : IO FileTree := paths.foldlM readFile t

/-- Something that is there and holds no octets. -/
def isDirectory (path : String) : IO Bool := do
  try
    let _ ← IO.FS.readBinFile path
    return false
  catch
    | .inappropriateType .. => return true
    | _ => return false

end ClusterAccess.CommandLine

open ClusterAccess CommandLine in
def main (args : List String) : IO UInt32 := do
  let environment ← readVariables
  let directory := (Path.ofText (toString (← IO.currentDir))).names
  let directories ← args.filterM isDirectory
  let surroundings (t : FileTree) : Surroundings :=
    let fs := t.fileSystem directory
    ⟨(List.lookup · environment), fs, fs, environment.lookup "HOME", directories.contains⟩
  let t ← readFiles .empty (namedFiles (surroundings .empty) args)
  let t ← readFiles t (referencedFiles (surroundings t) args)
  let o := run (surroundings t) args
  IO.print o.output
  IO.eprint o.errors
  return UInt32.ofNat o.status
