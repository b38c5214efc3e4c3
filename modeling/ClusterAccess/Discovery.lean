import ClusterAccess.FileSystem.Access
import ClusterAccess.Options.Probe
import ClusterAccess.Path

/-!
# Finding the kubeconfig file

The `kubeconfig` option names the file; without it, it is `.kube/config` in the home directory. Of
several paths only the first counts. A candidate is usable when it is a file with text that is not blank;
finding none is normal.
-/
namespace ClusterAccess.Discovery

/-- Places that may be the home directory: `HOME`, and on Windows the drive and path and the profile. -/
def homePlaces (lookup? : String → Option String) (windows : Bool) : List String :=
  let filled (name : String) : Option String := (lookup? name).filter (· ≠ "")
  let drive : Option String := do
    let drive ← filled "HOMEDRIVE"
    let path ← filled "HOMEPATH"
    return drive ++ path
  (filled "HOME").toList ++ (if windows then drive.toList ++ (filled "USERPROFILE").toList else [])

/-- The user's home directory: the first of the places that is a directory, and last what the platform
says, or the current directory. -/
def findHome {m : Type → Type} [Monad m] (isDirectory : String → m Bool)
    (lookup? : String → Option String) (windows : Bool) (platformHome : Option String) : m String := do
  let place? ← (homePlaces lookup? windows).findM? isDirectory
  return place?.getD (platformHome.getD ".")

/-- The home directory where every test has an answer. -/
def homeDirectory (isDirectory : String → Bool) (lookup? : String → Option String) (windows : Bool)
    (platformHome : Option String) : String :=
  Id.run (findHome (fun path => pure (isDirectory path)) lookup? windows platformHome)

/-- Where configuration files are looked for when the home directory is not given. -/
structure Home where
  given : Option String
  platform : Option String

/-- The home directory, if it can be told. -/
def Home.path (h : Home) (p : Probe) (fs : FileSystem) : Except ReadFault String :=
  match h.given with
  | some home => .ok home
  | none => findHome fs.testDirectory p.get? false h.platform

/-- The default place of the kubeconfig file. -/
def defaultFile (home : String) : String := Path.joinText (Path.joinText home ".kube") "config"

/-- The name that is tried, with the home directory at hand. -/
def nameTried (p : Probe) (home : String) : String :=
  Text.before ':' (p.getD Options.kubeconfigFile (defaultFile home))

/-- The candidates, in the order in which they are tried: one or none. -/
def names (p : Probe) (fs : FileSystem) (h : Home) : Except ReadFault (List String) :=
  (h.path p fs).map fun home => if nameTried p home = "" then [] else [nameTried p home]

/-- The candidates as far as they can be told. -/
def candidates (p : Probe) (fs : FileSystem) (h : Home) : List String :=
  (names p fs h).toOption.getD []

/-- The text of a file; a failure is logged. -/
def load (fs : FileSystem) (path : String) : Traced (Option String) :=
  fs.tryText path .error .discovery fun trouble =>
    s!"Could not load Kubernetes config file from {path}: {trouble}"

/-- Whether a candidate can be used. -/
def isUsable (fs : FileSystem) (path : String) : Traced Bool := do
  if ← fs.checkFile path then
    let text? ← load fs path
    if (text?.map Text.isBlankText).getD true then
      .debug .discovery s!"Kubernetes config at [{path}] is empty. Ignoring."
      return false
    return true
  else
    .debug .discovery s!"Did not find Kubernetes config at: [{path}]. Ignoring."
    return false

/-- The usable kubeconfig files. -/
def find (p : Probe) (fs : FileSystem) (h : Home) : Traced (List Path) := do
  .debug .discovery "Trying to configure client from Kubernetes config..."
  if p.getTruth Options.tryKubeconfig true then
    let names ← Traced.ofExcept ((names p fs h).mapError .unreadable)
    let usable ← names.filterM (isUsable fs)
    return usable.map Path.ofText
  else
    .debug .discovery s!"Kubeconfig discovery disabled by {Options.tryKubeconfig}"
    return []

end ClusterAccess.Discovery
