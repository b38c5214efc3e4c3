import ClusterAccess.CommandLine.Run
import ClusterAccess.Kubeconfig.Parse
import ClusterAccess.Merge
import ClusterAccess.Text.Lines

/-!
# Files that a run may read

Options and defaults name some files, and kubeconfig documents refer to others. With all of them at hand
a run needs nothing else from the disk.
-/
namespace ClusterAccess.CommandLine

/-- Options whose value is the name of a file, and the file without the option. -/
def fileOptions : List (String × Option String) :=
  [(Options.caCertFile, some ServiceAccount.caPath),
   (Options.serviceAccountTokenFile, some ServiceAccount.tokenPath),
   (Options.namespaceFile, some ServiceAccount.namespacePath),
   (Options.clientKeyFile, none)]

def optionFiles (p : Probe) : List String :=
  fileOptions.filterMap fun (name, default) => (p.get? name).or default

/-- The kubeconfig file that the arguments give. -/
def givenFile? (args : List String) : Option String :=
  match request (fun _ => false) args with
  | .ok (.run _ settings) => filled settings.kubeconfig
  | _ => none

def kubeconfigFiles (s : Surroundings) (args : List String) : List String :=
  ((givenFile? args).map fun path => (Path.ofText path).text).toList ++
    Discovery.candidates s.world.probe s.fs s.world.home

/-- Files that are read whatever other files hold. -/
def namedFiles (s : Surroundings) (args : List String) : List String :=
  kubeconfigFiles s args ++ optionFiles s.world.probe

def clusterFiles (c : Named Cluster) : List (Option String) :=
  [Merge.resolve c.source c.value.certificateAuthority]

def userFiles (u : Named User) : List (Option String) :=
  [u.value.clientCertificate, u.value.clientKey, u.value.tokenFile].map (Merge.resolve u.source)

/-- The files that a document refers to. -/
def documentFiles (k : Kubeconfig) : List String :=
  (k.clusters.flatMap clusterFiles ++ k.users.flatMap userFiles).filterMap id

/-- The files that the kubeconfig files refer to. -/
def referencedFiles (s : Surroundings) (args : List String) : List String :=
  (kubeconfigFiles s args).flatMap fun path =>
    match Kubeconfig.read s.fs (Path.ofText path) with
    | .ok k => documentFiles k
    | .error _ => []

/-- Octets with the line ends of their text unified; octets of no text stay as they are. -/
def unified (octets : List UInt8) : List UInt8 :=
  match Utf8.decode octets with
  | .ok s => Utf8.encodeText (String.ofList (Text.unifyLineEnds s.toList))
  | .error _ => octets

/-- The variables that a run looks at. -/
def variableNames : List String := ["HOME", debugVariable] ++ Options.names.map Options.variableName

end ClusterAccess.CommandLine
