import ClusterAccess.Config.Basic
import ClusterAccess.MasterUrl
import ClusterAccess.FileSystem.Access
import ClusterAccess.Options.Probe
import ClusterAccess.Text.Blank

/-!
# Service accounts

Inside a pod the address of the API server is in two variables, and the account's token, its CA bundle
and its namespace are files. Every step does what it can: a file that is missing leaves its field unset.
-/
namespace ClusterAccess.ServiceAccount

def tokenPath : String := "/var/run/secrets/kubernetes.io/serviceaccount/token"

def caPath : String := "/var/run/secrets/kubernetes.io/serviceaccount/ca.crt"

def namespacePath : String := "/var/run/secrets/kubernetes.io/serviceaccount/namespace"

/-- The address that host and port give, if both are known. -/
def masterUrl? (p : Probe) : Option String := do
  let host ← p.get? Options.serviceHost
  let port ← p.get? Options.servicePort
  return MasterUrl.hostPort host port

/-- The file that holds the CA bundle, if there is one. -/
def findCa (p : Probe) (fs : FileSystem) : Traced (Option String) := do
  let path := p.getD Options.caCertFile caPath
  if ← fs.checkFile path then
    .debug .serviceAccount s!"Found service account ca cert at: [{path}]."
    return some path
  else
    .debug .serviceAccount s!"Did not find service account ca cert at: [{path}]."
    return none

def findTokenFile (p : Probe) (fs : FileSystem) : Traced (Option String) := do
  match p.get? Options.serviceAccountTokenFile with
  | some path => return some path
  | none =>
    if ← fs.checkFile tokenPath then return some tokenPath
    else
      .debug .serviceAccount ("Could not find the service account token at the default location: " ++
        s!"[{tokenPath}]. Ignoring.")
      return none

/-- The trimmed text of the token file. -/
def findToken (p : Probe) (fs : FileSystem) : Traced (Option String) := do
  match ← findTokenFile p fs with
  | none => return none
  | some path =>
    match ← fs.tryText path .warning .serviceAccount (fun trouble =>
        s!"Error reading service account token from: [{path}]. Ignoring. ({trouble})") with
    | none => return none
    | some text =>
      .debug .serviceAccount s!"Found service account token at: [{path}]."
      return some (Text.trim text)

/-- What the pod offers. -/
structure Findings where
  address : Option String
  caFile : Option String
  token : Option String

def Findings.isEmpty (f : Findings) : Bool := f.address.isNone && f.caFile.isNone && f.token.isNone

def Findings.changes (f : Findings) : Changes :=
  ⟨fun
    | .masterUrl => f.address.map (MasterUrl.httpsPrefix ++ ·)
    | .caCertFile => f.caFile.map some
    | .source => if f.isEmpty then none else some Source.serviceAccount
    | _ => none⟩

/-- The configuration with the findings laid over it. -/
def Findings.apply (f : Findings) (c : Config) : Config :=
  let c := c.evolve f.changes
  match f.token with
  | some token => c.withAutoToken (some token)
  | none => c

/-- What the pod's files offer beside its address. -/
def fileFindings (p : Probe) (fs : FileSystem) (address : Option String) : Traced Findings := do
  if p.getTruth Options.tryServiceAccount true then
    let caFile ← findCa p fs
    let token ← findToken p fs
    return ⟨address, caFile, token⟩
  else return ⟨address, none, none⟩

def findings (p : Probe) (fs : FileSystem) : Traced Findings := do
  let address := masterUrl? p
  if let some address := address then
    .debug .serviceAccount s!"Found service account host and port: {address}"
  fileFindings p fs address

/-- Address, CA bundle and token of the pod over a configuration. -/
def apply (p : Probe) (fs : FileSystem) (c : Config) : Traced Config := do
  .debug .serviceAccount "Trying to configure client from service account..."
  return (← findings p fs).apply c

/-- A text without line ends. -/
def oneLine (s : String) : String := String.ofList (s.toList.filter fun c => c != '\r' && c != '\n')

def findNamespace (p : Probe) (fs : FileSystem) : Traced (Option String) := do
  if p.getTruth Options.tryNamespacePath true then
    let path := p.getD Options.namespaceFile namespacePath
    if ← fs.checkFile path then
      .debug .serviceAccount s!"Found service account namespace at: [{path}]."
      let text? ← fs.tryText path .error .serviceAccount fun trouble =>
        s!"Error reading service account namespace from: [{path}]: {trouble}"
      return text?.map oneLine
    else
      .debug .serviceAccount s!"Did not find service account namespace at: [{path}]. Ignoring."
      return none
  else return none

/-- The namespace of the pod over a configuration. -/
def applyNamespace (p : Probe) (fs : FileSystem) (c : Config) : Traced Config := do
  .debug .serviceAccount
    "Trying to configure client namespace from Kubernetes service account namespace path..."
  match ← findNamespace p fs with
  | some name => return c.set .namespaceName (some name)
  | none => return c

end ClusterAccess.ServiceAccount
