import ClusterAccess.ClientKey
import ClusterAccess.Config.Basic
import ClusterAccess.Kubeconfig.Document
import ClusterAccess.MasterUrl
import ClusterAccess.Text.Blank
import ClusterAccess.Value.Text

/-!
# Merging kubeconfig documents

Of two entries with one name the later one counts, in the place of the earlier. The selected context is
the one asked for, or else the current context of the last document that declares one. Its cluster and
user are carried into the configuration; all other entries have no say. A path in an entry is taken from
the directory of the file that the entry was read from.
-/
namespace ClusterAccess.Merge

/-- An entry at its name: in the place of the entry of that name, or at the end. -/
def putNamed {α : Type} (entry : Named α) : List (Named α) → List (Named α)
  | [] => [entry]
  | e :: rest => if e.name = entry.name then entry :: rest else e :: putNamed entry rest

/-- Each name once, in order of first appearance, with its last entry. -/
def lastNamed {α : Type} (entries : List (Named α)) : List (Named α) :=
  entries.foldl (fun merged entry => putNamed entry merged) []

def findNamed? {α : Type} (name : String) (entries : List (Named α)) : Option (Named α) :=
  entries.find? (·.name == name)

def clusters (docs : List Kubeconfig) : List (Named Cluster) := lastNamed (docs.flatMap (·.clusters))

def users (docs : List Kubeconfig) : List (Named User) := lastNamed (docs.flatMap (·.users))

def contexts (docs : List Kubeconfig) : List (Named Context) := lastNamed (docs.flatMap (·.contexts))

/-- The last current context that is declared and not empty. -/
def declaredContext (docs : List Kubeconfig) : Option String :=
  docs.foldl (fun found doc => (filled doc.currentContext).or found) none

/-- The context asked for, or else the one declared. -/
def selectedName (wanted : Option String) (docs : List Kubeconfig) : Option String :=
  (filled wanted).or (declaredContext docs)

/-- A path as seen from the file that declares it. -/
def resolve (source : Option Path) (path : Option String) : Option String :=
  match path, source with
  | some path, some source =>
    if Path.isAbsoluteText path then some path else some (source.parent.join (Path.ofText path)).text
  | path, _ => path

def socksPrefix : String := "socks5://"

/-- The proxy of a cluster, in the slot of its scheme. A SOCKS proxy goes where the server's scheme says. -/
inductive Proxy where
  | absent
  | http (url : String)
  | https (url : String)
  | unsupported (url : String)

def proxy (server : String) (url : Option String) : Proxy :=
  match filled url with
  | none => .absent
  | some url =>
    if Text.startsWith socksPrefix url then
      if Text.startsWith MasterUrl.httpsPrefix server then .https url else .http url
    else if Text.startsWith MasterUrl.httpsPrefix url then .https url
    else if Text.startsWith MasterUrl.httpPrefix url then .http url
    else .unsupported url

/-- What a cluster says about the configuration. -/
def clusterChanges (c : Named Cluster) : Changes :=
  let cluster := c.value
  let insecure := cluster.insecureSkipTlsVerify.getD false
  let server := cluster.server.getD ""
  ⟨fun
    | .masterUrl => some server
    | .trustCerts => some insecure
    | .disableHostnameVerification => some insecure
    | .tlsServerName => some cluster.tlsServerName
    | .caCertData => some cluster.certificateAuthorityData
    | .caCertFile => some (resolve c.source cluster.certificateAuthority)
    | .httpProxy => match proxy server cluster.proxyUrl with
      | .http url => some (some url)
      | _ => none
    | .httpsProxy => match proxy server cluster.proxyUrl with
      | .https url => some (some url)
      | _ => none
    | _ => none⟩

/-- The trimmed text of a token file; a failure is logged. -/
def readToken (fs : FileSystem) (path : String) : Traced (Option String) := do
  return (← fs.tryText path .warning .merge fun trouble =>
    s!"Error reading token file [{path}]. Ignoring. ({trouble})").map Text.trim

/-- The settings of a plugin that hold a token, the preferred one first. -/
def tokenSettings : List String := ["access-token", "id-token"]

/-- A setting that is there and not empty. -/
def setting? (p : AuthProvider) (key : String) : Option Value :=
  match p.config.find? (·.1 == key) with
  | some (_, v) => if v.isEmpty then none else some v
  | none => none

def settingToken (p : AuthProvider) (key : String) : Option String := (setting? p key).map Value.text

/-- The setting that holds a plugin's token. -/
def tokenSetting? (p : AuthProvider) : Option Value := tokenSettings.findSome? (setting? p)

/-- The token among a plugin's settings. -/
def providerToken (p : AuthProvider) : Option String := (tokenSetting? p).map Value.text

/-- The same, if it can be written. -/
def askPlugin (p : AuthProvider) : Traced (Option String) :=
  if (tokenSetting? p).any Value.hasLongNumber then .fail .longNumber else pure (providerToken p)

/-- The token that a user has inline or in a file. -/
def ownToken (fs : FileSystem) (u : Named User) : Traced (Option String) :=
  match filled u.value.token, filled u.value.tokenFile with
  | some token, _ => pure (some token)
  | none, some file => readToken fs ((resolve u.source (some file)).getD "")
  | none, none => pure u.value.token

/-- A user's token, and the plugin if it was asked for one. -/
def userToken (fs : FileSystem) (u : Named User) : Traced (Option String × Option AuthProvider) := do
  let own ← ownToken fs u
  match filled own, u.value.authProvider with
  | none, some p => return ((← askPlugin p).or own, some p)
  | _, _ => return (own, none)

/-- What a user says about the configuration. -/
def userChanges (u : Named User) (algorithm : Option KeyAlgorithm) (plugin : Option AuthProvider) :
    Changes :=
  let user := u.value
  ⟨fun
    | .clientCertFile => some (resolve u.source user.clientCertificate)
    | .clientCertData => some user.clientCertificateData
    | .clientKeyFile => some (resolve u.source user.clientKey)
    | .clientKeyData => some user.clientKeyData
    | .clientKeyAlgorithm => some algorithm
    | .username => some user.username
    | .password => some user.password
    | .impersonateUsername => some user.impersonate
    | .impersonateGroups => some user.impersonateGroups
    | .impersonateExtras => some user.impersonateExtra
    | .authProvider => plugin.map some
    | _ => none⟩

def applyCluster (cluster : Named Cluster) (c : Config) : Traced Config := do
  if let .unsupported url := proxy (cluster.value.server.getD "") cluster.value.proxyUrl then
    .warn .merge s!"Ignoring proxy-url with unsupported scheme: {url}"
  return c.evolve (clusterChanges cluster)

def applyUser (fs : FileSystem) (u : Named User) (c : Config) : Traced Config := do
  let algorithm ← ClientKey.algorithm fs (resolve u.source u.value.clientKey) u.value.clientKeyData
  let (token, plugin) ← userToken fs u
  return (c.evolve (userChanges u algorithm plugin)).withAutoToken token

/-- A name in a message, `None` if there is none. -/
def shownName (name : Option String) : String := name.getD "None"

/-- The user that a context refers to, over a configuration. An unknown user is passed over. -/
def selectUser (fs : FileSystem) (docs : List Kubeconfig) (context : Named Context) (c : Config) :
    Traced Config :=
  match findNamed? (context.value.user.getD "") (users docs) with
  | some u => applyUser fs u c
  | none => do
    if (filled context.value.user).isSome then
      .warn .merge
        s!"Context '{context.name}' references unknown user '{shownName context.value.user}'"
    return c

/-- The cluster and the user that a context refers to, over a configuration. Without the cluster the user
has no say either. -/
def select (fs : FileSystem) (docs : List Kubeconfig) (context : Named Context) (c : Config) :
    Traced Config :=
  match findNamed? (context.value.cluster.getD "") (clusters docs) with
  | some cluster => do selectUser fs docs context (← applyCluster cluster c)
  | none => do
    .warn .merge
      s!"Context '{context.name}' references unknown cluster '{shownName context.value.cluster}'"
    return c

/-- The documents merged over a configuration. -/
def documents (fs : FileSystem) (wanted : Option String) (docs : List Kubeconfig) (target : Config) :
    Traced Config := do
  let merged := (target.set .contexts (contexts docs)).set .source Source.kubeconfig
  match selectedName wanted docs with
  | none =>
    .debug .merge "No current context declared in kubeconfig"
    return merged
  | some name =>
    match findNamed? name (contexts docs) with
    | none => .fail (.unknownContext name ((contexts docs).map (·.name)))
    | some context =>
      .debug .merge s!"Using kubeconfig context: {name}"
      select fs docs context
        ((merged.set .currentContext (some context)).set .namespaceName context.value.namespaceName)

end ClusterAccess.Merge
