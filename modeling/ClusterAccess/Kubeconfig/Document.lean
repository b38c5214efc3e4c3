import ClusterAccess.Path
import ClusterAccess.Value.Basic

/-!
# Kubeconfig documents

Named clusters, users and contexts, and the name of the current context. Every entry remembers the file
that it was read from.
-/
namespace ClusterAccess

/-- Settings of a plugin that supplies credentials. -/
structure AuthProvider where
  name : String
  config : List (String × Value)
  deriving Repr

structure Cluster where
  server : Option String
  certificateAuthority : Option String
  certificateAuthorityData : Option String
  insecureSkipTlsVerify : Option Bool
  proxyUrl : Option String
  tlsServerName : Option String
  deriving Repr, DecidableEq

structure User where
  clientCertificate : Option String
  clientCertificateData : Option String
  clientKey : Option String
  clientKeyData : Option String
  token : Option String
  tokenFile : Option String
  username : Option String
  password : Option String
  authProvider : Option AuthProvider
  impersonate : Option String
  impersonateGroups : List String
  impersonateExtra : List (String × List String)
  deriving Repr

/-- A cluster, a user and a namespace to work in. -/
structure Context where
  cluster : Option String
  user : Option String
  namespaceName : Option String
  deriving Repr, DecidableEq

/-- An entry with its name and the file that it was read from. -/
structure Named (α : Type) where
  name : String
  value : α
  source : Option Path
  deriving Repr, BEq, DecidableEq

structure Kubeconfig where
  apiVersion : Option String
  kind : Option String
  clusters : List (Named Cluster)
  users : List (Named User)
  contexts : List (Named Context)
  currentContext : Option String
  source : Option Path
  deriving Repr

def Cluster.empty : Cluster := ⟨none, none, none, none, none, none⟩

def User.empty : User := ⟨none, none, none, none, none, none, none, none, none, none, [], []⟩

def Context.empty : Context := ⟨none, none, none⟩

def Named.from {α : Type} (path : Path) (n : Named α) : Named α := { n with source := some path }

/-- The document, read from `path`, and so all its entries. -/
def Kubeconfig.from (path : Path) (k : Kubeconfig) : Kubeconfig :=
  { k with
    source := some path
    clusters := k.clusters.map (Named.from path)
    users := k.users.map (Named.from path)
    contexts := k.contexts.map (Named.from path) }

/-- Sameness of the settings of plugins: the order of their entries does not count. -/
def AuthProvider.same (a b : AuthProvider) : Bool :=
  let values (p : AuthProvider) : Value := .map (p.config.map fun (k, v) => (.str k, v))
  a.name == b.name && (values a).same (values b)

end ClusterAccess
