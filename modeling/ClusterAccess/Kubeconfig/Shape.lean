import ClusterAccess.Check.Shape
import ClusterAccess.Kubeconfig.Document

/-!
# The shape of kubeconfig documents

Which values are kubeconfig documents. Entries that are not named here may be there and are passed over.
Where a list is wanted, null is the empty list and any other value that is no list is a list of itself
alone.
-/
namespace ClusterAccess.Kubeconfig

open Shape

/-- A list for a value that may be missing or stand alone. -/
def asList : Value → Value
  | .null => .list []
  | .list vs => .list vs
  | v => .list [v]

def authProvider (v : Value) : Checked AuthProvider :=
  v |> record "AuthProviderConfig" fun es =>
    AuthProvider.mk <$> required (plain "name") text es
      <*> field (plain "config") [] (fun v => mapping .ok (if v.isEmpty then .map [] else v)) es

def cluster (v : Value) : Checked Cluster :=
  v |> record "Cluster" fun es =>
    Cluster.mk <$> maybe (plain "server") text es
      <*> maybe ⟨"certificate-authority", "certificate_authority"⟩ text es
      <*> maybe ⟨"certificate-authority-data", "certificate_authority_data"⟩ text es
      <*> maybe ⟨"insecure-skip-tls-verify", "insecure_skip_tls_verify"⟩ truth es
      <*> maybe ⟨"proxy-url", "proxy_url"⟩ text es
      <*> maybe ⟨"tls-server-name", "tls_server_name"⟩ text es

/-- Extra attributes: texts in lists, where an attribute that stands alone is a list of itself. A value
that is neither empty nor a mapping has no entries to ask for. -/
def extras (v : Value) : Checked (List (String × List String)) :=
  if v.isEmpty then .ok []
  else match v with
    | .map entries => mapping (list text) (.map (entries.map fun (k, v) => (k, asList v)))
    | v => .stop v.qualifiedKind

def user (v : Value) : Checked User :=
  v |> record "AuthInfo" fun es =>
    User.mk <$> maybe ⟨"client-certificate", "client_certificate"⟩ text es
      <*> maybe ⟨"client-certificate-data", "client_certificate_data"⟩ text es
      <*> maybe ⟨"client-key", "client_key"⟩ text es
      <*> maybe ⟨"client-key-data", "client_key_data"⟩ text es
      <*> maybe (plain "token") text es
      <*> maybe ⟨"tokenFile", "token_file"⟩ text es
      <*> maybe (plain "username") text es
      <*> maybe (plain "password") text es
      <*> maybe ⟨"auth-provider", "auth_provider"⟩ authProvider es
      <*> maybe ⟨"as", "impersonate"⟩ text es
      <*> field ⟨"as-groups", "impersonate_groups"⟩ [] (fun v => list text (asList v)) es
      <*> field ⟨"as-user-extra", "impersonate_user_extra"⟩ [] extras es

def context (v : Value) : Checked Context :=
  v |> record "Context" fun es =>
    Context.mk <$> maybe (plain "cluster") text es
      <*> maybe (plain "user") text es
      <*> maybe (plain "namespace") text es

/-- A named entry, whose content stands under `key`. -/
def named {α : Type} (name key : String) (default : α) (content : Value → Checked α) (v : Value) :
    Checked (Named α) :=
  v |> record name fun es =>
    Named.mk <$> required (plain "name") text es
      <*> field (plain key) default content es
      <*> maybe (plain "source_file") path es

def namedContext : Value → Checked (Named Context) := named "NamedContext" "context" .empty context

def section? {α : Type} (key : String) (entry : Value → Checked α) (es : Entries) : Checked (List α) :=
  field (plain key) [] (fun v => list entry (asList v)) es

/-- How many mappings are looked into, one inside the other: the document, an entry, its content, a plugin and
the settings of the plugin. The settings may hold anything. -/
def depth : Nat := 5

/-- The document that a mapping holds. -/
def ofEntries (es : Entries) : Checked Kubeconfig :=
  Kubeconfig.mk <$> maybe ⟨"apiVersion", "api_version"⟩ text es
    <*> maybe (plain "kind") text es
    <*> section? "clusters" (named "NamedCluster" "cluster" .empty cluster) es
    <*> section? "users" (named "NamedAuthInfo" "user" .empty user) es
    <*> section? "contexts" namedContext es
    <*> maybe ⟨"current-context", "current_context"⟩ text es
    <*> maybe (plain "source_file") path es

end ClusterAccess.Kubeconfig
