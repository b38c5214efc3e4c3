import ClusterAccess.Config.Vocabulary
import ClusterAccess.Kubeconfig.Document

/-!
# Fields of a configuration

A configuration gives a value to every field. Every field has a kind, which says what its values are, a
name, and a value that it has by default. Names are spelled as in documents and messages.
-/
namespace ClusterAccess

/-- What the values of a field are. -/
inductive FieldKind where
  | text
  | maybeText
  | truth
  | integer
  | texts
  | textLists
  | textMap
  | keyAlgorithm
  | tlsVersions
  | tokenProvider
  | authProvider
  | request
  | contexts
  | currentContext
  | source
  deriving DecidableEq, Repr

abbrev FieldKind.Value : FieldKind → Type
  | .text => String
  | .maybeText => Option String
  | .truth => Bool
  | .integer => Int
  | .texts => List String
  | .textLists => List (String × List String)
  | .textMap => List (String × String)
  | .keyAlgorithm => Option KeyAlgorithm
  | .tlsVersions => List TlsVersion
  | .tokenProvider => Option TokenProvider
  | .authProvider => Option AuthProvider
  | .request => RequestPolicy
  | .contexts => List (Named Context)
  | .currentContext => Option (Named Context)
  | .source => Source

inductive Field where
  | masterUrl
  | apiVersion
  | namespaceName
  | defaultNamespace
  | trustCerts
  | disableHostnameVerification
  | tlsServerName
  | caCertFile
  | caCertData
  | clientCertFile
  | clientCertData
  | clientKeyFile
  | clientKeyData
  | clientKeyAlgorithm
  | clientKeyPassphrase
  | trustStoreFile
  | trustStorePassphrase
  | keyStoreFile
  | keyStorePassphrase
  | oauthToken
  | tokenProvider
  | username
  | password
  | authProvider
  | impersonateUsername
  | impersonateGroups
  | impersonateExtras
  | httpProxy
  | httpsProxy
  | proxyUsername
  | proxyPassword
  | noProxy
  | tlsVersions
  | websocketPingInterval
  | connectionTimeout
  | maxConcurrentRequests
  | maxConcurrentRequestsPerHost
  | http2Disable
  | userAgent
  | customHeaders
  | request
  | contexts
  | currentContext
  | autoConfigured
  | source
  deriving DecidableEq, Repr

namespace Field

/-- All fields, in the order in which a configuration is shown. -/
def all : List Field :=
  [.masterUrl, .apiVersion, .namespaceName, .defaultNamespace, .trustCerts,
   .disableHostnameVerification, .tlsServerName, .caCertFile, .caCertData, .clientCertFile,
   .clientCertData, .clientKeyFile, .clientKeyData, .clientKeyAlgorithm, .clientKeyPassphrase,
   .trustStoreFile, .trustStorePassphrase, .keyStoreFile, .keyStorePassphrase, .oauthToken,
   .tokenProvider, .username, .password, .authProvider, .impersonateUsername, .impersonateGroups,
   .impersonateExtras, .httpProxy, .httpsProxy, .proxyUsername, .proxyPassword, .noProxy, .tlsVersions,
   .websocketPingInterval, .connectionTimeout, .maxConcurrentRequests, .maxConcurrentRequestsPerHost,
   .http2Disable, .userAgent, .customHeaders, .request, .contexts, .currentContext, .autoConfigured,
   .source]

theorem mem_all (f : Field) : f ∈ all := by cases f <;> decide

@[reducible] def kind : Field → FieldKind
  | masterUrl | apiVersion | clientKeyPassphrase | userAgent => .text
  | namespaceName | tlsServerName | caCertFile | caCertData | clientCertFile | clientCertData
  | clientKeyFile | clientKeyData | trustStoreFile | trustStorePassphrase | keyStoreFile
  | keyStorePassphrase | oauthToken | username | password | impersonateUsername | httpProxy
  | httpsProxy | proxyUsername | proxyPassword => .maybeText
  | defaultNamespace | trustCerts | disableHostnameVerification | http2Disable | autoConfigured => .truth
  | websocketPingInterval | connectionTimeout | maxConcurrentRequests
  | maxConcurrentRequestsPerHost => .integer
  | impersonateGroups | noProxy => .texts
  | impersonateExtras => .textLists
  | customHeaders => .textMap
  | clientKeyAlgorithm => .keyAlgorithm
  | tlsVersions => .tlsVersions
  | tokenProvider => .tokenProvider
  | authProvider => .authProvider
  | request => .request
  | contexts => .contexts
  | currentContext => .currentContext
  | source => .source

abbrev Value (f : Field) : Type := f.kind.Value

def name : Field → String
  | masterUrl => "master_url"
  | apiVersion => "api_version"
  | namespaceName => "namespace"
  | defaultNamespace => "default_namespace"
  | trustCerts => "trust_certs"
  | disableHostnameVerification => "disable_hostname_verification"
  | tlsServerName => "tls_server_name"
  | caCertFile => "ca_cert_file"
  | caCertData => "ca_cert_data"
  | clientCertFile => "client_cert_file"
  | clientCertData => "client_cert_data"
  | clientKeyFile => "client_key_file"
  | clientKeyData => "client_key_data"
  | clientKeyAlgorithm => "client_key_algo"
  | clientKeyPassphrase => "client_key_passphrase"
  | trustStoreFile => "trust_store_file"
  | trustStorePassphrase => "trust_store_passphrase"
  | keyStoreFile => "key_store_file"
  | keyStorePassphrase => "key_store_passphrase"
  | oauthToken => "oauth_token"
  | tokenProvider => "oauth_token_provider"
  | username => "username"
  | password => "password"
  | authProvider => "auth_provider"
  | impersonateUsername => "impersonate_username"
  | impersonateGroups => "impersonate_groups"
  | impersonateExtras => "impersonate_extras"
  | httpProxy => "http_proxy"
  | httpsProxy => "https_proxy"
  | proxyUsername => "proxy_username"
  | proxyPassword => "proxy_password"
  | noProxy => "no_proxy"
  | tlsVersions => "tls_versions"
  | websocketPingInterval => "websocket_ping_interval"
  | connectionTimeout => "connection_timeout"
  | maxConcurrentRequests => "max_concurrent_requests"
  | maxConcurrentRequestsPerHost => "max_concurrent_requests_per_host"
  | http2Disable => "http2_disable"
  | userAgent => "user_agent"
  | customHeaders => "custom_headers"
  | request => "request_config"
  | contexts => "contexts"
  | currentContext => "current_context"
  | autoConfigured => "auto_configured"
  | source => "source"

def ofName? (name : String) : Option Field := all.find? (·.name == name)

/-- The value of a field that nothing sets. Times are in milliseconds. -/
def default : (f : Field) → f.Value
  | masterUrl => "https://kubernetes.default.svc"
  | apiVersion => "v1"
  | clientKeyPassphrase => "changeit"
  | userAgent => "kubecfg/0.1.0"
  | defaultNamespace => true
  | trustCerts | disableHostnameVerification | http2Disable | autoConfigured => false
  | websocketPingInterval => (30000 : Int)
  | connectionTimeout => (10000 : Int)
  | maxConcurrentRequests => (64 : Int)
  | maxConcurrentRequestsPerHost => (5 : Int)
  | tlsVersions => [.tls13, .tls12]
  | impersonateGroups | noProxy => ([] : List String)
  | impersonateExtras => ([] : List (String × List String))
  | customHeaders => ([] : List (String × String))
  | request => RequestPolicy.default
  | contexts => ([] : List (Named Context))
  | source => Source.defaults
  | clientKeyAlgorithm => (none : Option KeyAlgorithm)
  | tokenProvider => (none : Option TokenProvider)
  | authProvider => (none : Option AuthProvider)
  | currentContext => (none : Option (Named Context))
  | namespaceName | tlsServerName | caCertFile | caCertData | clientCertFile | clientCertData
  | clientKeyFile | clientKeyData | trustStoreFile | trustStorePassphrase | keyStoreFile
  | keyStorePassphrase | oauthToken | username | password | impersonateUsername | httpProxy
  | httpsProxy | proxyUsername | proxyPassword => (none : Option String)

end Field

end ClusterAccess
