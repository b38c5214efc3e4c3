import ClusterAccess.Text.UpperCase

/-!
# Option names

Every option has a dotted name, and an environment variable named after it: in upper case, with every
dot and dash turned into an underscore.
-/
namespace ClusterAccess.Options

/-- The environment variable of an option. -/
def variableName (name : String) : String :=
  String.ofList ((Text.upperCase name).toList.map fun c => if c == '.' || c == '-' then '_' else c)

def disableAutoConfig : String := "kubernetes.disable.autoConfig"
def masterUrl : String := "kubernetes.master"
def apiVersion : String := "kubernetes.api.version"
def namespaceName : String := "kubernetes.namespace"
def trustCertificates : String := "kubernetes.trust.certificates"
def disableHostnameVerification : String := "kubernetes.disable.hostname.verification"
def caCertFile : String := "kubernetes.certs.ca.file"
def caCertData : String := "kubernetes.certs.ca.data"
def clientCertFile : String := "kubernetes.certs.client.file"
def clientCertData : String := "kubernetes.certs.client.data"
def clientKeyFile : String := "kubernetes.certs.client.key.file"
def clientKeyData : String := "kubernetes.certs.client.key.data"
def clientKeyAlgorithm : String := "kubernetes.certs.client.key.algo"
def clientKeyPassphrase : String := "kubernetes.certs.client.key.passphrase"
def basicUsername : String := "kubernetes.auth.basic.username"
def basicPassword : String := "kubernetes.auth.basic.password"
def tryKubeconfig : String := "kubernetes.auth.tryKubeConfig"
def tryServiceAccount : String := "kubernetes.auth.tryServiceAccount"
def serviceAccountTokenFile : String := "kubernetes.auth.serviceAccount.token"
def oauthToken : String := "kubernetes.auth.token"
def watchReconnectInterval : String := "kubernetes.watch.reconnectInterval"
def watchReconnectLimit : String := "kubernetes.watch.reconnectLimit"
def connectionTimeout : String := "kubernetes.connection.timeout"
def uploadRequestTimeout : String := "kubernetes.upload.request.timeout"
def requestTimeout : String := "kubernetes.request.timeout"
def retryBackoffLimit : String := "kubernetes.request.retry.backoffLimit"
def retryBackoffInterval : String := "kubernetes.request.retry.backoffInterval"
def loggingInterval : String := "kubernetes.logging.interval"
def scaleTimeout : String := "kubernetes.scale.timeout"
def websocketPingInterval : String := "kubernetes.websocket.ping.interval"
def maxConcurrentRequests : String := "kubernetes.max.concurrent.requests"
def maxConcurrentRequestsPerHost : String := "kubernetes.max.concurrent.requests.per.host"
def impersonateUsername : String := "kubernetes.impersonate.username"
def impersonateGroup : String := "kubernetes.impersonate.group"
def trustStoreFile : String := "kubernetes.truststore.file"
def trustStorePassphrase : String := "kubernetes.truststore.passphrase"
def keyStoreFile : String := "kubernetes.keystore.file"
def keyStorePassphrase : String := "kubernetes.keystore.passphrase"
def tlsVersions : String := "kubernetes.tls.versions"
def tryNamespacePath : String := "kubernetes.tryNamespacePath"
def namespaceFile : String := "kubenamespace"
def kubeconfigFile : String := "kubeconfig"
def http2Disable : String := "http2.disable"
def httpProxy : String := "http.proxy"
def httpsProxy : String := "https.proxy"
def allProxy : String := "all.proxy"
def noProxy : String := "no.proxy"
def proxyUsername : String := "proxy.username"
def proxyPassword : String := "proxy.password"
def userAgent : String := "kubernetes.user.agent"
def serviceHost : String := "KUBERNETES_SERVICE_HOST"
def servicePort : String := "KUBERNETES_SERVICE_PORT"

/-- All options. -/
def names : List String :=
  [disableAutoConfig, masterUrl, apiVersion, namespaceName, trustCertificates,
   disableHostnameVerification, caCertFile, caCertData, clientCertFile, clientCertData, clientKeyFile,
   clientKeyData, clientKeyAlgorithm, clientKeyPassphrase, basicUsername, basicPassword, tryKubeconfig,
   tryServiceAccount, serviceAccountTokenFile, oauthToken, watchReconnectInterval, watchReconnectLimit,
   connectionTimeout, uploadRequestTimeout, requestTimeout, retryBackoffLimit, retryBackoffInterval,
   loggingInterval, scaleTimeout, websocketPingInterval, maxConcurrentRequests,
   maxConcurrentRequestsPerHost, impersonateUsername, impersonateGroup, trustStoreFile,
   trustStorePassphrase, keyStoreFile, keyStorePassphrase, tlsVersions, tryNamespacePath, namespaceFile,
   kubeconfigFile, http2Disable, httpProxy, httpsProxy, allProxy, noProxy, proxyUsername, proxyPassword,
   userAgent, serviceHost, servicePort]

example : variableName kubeconfigFile = "KUBECONFIG" ∧ variableName noProxy = "NO_PROXY" := by
  constructor <;> decide +kernel

end ClusterAccess.Options
