import ClusterAccess.Config.Basic
import ClusterAccess.Options.Probe
import ClusterAccess.Text.Quoted
import ClusterAccess.Traced

/-!
# Options over a configuration

`fieldValue?` says what the options give a field. Every option that is present replaces the field, and
none that is absent clears it. Only a proxy that the configuration has already wins over its option.
Whether the options can be read does not depend on the configuration.
-/
namespace ClusterAccess.Options

/-- A list that holds something. -/
def nonEmpty {α : Type} (xs : Option (List α)) : Option (List α) := xs.filter (!·.isEmpty)

/-- What the options give a field, other than the request policy. -/
def fieldValue? (p : Probe) : (f : Field) → Except Error (Option f.Value)
  | .masterUrl => .ok (p.get? masterUrl)
  | .apiVersion => .ok (p.get? apiVersion)
  | .clientKeyPassphrase => .ok (p.get? clientKeyPassphrase)
  | .userAgent => .ok (p.get? userAgent)
  | .namespaceName => .ok ((p.get? namespaceName).map some)
  | .caCertFile => .ok ((p.get? caCertFile).map some)
  | .caCertData => .ok ((p.get? caCertData).map some)
  | .clientCertFile => .ok ((p.get? clientCertFile).map some)
  | .clientCertData => .ok ((p.get? clientCertData).map some)
  | .clientKeyFile => .ok ((p.get? clientKeyFile).map some)
  | .clientKeyData => .ok ((p.get? clientKeyData).map some)
  | .trustStoreFile => .ok ((p.get? trustStoreFile).map some)
  | .trustStorePassphrase => .ok ((p.get? trustStorePassphrase).map some)
  | .keyStoreFile => .ok ((p.get? keyStoreFile).map some)
  | .keyStorePassphrase => .ok ((p.get? keyStorePassphrase).map some)
  | .username => .ok ((p.get? basicUsername).map some)
  | .password => .ok ((p.get? basicPassword).map some)
  | .impersonateUsername => .ok ((p.get? impersonateUsername).map some)
  | .proxyUsername => .ok ((p.get? proxyUsername).map some)
  | .proxyPassword => .ok ((p.get? proxyPassword).map some)
  | .httpProxy => .ok (((p.get? httpProxy).or (p.get? allProxy)).map some)
  | .httpsProxy => .ok (((p.get? httpsProxy).or (p.get? allProxy)).map some)
  | .trustCerts => .ok ((p.get? trustCertificates).map Probe.isTrue)
  | .disableHostnameVerification => .ok ((p.get? disableHostnameVerification).map Probe.isTrue)
  | .http2Disable => .ok ((p.get? http2Disable).map Probe.isTrue)
  | .connectionTimeout => p.getInteger? connectionTimeout
  | .websocketPingInterval => p.getInteger? websocketPingInterval
  | .maxConcurrentRequests => p.getInteger? maxConcurrentRequests
  | .maxConcurrentRequestsPerHost => p.getInteger? maxConcurrentRequestsPerHost
  | .impersonateGroups => .ok (nonEmpty (p.getList? impersonateGroup))
  | .noProxy => .ok (p.getList? noProxy)
  | .tlsVersions => p.tlsVersions?
  | _ => .ok none

/-- The option of a setting of the request policy. -/
def requestOption : RequestField → String
  | .watchReconnectInterval => watchReconnectInterval
  | .watchReconnectLimit => watchReconnectLimit
  | .requestTimeout => requestTimeout
  | .uploadRequestTimeout => uploadRequestTimeout
  | .retryBackoffLimit => retryBackoffLimit
  | .retryBackoffInterval => retryBackoffInterval
  | .scaleTimeout => scaleTimeout
  | .loggingInterval => loggingInterval

def requestValue? (p : Probe) (f : RequestField) : Except Error (Option Int) :=
  p.getInteger? (requestOption f)

def requestChanges (p : Probe) : RequestChanges := ⟨fun f => (requestValue? p f).toOption.join⟩

def faultOf {α : Type} : Except Error α → Option Error
  | .error e => some e
  | .ok _ => none

/-- The options that may be ill-formed, in the order in which they are read. -/
def readings (p : Probe) : List (Option Error) :=
  [faultOf (fieldValue? p .connectionTimeout), faultOf (fieldValue? p .websocketPingInterval),
   faultOf (fieldValue? p .maxConcurrentRequests), faultOf (fieldValue? p .maxConcurrentRequestsPerHost)] ++
  [.watchReconnectInterval, .watchReconnectLimit, .scaleTimeout, .loggingInterval, .uploadRequestTimeout,
   .requestTimeout, .retryBackoffLimit, .retryBackoffInterval].map (faultOf <| requestValue? p ·) ++
  [faultOf (fieldValue? p .tlsVersions)]

/-- The first ill-formed option. -/
def fault? (p : Probe) : Option Error := (readings p).findSome? id

/-- What options that can be read give a field. -/
def given? (p : Probe) (f : Field) : Option f.Value := (fieldValue? p f).toOption.join

/-- What well-formed options change in a configuration. -/
def changes (p : Probe) (c : Config) : Changes :=
  ⟨fun
    | .request =>
      if (requestChanges p).isEmpty then none else some (c.request.change (requestChanges p))
    | .httpProxy => if (filled c.httpProxy).isSome then none else given? p .httpProxy
    | .httpsProxy => if (filled c.httpsProxy).isSome then none else given? p .httpsProxy
    | f => given? p f⟩

/-- Well-formed options over a configuration. -/
def overlay (p : Probe) (c : Config) : Config :=
  let d := c.evolve (changes p c)
  match p.get? oauthToken with
  | some token => d.withAutoToken (some token)
  | none => d

/-- Names between brackets, sorted. -/
def sortedNames (names : List String) : String :=
  let sorted := names.mergeSort fun a b => decide (a ≤ b)
  "[" ++ ", ".intercalate (sorted.map Text.quoted) ++ "]"

/-- The configuration with every option that is present laid over it. -/
def apply (p : Probe) (c : Config) : Traced Config :=
  match fault? p with
  | some e => .fail e
  | none => do
    let token := if (p.get? oauthToken).isSome then ["auto_oauth_token"] else []
    let names := (changes p c).fields.map Field.name ++ token
    if !names.isEmpty then
      .debug .options ("Applying environment overrides: " ++ sortedNames names)
    return overlay p c

end ClusterAccess.Options
