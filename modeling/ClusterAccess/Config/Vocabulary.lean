/-!
# Words of a configuration

The choices that a configuration makes among fixed alternatives, the supplier of bearer tokens, and the
timing and retry policy of requests.
-/
namespace ClusterAccess

inductive KeyAlgorithm where
  | rsa
  | ec
  deriving DecidableEq, Repr

def KeyAlgorithm.all : List KeyAlgorithm := [.rsa, .ec]

def KeyAlgorithm.name : KeyAlgorithm → String
  | .rsa => "RSA"
  | .ec => "EC"

inductive TlsVersion where
  | tls13
  | tls12
  | tls11
  | tls10
  | ssl30
  deriving DecidableEq, Repr

def TlsVersion.all : List TlsVersion := [.tls13, .tls12, .tls11, .tls10, .ssl30]

def TlsVersion.name : TlsVersion → String
  | .tls13 => "TLSv1.3"
  | .tls12 => "TLSv1.2"
  | .tls11 => "TLSv1.1"
  | .tls10 => "TLSv1"
  | .ssl30 => "SSLv3"

/-- Where discovery found its values. -/
inductive Source where
  | defaults
  | kubeconfig
  | serviceAccount
  deriving DecidableEq, Repr

def Source.all : List Source := [.defaults, .kubeconfig, .serviceAccount]

def Source.name : Source → String
  | .defaults => "defaults"
  | .kubeconfig => "kubeconfig"
  | .serviceAccount => "service_account"

/-- Supplies a bearer token on demand. Two suppliers are the same when they have the same identity,
whatever token they give. -/
structure TokenProvider where
  identity : Nat
  token : Option String
  deriving DecidableEq, Repr

/-- A setting of the request policy. Times are in milliseconds. -/
inductive RequestField where
  | watchReconnectInterval
  | watchReconnectLimit
  | requestTimeout
  | uploadRequestTimeout
  | retryBackoffLimit
  | retryBackoffInterval
  | scaleTimeout
  | loggingInterval
  deriving DecidableEq, Repr

namespace RequestField

def all : List RequestField :=
  [.watchReconnectInterval, .watchReconnectLimit, .requestTimeout, .uploadRequestTimeout,
   .retryBackoffLimit, .retryBackoffInterval, .scaleTimeout, .loggingInterval]

theorem mem_all (f : RequestField) : f ∈ all := by cases f <;> decide

def name : RequestField → String
  | watchReconnectInterval => "watch_reconnect_interval"
  | watchReconnectLimit => "watch_reconnect_limit"
  | requestTimeout => "request_timeout"
  | uploadRequestTimeout => "upload_request_timeout"
  | retryBackoffLimit => "request_retry_backoff_limit"
  | retryBackoffInterval => "request_retry_backoff_interval"
  | scaleTimeout => "scale_timeout"
  | loggingInterval => "logging_interval"

def ofName? (name : String) : Option RequestField := all.find? (·.name == name)

/-- Without a limit, -1, a watch reconnects for ever. -/
def default : RequestField → Int
  | watchReconnectInterval => 1000
  | watchReconnectLimit => -1
  | requestTimeout => 10000
  | uploadRequestTimeout => 120000
  | retryBackoffLimit => 10
  | retryBackoffInterval => 100
  | scaleTimeout => 600000
  | loggingInterval => 20000

end RequestField

/-- Timing and retry policy of requests. -/
structure RequestPolicy where
  value : RequestField → Int

/-- Settings of the request policy that are to change. -/
structure RequestChanges where
  value? : RequestField → Option Int

def RequestPolicy.default : RequestPolicy := ⟨RequestField.default⟩

def RequestPolicy.same (a b : RequestPolicy) : Bool := RequestField.all.all fun f => a.value f == b.value f

def RequestPolicy.change (p : RequestPolicy) (c : RequestChanges) : RequestPolicy :=
  ⟨fun f => (c.value? f).getD (p.value f)⟩

namespace RequestChanges

def none : RequestChanges := ⟨fun _ => .none⟩

def set (c : RequestChanges) (f : RequestField) (i : Int) : RequestChanges :=
  ⟨fun g => if g = f then some i else c.value? g⟩

def isEmpty (c : RequestChanges) : Bool := RequestField.all.all fun f => (c.value? f).isNone

def same (a b : RequestChanges) : Bool := RequestField.all.all fun f => a.value? f == b.value? f

end RequestChanges

theorem RequestPolicy.same_refl (p : RequestPolicy) : p.same p = true := by
  simp [RequestPolicy.same]

@[simp] theorem RequestPolicy.value_change (p : RequestPolicy) (c : RequestChanges) (f : RequestField) :
    (p.change c).value f = (c.value? f).getD (p.value f) := rfl

end ClusterAccess
