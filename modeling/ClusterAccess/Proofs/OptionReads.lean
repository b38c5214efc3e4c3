import ClusterAccess.Proofs.Selection

/-!
# Which options are read where

A few options say where to look for a configuration. All others are laid over what was found, and only
they count from there on. Two probes that agree on them finish a configuration alike. Where none of them
is present, finishing a configuration is bringing it into normal form.
-/
namespace ClusterAccess

/-- Both give these options the same values. -/
def Probe.SameOn (p : Probe) (names : List String) (q : Probe) : Prop :=
  ∀ name ∈ names, p.get? name = q.get? name

theorem Probe.SameOn.mono {p q : Probe} {names more : List String} (h : p.SameOn more q)
    (sub : ∀ name ∈ names, name ∈ more) : p.SameOn names q := fun name hn => h name (sub name hn)

/-- No properties and no variables. -/
def Probe.silent : Probe := ⟨fun _ => none, fun _ => none⟩

namespace Options

/-- The options that only the service account asks for. -/
def ofAccount : List String :=
  [serviceHost, servicePort, tryServiceAccount, serviceAccountTokenFile, tryNamespacePath, namespaceFile]

/-- The options that are laid over a configuration. -/
def ofOverlay : List String :=
  [masterUrl, apiVersion, namespaceName, trustCertificates, disableHostnameVerification, caCertFile,
   caCertData, clientCertFile, clientCertData, clientKeyFile, clientKeyData, clientKeyAlgorithm,
   clientKeyPassphrase, basicUsername, basicPassword, oauthToken, watchReconnectInterval,
   watchReconnectLimit, connectionTimeout, uploadRequestTimeout, requestTimeout, retryBackoffLimit,
   retryBackoffInterval, loggingInterval, scaleTimeout, websocketPingInterval, maxConcurrentRequests,
   maxConcurrentRequestsPerHost, impersonateUsername, impersonateGroup, trustStoreFile,
   trustStorePassphrase, keyStoreFile, keyStorePassphrase, tlsVersions, http2Disable, httpProxy, httpsProxy,
   allProxy, noProxy, proxyUsername, proxyPassword, userAgent]

theorem ofOverlay_sublist_names : ofOverlay.Sublist names := by decide +kernel

theorem not_mem_ofAccount : ∀ name ∈ ofOverlay, name ∉ ofAccount := by decide +kernel

section

variable {p q : Probe} (same : p.SameOn ofOverlay q)
include same

theorem fieldValue?_congr (f : Field) : fieldValue? p f = fieldValue? q f := by
  have agree := same
  simp only [Probe.SameOn, ofOverlay, List.forall_mem_cons] at agree
  cases f
  all_goals simp only [fieldValue?, Probe.getInteger?, Probe.getList?, Probe.tlsVersions?, agree]

theorem requestValue?_congr (g : RequestField) : requestValue? p g = requestValue? q g := by
  have agree := same
  simp only [Probe.SameOn, ofOverlay, List.forall_mem_cons] at agree
  cases g
  all_goals simp only [requestValue?, requestOption, Probe.getInteger?, agree]

theorem given?_congr (f : Field) : given? p f = given? q f := by
  rw [given?, given?, fieldValue?_congr same]

theorem requestChanges_congr : requestChanges p = requestChanges q := by
  unfold requestChanges
  simp only [requestValue?_congr same]

theorem fault?_congr : fault? p = fault? q := by
  unfold fault? readings
  simp only [fieldValue?_congr same, requestValue?_congr same]

theorem changes_congr (c : Config) : changes p c = changes q c := by
  unfold changes
  simp only [given?_congr same, requestChanges_congr same]

theorem overlay_congr (c : Config) : overlay p c = overlay q c := by
  unfold overlay
  rw [same oauthToken (by simp [ofOverlay]), changes_congr same]

/-- Laying over is the same computation, with the same records. -/
theorem apply_congr (c : Config) : apply p c = apply q c := by
  unfold apply
  rw [fault?_congr same, same oauthToken (by simp [ofOverlay]), changes_congr same, overlay_congr same]

theorem keyAlgorithm?_congr : p.keyAlgorithm? = q.keyAlgorithm? := by
  unfold Probe.keyAlgorithm?
  rw [same clientKeyAlgorithm (by simp [ofOverlay])]

/-- For the normal form only the option of the key algorithm counts. -/
theorem normalize_congr (c : Config) (https : TlsCheck) (fs : FileSystem) :
    c.normalize https fs (some p) = c.normalize https fs (some q) := by
  have forced : Config.forcedAlgorithm (some p) = Config.forcedAlgorithm (some q) := keyAlgorithm?_congr same
  unfold Config.normalize Config.keyAlgorithm
  rw [forced]

end

/-! Without options. -/

theorem fault?_silent : fault? .silent = none := rfl

theorem changes_silent (c : Config) (f : Field) : (changes .silent c).value? f = none := by
  cases f
  case httpProxy => exact ite_self _
  case httpsProxy => exact ite_self _
  all_goals rfl

theorem overlay_silent (c : Config) : overlay .silent c = c := by
  refine Config.ext (fun f => ?_) rfl rfl
  rw [value_overlay, changes_silent, Option.getD_none]

end Options

namespace World

/-- Finishing asks for options, for the check, and for the file of the key that comes out. -/
theorem result_finish_congr {w later : World} (same : w.probe.SameOn Options.ofOverlay later.probe)
    (https : w.https = later.https) {c : Config}
    (key : w.fs.SameOn (Options.overlay w.probe c).clientKeyFile.toList later.fs) :
    (w.finish c).result = (later.finish c).result := by
  rw [result_finish, result_finish, ← Options.apply_congr same, ← https]
  refine except_bind_congr fun d hd => ?_
  obtain ⟨_, rfl⟩ := Options.apply_eq_ok.mp hd
  rw [Options.normalize_congr same, Config.normalize_congr key]

/-- With nothing to lay over it, a configuration is brought into normal form only. -/
theorem result_finish_of_silent {w : World} (absent : w.probe.SameOn Options.ofOverlay .silent)
    (c : Config) : (w.finish c).result = (c.normalize w.https w.fs none).result := by
  have hf : Config.forcedAlgorithm (some w.probe) = Config.forcedAlgorithm none :=
    Options.keyAlgorithm?_congr absent
  have ha : (Options.apply w.probe c).result = .ok c := by
    rw [Options.apply_congr absent, Options.result_apply_of_wellFormed Options.fault?_silent,
      Options.overlay_silent]
  rw [result_finish, ha]
  show (c.normalize w.https w.fs (some w.probe)).result = _
  unfold Config.normalize Config.keyAlgorithm
  rw [hf]

end World

end ClusterAccess
