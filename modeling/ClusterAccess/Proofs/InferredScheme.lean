import ClusterAccess.Proofs.Discovered
import ClusterAccess.Proofs.NormalUrl
import ClusterAccess.Tls.Availability

/-!
# Which configuration a scheme is inferred from

A master URL without a scheme gets one as soon as it is brought into normal form, and keeps it. When a
configuration is built from its surroundings, this happens before explicit values are laid over it. So the
check for TLS is asked about the configuration without them. Its answer is right for the built
configuration as long as explicit values leave alone what it reads.
-/
namespace ClusterAccess

/-! ## The scheme in a URL -/

namespace MasterUrl

/-- A URL that has no scheme but a host gets the scheme that is asked for. -/
theorem startsWith_https_normal {url : String} (bare : hasScheme url = false)
    (host : namesHost url = true) (https : Bool) :
    Text.startsWith httpsPrefix (ensureTrailingSlash (ensureScheme url https)) = https := by
  obtain ⟨s, _, hu, hs⟩ := toList_ensureScheme url https
  rw [Text.startsWith, toList_normal_of_namesHost host hu, hs bare]
  cases https with
  | false =>
    rw [schemeFor, if_neg (by decide), toList_httpPrefix, toList_httpsPrefix]
    rfl
  | true =>
    rw [schemeFor, if_pos rfl, toList_httpsPrefix]
    rfl

end MasterUrl

namespace Config

/-- Without a scheme the URL depends on what the check says. -/
theorem normalUrl_of_not_hasScheme {c : Config} (h : MasterUrl.hasScheme c.masterUrl = false)
    {https : TlsCheck} {url : String} : (c.normalUrl https).result = .ok url ↔
      ∃ available, (https c).result = .ok available ∧
        MasterUrl.ensureTrailingSlash (MasterUrl.ensureScheme c.masterUrl available) = url := by
  rw [normalUrl, if_neg (by rw [h]; decide), Traced.bind_eq_ok]
  constructor
  · rintro ⟨available, ha, hu⟩
    exact ⟨available, ha, Except.ok.inj hu⟩
  · rintro ⟨available, ha, rfl⟩
    exact ⟨available, ha, rfl⟩

end Config

/-! ## Explicit values and the URL -/

namespace Overrides

/-- A URL in normal form is not touched any more, whatever else is set. -/
theorem masterUrl_of_apply {o : Overrides} (noUrl : o.fields.value? .masterUrl = .none) {https : TlsCheck}
    {fs : FileSystem} {probe? : Option Probe} {base c : Config}
    (scheme : MasterUrl.hasScheme base.masterUrl = true)
    (slash : MasterUrl.ensureTrailingSlash base.masterUrl = base.masterUrl)
    (h : (o.apply https fs probe? base).result = .ok c) : c.masterUrl = base.masterUrl := by
  by_cases he : o.isEmpty = true
  · rw [eq_none_of_isEmpty he, apply_none] at h
    cases h
    rfl
  · obtain ⟨e, hn, rfl⟩ := (apply_eq_ok (Bool.eq_false_iff.mpr he)).mp h
    obtain ⟨_, url, algorithm, hu, _, rfl⟩ := Config.normalize_eq_ok.mp hn
    have hm : (o.over base).masterUrl = base.masterUrl := by
      rw [Config.masterUrl, value_over o base rfl, noUrl]
      rfl
    rw [Config.normalUrl_of_hasScheme (by rw [hm]; exact scheme), hm, slash] at hu
    cases hu
    rw [Config.masterUrl, value_forceAlgorithm o _ (by decide), ← Config.masterUrl,
      Config.masterUrl_settled]

/-- Explicit values leave the field as it is in any configuration. -/
def Leaves (o : Overrides) (f : Field) : Prop := ∀ c : Config, (o.over c).value f = c.value f

theorem leaves_of_value?_eq_none {o : Overrides} {f : Field} (hp : f.isPart = true)
    (h : o.fields.value? f = .none) : o.Leaves f := by
  intro c
  rw [value_over o c hp, h]
  rfl

theorem Leaves.value_of_apply {o : Overrides} {f : Field} (leaves : o.Leaves f)
    (hf : f.isSettled = false) {https : TlsCheck} {fs : FileSystem} {probe? : Option Probe}
    {base c : Config} (h : (o.apply https fs probe? base).result = .ok c) : c.value f = base.value f := by
  by_cases he : o.isEmpty = true
  · rw [eq_none_of_isEmpty he, apply_none] at h
    cases h
    rfl
  · obtain ⟨e, hn, rfl⟩ := (apply_eq_ok (Bool.eq_false_iff.mpr he)).mp h
    obtain ⟨_, url, algorithm, _, _, rfl⟩ := Config.normalize_eq_ok.mp hn
    rw [value_forceAlgorithm_settled o _ url algorithm hf, leaves base]

end Overrides

/-! ## What a check reads -/

/-- The answer of the check depends on these fields alone. -/
def TlsCheck.Reads (https : TlsCheck) (read : Field → Bool) : Prop :=
  ∀ c d : Config, (∀ f, read f = true → c.value f = d.value f) → (https c).result = (https d).result

namespace Tls

/-- Fields that the check of the installed TLS looks at. -/
def isRead : Field → Bool
  | .trustCerts | .caCertData | .caCertFile | .clientCertFile | .clientKeyFile | .clientKeyPassphrase => true
  | _ => false

theorem available_reads (l : Library) : (available l).Reads isRead := by
  intro c d agree
  have ht : c.trustCerts = d.trustCerts := agree .trustCerts rfl
  have hd : c.caCertData = d.caCertData := agree .caCertData rfl
  have hf : c.caCertFile = d.caCertFile := agree .caCertFile rfl
  have hc : c.clientCertFile = d.clientCertFile := agree .clientCertFile rfl
  have hk : c.clientKeyFile = d.clientKeyFile := agree .clientKeyFile rfl
  have hp : c.value .clientKeyPassphrase = d.value .clientKeyPassphrase := agree .clientKeyPassphrase rfl
  unfold available checkBundle checkPair
  rw [ht, hd, hf, hc, hk, hp]

end Tls

/-! ## Building -/

namespace World

/-- The URL of an automatic configuration, by the check's answer before it was complete. -/
theorem masterUrl_of_autoConfigure {w : World} {context : Option String} {found base : Config}
    (hd : (w.discover context).result = .ok found)
    (h : (w.autoConfigure context).result = .ok base)
    (bare : MasterUrl.hasScheme (Options.overlay w.probe found).masterUrl = false) :
    ∃ available, (w.https (Options.overlay w.probe found)).result = .ok available ∧
      base.masterUrl = MasterUrl.ensureTrailingSlash
        (MasterUrl.ensureScheme (Options.overlay w.probe found).masterUrl available) := by
  obtain ⟨found', finished, hd', hf, rfl⟩ := autoConfigure_eq_ok.mp h
  rw [hd] at hd'
  cases hd'
  obtain ⟨_, url, algorithm, hu, _, rfl⟩ := Config.normalize_eq_ok.mp (finish_eq_ok.mp hf).2
  obtain ⟨available, ha, rfl⟩ := (Config.normalUrl_of_not_hasScheme bare).mp hu
  refine ⟨available, ha, ?_⟩
  rw [Config.masterUrl, Config.value_set_of_ne _ (by decide), ← Config.masterUrl,
    Config.masterUrl_settled]

end World

/-- An option gives a master URL without a scheme. -/
def World.bare (https : TlsCheck) : World :=
  { World.sample [(Options.masterUrl, "api:6443")] [] with https := https }

namespace Builder

/-- The scheme of a URL that had none is the one that the check gives for the configuration without
explicit values. It fits the built configuration if explicit values leave alone what the check reads. -/
theorem build_inferredScheme {b : Builder} {w : World} (discovers : b.Discovers w)
    (noUrl : b.overrides.fields.value? .masterUrl = none) {found : Config}
    (hd : (w.discover b.context).result = .ok found)
    (bare : MasterUrl.hasScheme (Options.overlay w.probe found).masterUrl = false)
    (host : MasterUrl.namesHost (Options.overlay w.probe found).masterUrl = true) {c : Config}
    (h : (b.build w).result = .ok c) :
    (Text.startsWith MasterUrl.httpsPrefix c.masterUrl = true ↔
      (w.https (Options.overlay w.probe found)).result = .ok true) ∧
    ∀ read : Field → Bool, w.https.Reads read →
      (∀ f, read f = true → f.isSettled = false ∧ f ≠ .autoConfigured ∧ b.overrides.Leaves f) →
        (Text.startsWith MasterUrl.httpsPrefix c.masterUrl = true ↔ (w.https c).result = .ok true) := by
  obtain ⟨base, hb, ha⟩ := (build_eq_ok_of_discovers discovers).mp h
  obtain ⟨available, hw, hu⟩ := World.masterUrl_of_autoConfigure hd hb bare
  have hm : c.masterUrl = base.masterUrl := by
    refine Overrides.masterUrl_of_apply noUrl ?_ ?_ ha
    · rw [hu, MasterUrl.hasScheme_normal, host]
    · rw [hu, MasterUrl.ensureTrailingSlash_idem]
  have asked : Text.startsWith MasterUrl.httpsPrefix c.masterUrl = true ↔
      (w.https (Options.overlay w.probe found)).result = .ok true := by
    rw [hm, hu, MasterUrl.startsWith_https_normal bare host, hw]
    constructor
    · rintro rfl
      rfl
    · exact Except.ok.inj
  refine ⟨asked, fun read reads left => ?_⟩
  obtain ⟨found', hd', hc⟩ := World.configures_of_autoConfigure hb
  rw [hd] at hd'
  cases hd'
  rw [asked, reads (Options.overlay w.probe found) c fun f hf => ?_]
  obtain ⟨hs, hauto, leaves⟩ := left f hf
  rw [leaves.value_of_apply hs ha, hc.value f hs hauto]

/-- The sample is checked for TLS without its namespace and key, which the check does not read. -/
theorem build_inferredScheme_sample :
    ∃ c, (Builder.sample.build (.bare (Tls.available (World.sample [] []).fs))).result = .ok c ∧
      c.masterUrl = "https://api:6443/" ∧
        (Tls.available (World.sample [] []).fs c).result = .ok true := by
  obtain ⟨c, hc, hm⟩ := except_ok_of_map (show (Builder.sample.build
    (.bare (Tls.available (World.sample [] []).fs))).result.toOption.map Config.masterUrl =
      some "https://api:6443/" by decide +kernel)
  obtain ⟨found, hd, hu⟩ := except_ok_of_map (show ((World.bare
    (Tls.available (World.sample [] []).fs)).discover Builder.sample.context).result.toOption.map
      (fun found => (Options.overlay
        (World.bare (Tls.available (World.sample [] []).fs)).probe found).masterUrl) =
      some "api:6443" by decide +kernel)
  have hs := build_inferredScheme (w := .bare (Tls.available (World.sample [] []).fs))
    ⟨rfl, by decide +kernel⟩ (by decide +kernel) hd (by rw [hu]; decide) (by rw [hu]; decide) hc
  refine ⟨c, hc, hm, (hs.2 Tls.isRead (Tls.available_reads _) fun f hf => ?_).mp ?_⟩
  · have hn : sample.overrides.fields.value? f = none ∧ f.isPart = true ∧ f.isSettled = false ∧
        f ≠ .autoConfigured := by
      cases f <;> first | decide +kernel | cases hf
    obtain ⟨hn, hp, hf, ha⟩ := hn
    exact ⟨hf, ha, Overrides.leaves_of_value?_eq_none hp hn⟩
  · rw [hm]
    decide

/-- All certificates are trusted, at the caller's wish. -/
def trusting : Builder := ((start true none).call (.setField .trustCerts (.value (.bool true)))).1

/-- The check asks for trust, which the caller gives; the scheme has been settled without it. -/
theorem explicit_trust_is_too_late :
    trusting.Discovers (.bare fun c => pure c.trustCerts) ∧
      trusting.overrides.fields.value? .masterUrl = none ∧
      (World.bare fun c => pure c.trustCerts).https.Reads (· == .trustCerts) ∧
      ∃ c, (trusting.build (.bare fun c => pure c.trustCerts)).result = .ok c ∧
        ((World.bare fun c => pure c.trustCerts).https c).result = .ok true ∧
          c.masterUrl = "http://api:6443/" := by
  refine ⟨⟨rfl, by decide +kernel⟩, by decide +kernel, fun c d agree => ?_, ?_⟩
  · have ht : c.trustCerts = d.trustCerts := agree .trustCerts rfl
    show (pure c.trustCerts : Traced Bool).result = (pure d.trustCerts : Traced Bool).result
    rw [ht]
  · obtain ⟨c, hc, hv⟩ := except_ok_of_map (show (trusting.build
      (.bare fun c => pure c.trustCerts)).result.toOption.map
        (fun c => (c.trustCerts, c.masterUrl)) = some (true, "http://api:6443/") by decide +kernel)
    obtain ⟨ht, hm⟩ := Prod.mk.inj hv
    refine ⟨c, hc, ?_, hm⟩
    show (pure c.trustCerts : Traced Bool).result = .ok true
    rw [ht]
    rfl

end Builder

end ClusterAccess
