import ClusterAccess.Proofs.StageLog

/-!
# Configurations that the installed check fails for

A URL without a scheme gets one from the check for TLS. Where that check fails, for a CA bundle that is not
ASCII, there is no configuration at all, although trouble with a bundle is meant to cost no more than TLS.
-/
namespace ClusterAccess

/-- The scheme is open, and the check is asked about a bundle that is not ASCII. -/
structure Config.AsksInVain (c : Config) : Prop where
  given : c.masterUrl ≠ ""
  bare : MasterUrl.hasScheme c.masterUrl = false
  foreign : c.HasForeignBundle

/-- In the normal form nothing but the check gives this error. -/
theorem Config.asksInVain_iff {c : Config} {l : Tls.Library} {fs : FileSystem} {probe? : Option Probe} :
    c.Unsettled (Tls.available l) fs probe? .nonAsciiCertificate ↔ c.AsksInVain := by
  constructor
  · intro h
    cases h with
    | check given bare fails => exact ⟨given, bare, (Tls.available_eq_error_iff.mp fails).1⟩
    | keyAlgorithm _ _ invalid =>
      obtain ⟨_, _, refuses⟩ := Probe.refuses_of_forcedAlgorithm invalid
      cases refuses
  · rintro ⟨given, bare, foreign⟩
    exact .check given bare (Tls.available_eq_error_iff.mpr ⟨foreign, rfl⟩)

namespace World

variable {w : World}

/-- The installed check answers for every configuration but those with an inline bundle that is not ASCII,
whatever the files hold and whichever certificates fit their keys. For these it fails, and with it the normal
form of a URL without a scheme and a run that comes to one. -/
theorem installed_check_fails_iff {l : Tls.Library} (installed : w.https = Tls.available l) :
    (∀ c, (c.HasForeignBundle → (w.https c).result = .error .nonAsciiCertificate) ∧
      (¬ c.HasForeignBundle → ∃ available, (w.https c).result = .ok available)) ∧
    (∀ (c : Config) (probe? : Option Probe),
      (c.normalize w.https w.fs probe?).result = .error .nonAsciiCertificate ↔ c.AsksInVain) ∧
    ∀ context, (w.autoConfigure context).result = .error .nonAsciiCertificate ↔
      Options.fault? w.probe = none ∧ ∃ found, (w.discover context).result = .ok found ∧
        (Options.overlay w.probe found).AsksInVain := by
  refine ⟨fun c => ⟨fun foreign => ?_, fun usual => ?_⟩, fun c probe? => ?_, fun context => ?_⟩
  · rw [installed]
    exact Tls.available_eq_error_iff.mpr ⟨foreign, rfl⟩
  · rw [installed]
    cases answer : (Tls.available l c).result with
    | ok available => exact ⟨available, rfl⟩
    | error e => exact absurd (Tls.available_eq_error_iff.mp answer).1 usual
  · rw [installed, Config.normalize_eq_error, Config.asksInVain_iff]
  · rw [autoConfigure_eq_late_iff rfl, installed]
    simp only [Config.asksInVain_iff]

/-- Options give a URL without a scheme and a bundle, which the installed check is asked about. -/
def bundled (data : String) : World :=
  { sample [(Options.masterUrl, "api:6443"), (Options.caCertData, data)] [] with
    https := Tls.available (sample [] []).fs }

/-- A letter outside of ASCII makes the run fail. Without a bundle the check answers. -/
theorem installed_check_fails_sample :
    (∃ found, ((bundled "é").discover none).result = .ok found ∧
      (Options.overlay (bundled "é").probe found).AsksInVain) ∧
    ∃ available, ((bundled "é").https .default).result = .ok available := by
  have fails := installed_check_fails_iff (w := bundled "é") (l := (sample [] []).fs) rfl
  constructor
  · have run := except_error_of_match (x := ((bundled "é").autoConfigure none).result)
      (e := .nonAsciiCertificate) (by decide +kernel)
    exact ((fails.2.2 none).mp run).2
  · refine (fails.1 .default).2 fun foreign => ?_
    obtain ⟨_, data, given, _⟩ := foreign
    cases given

/-- Unusable material of another kind only costs the scheme, the letter costs the configuration. -/
theorem foreign_bundle_is_fatal :
    ((bundled "é").https (Config.default.set .caCertData (some "é"))).result =
      .error .nonAsciiCertificate ∧
    ((bundled "é").autoConfigure none).result = .error .nonAsciiCertificate ∧
    ∃ c, ((bundled "e").autoConfigure none).result = .ok c ∧ c.masterUrl = "http://api:6443/" := by
  refine ⟨except_error_of_match (by decide +kernel), except_error_of_match (by decide +kernel), ?_⟩
  exact except_ok_of_map (show ((bundled "e").autoConfigure none).result.toOption.map Config.masterUrl =
    some "http://api:6443/" by decide +kernel)

end World

end ClusterAccess
