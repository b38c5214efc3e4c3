import ClusterAccess.Proofs.InferredScheme
import ClusterAccess.Proofs.StageLog

/-!
# An explicit master URL and the configuration below it

Explicit values are laid over a configuration that is complete in itself. A kubeconfig whose selected
cluster has no server gives none, unless an option has the URL, and then a URL among the explicit values
comes too late. In all other surroundings the URL is never missed, and it is the one that the built
configuration has.
-/
namespace ClusterAccess

/-! ## A cluster without a server -/

namespace World

/-- The usable kubeconfig files select a cluster that has no server, and looking for the key and the token of
the user does not make the run fail before. -/
def LacksServer (w : World) (context : Option String) : Prop :=
  ∃ docs cluster, w.documents.result = .ok docs ∧
    ((Kubeconfig.concat docs).selection context).cluster = some cluster ∧
    filled cluster.value.server = none ∧ ((Kubeconfig.concat docs).selection context).obstacle? w.fs = none

variable {w : World} {context : Option String}

/-- Discovery leaves the URL empty for want of a server, and for no other reason. -/
theorem discover_lacksServer_iff :
    (∃ found, (w.discover context).result = .ok found ∧ found.masterUrl = "") ↔ w.LacksServer context := by
  constructor
  · rintro ⟨found, discovers, empty⟩
    obtain ⟨docs, documents, _⟩ := Traced.bind_eq_ok.mp discovers
    by_cases hne : docs = []
    · rw [hne] at documents
      exact absurd empty (masterUrl_of_account documents discovers)
    · rw [result_discover_of_documents documents hne, Merge.result_documents] at discovers
      rw [Selection.masterUrl_of_onto discovers] at empty
      have clear := Selection.obstacle?_of_onto discovers
      cases cluster : ((Kubeconfig.concat docs).selection context).cluster with
      | none =>
        rw [cluster] at empty
        exact absurd empty (by decide)
      | some n =>
        rw [cluster] at empty
        exact ⟨docs, n, documents, cluster, filled_eq_none_iff.mpr empty, clear⟩
  · rintro ⟨docs, n, documents, cluster, serverless, clear⟩
    have hne : docs ≠ [] := by
      rintro rfl
      obtain ⟨_, chosen, _⟩ := Option.bind_eq_some_iff.mp cluster
      obtain ⟨_, _, found⟩ := Option.bind_eq_some_iff.mp chosen
      cases found
    obtain ⟨found, hf⟩ := Kubeconfig.onto_of_cluster cluster w.fs .default
    rw [clear, guarded_none] at hf
    refine ⟨found, ?_, ?_⟩
    · rw [result_discover_of_documents documents hne, Merge.result_documents, hf]
    · rw [Selection.masterUrl_of_onto hf, cluster]
      exact filled_eq_none_iff.mp serverless

end World

/-! ## Where no URL is reported -/

/-- A check that does not report it itself leaves this error to configurations without a URL. -/
theorem Config.Unsettled.masterUrl {c : Config} {https : TlsCheck} {fs : FileSystem}
    {probe? : Option Probe} (h : c.Unsettled https fs probe? .noMasterUrl) (check : ∀ c, (https c).result ≠ .error .noMasterUrl) :
    c.masterUrl = "" := by
  cases h with
  | noMasterUrl empty => exact empty
  | check _ _ fails => exact absurd fails (check c)
  | keyAlgorithm _ _ invalid =>
    obtain ⟨_, _, refuses⟩ := Probe.refuses_of_forcedAlgorithm invalid
    cases refuses

namespace World

variable {w : World} {context : Option String}

/-- A configuration of the surroundings has no URL exactly if the cluster has no server and no option helps
out. Options that cannot be read are reported first. -/
theorem autoConfigure_eq_noMasterUrl_iff (check : ∀ c, (w.https c).result ≠ .error .noMasterUrl) :
    (w.autoConfigure context).result = .error .noMasterUrl ↔ Options.fault? w.probe = none ∧
      w.probe.get? Options.masterUrl = none ∧ w.LacksServer context := by
  rw [autoConfigure_eq_late_iff rfl]
  refine and_congr_right fun _ => ?_
  constructor
  · rintro ⟨found, discovers, unsettled⟩
    obtain ⟨absent, url⟩ := Options.masterUrl_overlay_eq_empty_iff.mp (unsettled.masterUrl check)
    exact ⟨absent, discover_lacksServer_iff.mp ⟨found, discovers, url⟩⟩
  · rintro ⟨absent, lacks⟩
    obtain ⟨found, discovers, url⟩ := discover_lacksServer_iff.mpr lacks
    exact ⟨found, discovers, .noMasterUrl (Options.masterUrl_overlay_eq_empty_iff.mpr ⟨absent, url⟩)⟩

end World

/-- Explicit values with a URL do not miss it. -/
theorem Overrides.apply_ne_noMasterUrl {o : Overrides} {url : String}
    (explicit : o.fields.value? .masterUrl = some url) (given : url ≠ "") {https : TlsCheck}
    (check : ∀ c, (https c).result ≠ .error .noMasterUrl) {fs : FileSystem} {probe? : Option Probe}
    {base : Config} : (o.apply https fs probe? base).result ≠ .error .noMasterUrl := by
  intro h
  unfold apply at h
  split at h
  · cases h
  · rcases Traced.bind_eq_error.mp h with hn | ⟨_, _, hd⟩
    · have empty := (Config.normalize_eq_error.mp hn).masterUrl check
      rw [Config.masterUrl, value_over o base rfl, explicit] at empty
      exact given empty
    · cases hd

/-- A URL among the explicit values is the one that comes out, in normal form. -/
theorem Overrides.masterUrl_of_explicit {o : Overrides} {url : String}
    (explicit : o.fields.value? .masterUrl = some url) {https : TlsCheck} {fs : FileSystem}
    {probe? : Option Probe} {base c : Config} (h : (o.apply https fs probe? base).result = .ok c) :
    ∃ available,
      c.masterUrl = MasterUrl.ensureTrailingSlash (MasterUrl.ensureScheme url available) ∧
        (MasterUrl.hasScheme url = false → (https (o.over base)).result = .ok available) := by
  have nonempty : o.isEmpty = false := by
    cases empty : o.isEmpty with
    | false => rfl
    | true =>
      rw [eq_none_of_isEmpty empty] at explicit
      cases explicit
  obtain ⟨d, hn, rfl⟩ := (apply_eq_ok nonempty).mp h
  obtain ⟨_, normal, algorithm, settles, _, rfl⟩ := Config.normalize_eq_ok.mp hn
  have laid : (o.over base).masterUrl = url := by
    rw [Config.masterUrl, value_over o base rfl, explicit]
    rfl
  have shown : (o.forceAlgorithm ((o.over base).settled normal algorithm)).masterUrl = normal := by
    rw [Config.masterUrl, value_forceAlgorithm o _ (by decide), ← Config.masterUrl,
      Config.masterUrl_settled]
  rw [shown]
  cases scheme : MasterUrl.hasScheme url with
  | true =>
    obtain ⟨available, hu⟩ := Config.normalUrl_eq_ok settles
    rw [laid] at hu
    exact ⟨available, hu.symm, fun bare => by cases bare⟩
  | false =>
    rw [← laid] at scheme
    obtain ⟨available, hw, hu⟩ := (Config.normalUrl_of_not_hasScheme scheme).mp settles
    rw [laid] at hu
    exact ⟨available, hu.symm, fun _ => hw⟩

namespace Builder

/-- Building with an explicit URL reports that there is none exactly if the configuration of the surroundings
has none. What it builds has the explicit URL in normal form; a scheme that the URL leaves open is the one
that the check gives for the configuration with the explicit values. -/
theorem build_of_explicitUrl {b : Builder} {w : World} {url : String}
    (explicit : b.overrides.fields.value? .masterUrl = some url) (given : url ≠ "")
    (check : ∀ c, (w.https c).result ≠ .error .noMasterUrl) :
    ((b.build w).result = .error .noMasterUrl ↔ b.Discovers w ∧ Options.fault? w.probe = none ∧
      w.probe.get? Options.masterUrl = none ∧ w.LacksServer b.context) ∧
    ∀ c, (b.build w).result = .ok c → ∃ base probe? available, (b.base w).result = .ok (base, probe?) ∧
      c.masterUrl = MasterUrl.ensureTrailingSlash (MasterUrl.ensureScheme url available) ∧
        (MasterUrl.hasScheme url = false → (w.https (b.overrides.over base)).result = .ok available) := by
  constructor
  · by_cases discovers : b.Discovers w
    · rw [result_build_of_discovers discovers, Traced.bind_eq_error, World.autoConfigure_eq_noMasterUrl_iff check]
      constructor
      · rintro (h | ⟨_, _, h⟩)
        · exact ⟨discovers, h⟩
        · exact absurd h (Overrides.apply_ne_noMasterUrl explicit given check)
      · exact fun h => .inl h.2
    · rw [result_build_of_not_discovers discovers, Traced.bind_eq_error]
      refine ⟨?_, fun h => absurd h.1 discovers⟩
      rintro (h | ⟨_, _, h⟩)
      · rw [World.empty, World.result_normalize] at h
        exact absurd ((Config.normalize_eq_error.mp h).masterUrl check) (by decide)
      · exact absurd h (Overrides.apply_ne_noMasterUrl explicit given check)
  · intro c h
    obtain ⟨⟨base, probe?⟩, hb, ha⟩ := Traced.bind_eq_ok.mp h
    obtain ⟨available, normal, answer⟩ := Overrides.masterUrl_of_explicit explicit ha
    exact ⟨base, probe?, available, hb, normal, answer⟩

end Builder

/-- A kubeconfig whose only cluster says nothing. -/
def World.serverless (properties : List (String × String)) : World := .sample properties
  [("/home/user/.kube/config", "\"clusters\":\n- \"name\": \"c\"\n\"contexts\":\n- \"name\": \"a\"\n" ++
    "  \"context\":\n    \"cluster\": \"c\"\n\"current-context\": \"a\"\n")]

namespace Builder

/-- The caller has the URL. -/
def addressed : Builder :=
  ((start true none).call (.setField .masterUrl (.value (.str "https://api:6443")))).1

/-- The cluster has no server; with an option that has another URL the one of the caller counts. -/
theorem build_of_explicitUrl_sample : (World.serverless []).LacksServer none ∧
    ∃ c, (addressed.build (.serverless [(Options.masterUrl, "http://other")])).result = .ok c ∧
      c.masterUrl = "https://api:6443/" := by
  have explicit : addressed.overrides.fields.value? .masterUrl = some "https://api:6443" := by
    decide +kernel
  constructor
  · have missed := except_error_of_match (x := (addressed.build (.serverless [])).result)
      (e := .noMasterUrl) (by decide +kernel)
    have said := build_of_explicitUrl (w := .serverless []) explicit (by decide) fun c h => by cases h
    exact (said.1.mp missed).2.2.2
  · obtain ⟨c, hc, _⟩ := except_ok_of_map (show (addressed.build
      (.serverless [(Options.masterUrl, "http://other")])).result.toOption.map (fun _ => ()) = some ()
        by decide +kernel)
    have said := build_of_explicitUrl (w := .serverless [(Options.masterUrl, "http://other")]) explicit
      (by decide) fun c h => by cases h
    obtain ⟨_, _, available, _, url, _⟩ := said.2 c hc
    refine ⟨c, hc, url.trans ?_⟩
    cases available <;> decide

/-- The caller has the URL, and the configuration below, which has none, is refused before that counts. -/
theorem explicit_url_is_too_late :
    addressed.auto = true ∧ addressed.overrides.fields.value? .masterUrl = some "https://api:6443" ∧
      (addressed.build (.serverless [])).result = .error .noMasterUrl :=
  ⟨rfl, by decide +kernel, except_error_of_match (by decide +kernel)⟩

end Builder

end ClusterAccess
