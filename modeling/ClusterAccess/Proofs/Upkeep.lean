import ClusterAccess.Proofs.Discovered
import ClusterAccess.Proofs.Explicit
import ClusterAccess.Proofs.MissingContext
import ClusterAccess.Refresh

/-!
# Upkeep of a configuration

A configuration is kept for as long as its program runs. Meanwhile the surroundings change, the token is
replaced, and the configuration is refreshed. Each refresh starts from a fresh configuration, which no
caller has touched, and lays the remembered explicit values over it. So what the caller set holds after
any number of such events, in any order.
-/
namespace ClusterAccess

/-! ## Fresh configurations -/

/-- Nothing that only a caller can set is set. -/
structure Config.IsFresh (c : Config) : Prop where
  explicit : c.explicit = .none
  oauthToken : c.oauthToken = none
  defaultNamespace : c.value .defaultNamespace = true

namespace Config.IsFresh

variable {c d : Config}

theorem of_differsOnly (h : Config.default.DiffersOnly Field.isDiscovered c) : c.IsFresh :=
  ⟨h.explicit, h.value .oauthToken rfl, h.value .defaultNamespace rfl⟩

theorem no_token (h : c.IsFresh) : filled c.oauthToken = none := by
  rw [h.oauthToken]
  rfl

theorem settled (h : c.IsFresh) (url : String) (algorithm : Option KeyAlgorithm) :
    (c.settled url algorithm).IsFresh where
  explicit := h.explicit
  oauthToken := h.oauthToken
  defaultNamespace := h.defaultNamespace

theorem overlay (h : c.IsFresh) (p : Probe) : (Options.overlay p c).IsFresh where
  explicit := by rw [Options.explicit_overlay, h.explicit]
  oauthToken := by
    rw [Config.oauthToken, Options.value_overlay]
    exact h.oauthToken
  defaultNamespace := by
    rw [Options.value_overlay]
    exact h.defaultNamespace

theorem normalize (h : c.IsFresh) {w : World} {useProbe : Bool}
    (hd : (w.normalize c useProbe).result = .ok d) : d.IsFresh := by
  rw [World.result_normalize] at hd
  obtain ⟨_, url, algorithm, _, _, rfl⟩ := Config.normalize_eq_ok.mp hd
  exact h.settled url algorithm

theorem finish (h : c.IsFresh) {w : World} (hd : (w.finish c).result = .ok d) : d.IsFresh := by
  obtain ⟨url, algorithm, rfl⟩ := World.finish_settled hd
  exact (h.overlay w.probe).settled url algorithm

theorem of_empty {w : World} (h : w.empty.result = .ok c) : c.IsFresh :=
  (of_differsOnly (.refl _ _)).normalize h

theorem of_autoConfigure {w : World} {context : Option String}
    (h : (w.autoConfigure context).result = .ok c) : c.IsFresh := by
  obtain ⟨found, finished, hd, hf, rfl⟩ := World.autoConfigure_eq_ok.mp h
  have hfresh := (of_differsOnly (World.discover_eq_ok hd).1).finish hf
  exact ⟨hfresh.explicit, hfresh.oauthToken, hfresh.defaultNamespace⟩

/-- A configuration of one document is fresh, and not made automatically. -/
theorem of_ofDocument {w : World} {context : Option String} {doc : Kubeconfig}
    (h : (w.ofDocument context doc).result = .ok c) : c.IsFresh ∧ c.autoConfigured = false := by
  obtain ⟨merged, hm, hn⟩ := World.ofDocument_eq_ok.mp h
  obtain ⟨_, url, algorithm, _, _, rfl⟩ := Config.normalize_eq_ok.mp hn
  have hw := (Merge.documents_eq_ok hm).1
  exact ⟨(of_differsOnly hw).settled url algorithm, hw.value .autoConfigured rfl⟩

end Config.IsFresh

/-! ## What the caller set -/

/-- The configuration holds what the caller set, and no explicit token or namespace beside it. -/
structure Config.Honours (c : Config) (o : Overrides) : Prop where
  explicit : c.explicit = o
  value : ∀ (f : Field) (v : f.Value), f.isSettled = false → o.fields.value? f = some v → c.value f = v
  request : ∀ g i, o.requestValue? g = some i → c.request.value g = i
  algorithm : ∀ a, o.fields.value? .clientKeyAlgorithm = some (some a) →
    c.value .clientKeyAlgorithm = some a
  defaultNamespace : c.value .defaultNamespace = false ↔ (o.fields.value? .namespaceName).isSome = true
  oauthToken : c.oauthToken = (o.fields.value? .oauthToken).getD none
  masterUrl : ∀ url, o.fields.value? .masterUrl = some url → ∃ available,
    c.masterUrl = MasterUrl.ensureTrailingSlash (MasterUrl.ensureScheme url available)

theorem Overrides.Applied.honours {o : Overrides} (settable : o.fields.AreSettable) {base c : Config}
    (h : o.Applied base c) (fresh : base.IsFresh) : c.Honours o where
  explicit := h.explicit
  value f v hf hv := by
    have hp : f.isPart = true := settable.isPart hv
    rw [h.value f hf hp, hv, Option.getD_some]
  request g i hi := by rw [h.request g, hi, Option.getD_some]
  algorithm := h.algorithm
  defaultNamespace := by
    rw [h.defaultNamespace, fresh.defaultNamespace]
    cases o.fields.value? .namespaceName <;> simp
  oauthToken := by
    rw [Config.oauthToken, h.value .oauthToken rfl rfl,
      ← Config.oauthToken, fresh.oauthToken]
  masterUrl url hu := by
    obtain ⟨available, ha⟩ := h.masterUrl url hu
    exact ⟨available, ha.symm⟩

/-- The token of discovery is not among what the caller set. -/
theorem Config.Honours.withAutoToken {c : Config} {o : Overrides} (h : c.Honours o)
    (token : Option String) : (c.withAutoToken token).Honours o :=
  ⟨h.explicit, h.value, h.request, h.algorithm, h.defaultNamespace, h.oauthToken, h.masterUrl⟩

/-- Explicit values over a fresh configuration hold. -/
theorem Overrides.honours_of_apply {o : Overrides} (settable : o.fields.AreSettable) {https : TlsCheck}
    {fs : FileSystem} {probe? : Option Probe} {base c : Config} (fresh : base.IsFresh)
    (h : (o.apply https fs probe? base).result = .ok c) : c.Honours o :=
  (applied_of_apply settable fresh.explicit h).honours settable fresh

theorem Builder.honours_of_build {b : Builder} (made : b.Made) {w : World} {c : Config}
    (h : (b.build w).result = .ok c) : c.Honours b.overrides := by
  by_cases hb : b.Discovers w
  · obtain ⟨base, hc, ha⟩ := (build_eq_ok_of_discovers hb).mp h
    exact Overrides.honours_of_apply made.areSettable (.of_autoConfigure hc) ha
  · rw [result_build_of_not_discovers hb, Traced.bind_eq_ok] at h
    obtain ⟨base, hc, ha⟩ := h
    exact Overrides.honours_of_apply made.areSettable (.of_empty hc) ha

/-! ## Refreshing -/

namespace World

/-- What a renewal comes to: the old configuration if its context is gone, or else what is made anew. -/
theorem result_renew (w : World) (c : Config) (failure : String) (make : Traced Config)
    (probe? : Option Probe) (finish : Config → Traced Config) :
    (w.renew c failure make probe? finish).result =
      match make.result with
      | .ok d => (finish d >>= c.explicit.apply w.https w.fs probe?).result.map .replaced
      | .error e => if e.isUnknownContext then .ok .unchanged else .error e := by
  unfold renew
  rw [Traced.result_bind_of_ok (Traced.result_outcome make)]
  cases make.result with
  | ok d =>
    dsimp only
    rw [Traced.result_bind, Traced.result_bind]
    cases (finish d).result with
    | error e => rfl
    | ok d => exact Traced.result_map Refreshed.replaced _
  | error e => cases e <;> rfl

/-- A renewal gives the old configuration, or explicit values over what is made and finished. -/
theorem renew_eq_ok {w : World} {c : Config} {failure : String} {make : Traced Config}
    {probe? : Option Probe} {finish : Config → Traced Config} {r : Refreshed}
    (h : (w.renew c failure make probe? finish).result = .ok r) :
    r = .unchanged ∨ ∃ made base d, make.result = .ok made ∧ (finish made).result = .ok base ∧
      (c.explicit.apply w.https w.fs probe? base).result = .ok d ∧ r = .replaced d := by
  rw [result_renew] at h
  cases hm : make.result with
  | error e =>
    rw [hm] at h
    dsimp only at h
    split at h
    · exact Or.inl (Except.ok.inj h).symm
    · cases h
  | ok made =>
    rw [hm] at h
    dsimp only at h
    cases ha : (finish made >>= c.explicit.apply w.https w.fs probe?).result with
    | error e =>
      rw [ha] at h
      cases h
    | ok d =>
      rw [ha] at h
      obtain ⟨base, hb, hd⟩ := Traced.bind_eq_ok.mp ha
      exact Or.inr ⟨made, base, d, rfl, hb, hd, (Except.ok.inj h).symm⟩

/-- A configuration of a file is refreshed from it. -/
theorem refresh_of_file (w : World) {c : Config} (manual : c.autoConfigured = false)
    (token : filled c.oauthToken = none) {file : Path} (hf : c.file = some file) :
    w.refresh c = w.refreshFile c file := by
  unfold refresh
  rw [token, manual, hf]
  rfl

/-- What a refresh does when it succeeds: it leaves the configuration, or lays its explicit values over what
discovery finds now, or over what its file holds now. -/
inductive Refreshes (w : World) (c : Config) : Refreshed → Prop
  | unchanged : Refreshes w c .unchanged
  | auto {base d : Config} (auto : c.autoConfigured = true)
    (made : (w.autoConfigure c.currentContextName).result = .ok base)
    (applied : (c.explicit.apply w.https w.fs (some w.probe) base).result = .ok d) :
    Refreshes w c (.replaced d)
  | file {path : Path} {text : String} {k : Kubeconfig} {merged base d : Config} {probe? : Option Probe}
    (manual : c.autoConfigured = false) (file : c.file = some path)
    (reads : w.fs.readText path.text = .ok text) (parsed : Kubeconfig.parse text (some path.text) = .ok k)
    (merges : (Merge.documents w.fs c.currentContextName [k.from path] .default).result = .ok merged)
    (finished : (w.normalize merged false).result = .ok base ∨ (w.finish merged).result = .ok base)
    (applied : (c.explicit.apply w.https w.fs probe? base).result = .ok d) :
    Refreshes w c (.replaced d)

theorem refreshes_of_refreshAuto {w : World} {c : Config} (auto : c.autoConfigured = true) {r : Refreshed}
    (h : (w.refreshAuto c).result = .ok r) : w.Refreshes c r := by
  obtain rfl | ⟨base, _, d, hm, hf, ha, rfl⟩ := renew_eq_ok h
  · exact .unchanged
  · cases hf
    exact .auto auto hm ha

theorem refreshes_of_refreshFile {w : World} {c : Config} (manual : c.autoConfigured = false) {path : Path}
    (hf : c.file = some path) {r : Refreshed} (h : (w.refreshFile c path).result = .ok r) :
    w.Refreshes c r := by
  unfold refreshFile at h
  obtain ⟨text?, loads, h⟩ := Traced.bind_eq_ok.mp h
  obtain ⟨_, rfl⟩ := Discovery.load_eq_ok.mp loads
  cases reads : w.fs.readText path.text with
  | error fault =>
    rw [reads] at h
    cases h
    exact .unchanged
  | ok text =>
    rw [reads] at h
    obtain ⟨k, parsed, h⟩ := Traced.bind_eq_ok.mp h
    dsimp only at h
    split at h
    · obtain rfl | ⟨merged, base, d, hm, hb, ha, rfl⟩ := renew_eq_ok h
      · exact .unchanged
      · exact .file manual hf reads parsed hm (.inl hb) ha
    · obtain rfl | ⟨merged, base, d, hm, hb, ha, rfl⟩ := renew_eq_ok h
      · exact .unchanged
      · exact .file manual hf reads parsed hm (.inr hb) ha

theorem refreshes_of_refresh {w : World} {c : Config} {r : Refreshed} (h : (w.refresh c).result = .ok r) :
    w.Refreshes c r := by
  unfold refresh at h
  split at h
  · cases h
    exact .unchanged
  · split at h
    · next auto => exact refreshes_of_refreshAuto auto h
    · next manual =>
      split at h
      · next path hf => exact refreshes_of_refreshFile (Bool.eq_false_iff.mpr manual) hf h
      · cases h
        exact .unchanged

/-- Whatever a configuration is refreshed from, explicit values are laid over a fresh configuration. -/
theorem refresh_eq_ok {w : World} {c : Config} {r : Refreshed} (h : (w.refresh c).result = .ok r) :
    r = .unchanged ∨ ∃ base probe? d, base.IsFresh ∧
      (c.autoConfigured = true → base.autoConfigured = true) ∧
        (c.explicit.apply w.https w.fs probe? base).result = .ok d ∧ r = .replaced d := by
  cases refreshes_of_refresh h with
  | unchanged => exact .inl rfl
  | auto _ made applied =>
    obtain ⟨_, _, _, _, rfl⟩ := autoConfigure_eq_ok.mp made
    exact .inr ⟨_, some w.probe, _, .of_autoConfigure made, fun _ => rfl, applied, rfl⟩
  | @file _ _ _ merged base d probe? manual _ _ _ merges finished applied =>
    have found := Config.IsFresh.of_differsOnly (Merge.documents_eq_ok merges).1
    have fresh : base.IsFresh := finished.elim found.normalize found.finish
    refine .inr ⟨base, probe?, d, fresh, fun auto => ?_, applied, rfl⟩
    rw [manual] at auto
    cases auto

/-- The explicit values are remembered. -/
theorem explicit_of_refresh {w : World} {c : Config} (settable : c.explicit.fields.AreSettable)
    {r : Refreshed} (h : (w.refresh c).result = .ok r) : (r.over c).explicit = c.explicit := by
  obtain rfl | ⟨base, probe?, d, fresh, _, applied, rfl⟩ := refresh_eq_ok h
  · rfl
  · exact (Overrides.applied_of_apply settable fresh.explicit applied).explicit

theorem honours_of_refresh {w : World} {c : Config} {o : Overrides} (settable : o.fields.AreSettable)
    (hc : c.Honours o) {r : Refreshed} (h : (w.refresh c).result = .ok r) : (r.over c).Honours o := by
  obtain rfl | ⟨base, probe?, d, fresh, _, ha, rfl⟩ := refresh_eq_ok h
  · exact hc
  · rw [hc.explicit] at ha
    exact Overrides.honours_of_apply settable fresh ha

end World

/-! ## Runs -/

namespace Upkeep

/-- What happens to a configuration that is kept. -/
inductive Event where
  | world (w : World)
  | token (token : Option String)
  | refresh

/-- The surroundings, and the configuration as it is now. -/
structure State where
  world : World
  config : Config

/-- One event. A refresh that fails leaves the configuration as it is. -/
def State.after (s : State) : Event → State
  | .world w => { s with world := w }
  | .token token => { s with config := s.config.withAutoToken token }
  | .refresh =>
    match (s.world.refresh s.config).result with
    | .ok r => { s with config := r.over s.config }
    | .error _ => s

def run (s : State) (events : List Event) : State := events.foldl State.after s

theorem after_honours {s : State} {o : Overrides} (settable : o.fields.AreSettable)
    (h : s.config.Honours o) (e : Event) : (s.after e).config.Honours o := by
  cases e with
  | world w => exact h
  | token token => exact h.withAutoToken token
  | refresh =>
    unfold State.after
    dsimp only
    split
    · next r hr => exact World.honours_of_refresh settable h hr
    · exact h

theorem run_honours {s : State} {o : Overrides} (settable : o.fields.AreSettable)
    (h : s.config.Honours o) (events : List Event) : (run s events).config.Honours o := by
  induction events generalizing s with
  | nil => exact h
  | cons e rest ih => exact ih (after_honours settable h e)

/-- What a builder's caller set holds of its configuration for ever. -/
theorem explicit_values_hold {b : Builder} (made : b.Made) {w : World} {c : Config}
    (h : (b.build w).result = .ok c) (events : List Event) :
    (run ⟨w, c⟩ events).config.Honours b.overrides :=
  run_honours made.areSettable (Builder.honours_of_build made h) events

/-- The sample keeps its namespace when an option for another one comes up. -/
theorem explicit_values_hold_sample : ∃ c, (Builder.sample.build (.sample [] [])).result = .ok c ∧
    (run ⟨.sample [] [], c⟩ [.world (.sample [(Options.namespaceName, "theirs")] []), .token (some "t"),
      .refresh]).config.value .namespaceName = some "mine" := by
  obtain ⟨c, hc, _, _⟩ := Builder.sample_builds
  have hn : Builder.sample.overrides.fields.value? .namespaceName = some (some "mine") := by
    decide +kernel
  have hh := explicit_values_hold Builder.sample_made hc
    [.world (.sample [(Options.namespaceName, "theirs")] []), .token (some "t"), .refresh]
  exact ⟨c, hc, hh.value .namespaceName (some "mine") rfl hn⟩

end Upkeep

end ClusterAccess
