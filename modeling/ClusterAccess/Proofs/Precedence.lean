import ClusterAccess.Proofs.Discovered
import ClusterAccess.Proofs.Explicit

/-!
# Which layer decides

A configuration built from its surroundings has four layers: the defaults, what discovery found, the
options, and the explicit values. For most fields the highest layer that says something decides. A proxy
that was found goes before its option, the settings of the request policy are layered one by one, and
three fields are results of the layers below them: the algorithm of the key, whether the namespace is the
default one, and whether the configuration was made automatically.
-/
namespace ClusterAccess

/-- The plain rule: the explicit value, else the option, else what was found. -/
def layered (o : Overrides) (p : Probe) (found : Config) (f : Field) : f.Value :=
  (o.fields.value? f).getD ((Options.given? p f).getD (found.value f))

/-- A proxy that was found goes before its option. -/
def layeredProxy (explicit given : Option (Option String)) (found : Option String) : Option String :=
  explicit.getD (if (filled found).isSome then found else given.getD found)

/-- The fields that follow the plain rule. -/
def Field.isPlain : Field → Bool
  | .masterUrl | .clientKeyAlgorithm | .request | .httpProxy | .httpsProxy | .defaultNamespace
  | .autoConfigured => false
  | _ => true

theorem Field.isSettled_of_isPlain {f : Field} (h : f.isPlain = true) : f.isSettled = false := by
  cases f <;> first | rfl | cases h

theorem Field.isPart_of_isPlain {f : Field} (h : f.isPlain = true) : f.isPart = true := by
  cases f <;> first | rfl | cases h

/-- Every field of the configuration but its master URL, from the layers. -/
structure Config.Layered (c : Config) (o : Overrides) (w : World) (found : Config) : Prop where
  plain : ∀ f : Field, f.isPlain = true → c.value f = layered o w.probe found f
  request : ∀ g, c.request.value g = (o.requestValue? g).getD
    (((Options.requestChanges w.probe).value? g).getD (found.request.value g))
  httpProxy : c.httpProxy =
    layeredProxy (o.fields.value? .httpProxy) (Options.given? w.probe .httpProxy) found.httpProxy
  httpsProxy : c.httpsProxy =
    layeredProxy (o.fields.value? .httpsProxy) (Options.given? w.probe .httpsProxy) found.httpsProxy
  keyAlgorithm : ∃ forced, w.probe.keyAlgorithm? = .ok forced ∧ c.value .clientKeyAlgorithm =
    ((o.fields.value? .clientKeyAlgorithm).join).or
      (forced.or (ClientKey.shown w.fs c.clientKeyFile c.clientKeyData))
  defaultNamespace : c.value .defaultNamespace = (o.fields.value? .namespaceName).isNone
  autoConfigured : c.autoConfigured = true
  autoToken : c.autoToken = (w.probe.get? Options.oauthToken).or found.autoToken
  explicit : c.explicit = o

/-- What the layers below the explicit values are: discovery wrote its own fields over the defaults, and
every option that is present could be read. -/
structure World.Layers (w : World) (found : Config) : Prop where
  discovered : Config.default.DiffersOnly Field.isDiscovered found
  options : ∀ f, Options.fieldValue? w.probe f = .ok (Options.given? w.probe f)
  requestOptions : ∀ g, Options.requestValue? w.probe g = .ok ((Options.requestChanges w.probe).value? g)

theorem World.layers_of_configures {w : World} {context : Option String} {found c : Config}
    (hd : (w.discover context).result = .ok found) (h : w.Configures found c) : w.Layers found :=
  ⟨(World.discover_eq_ok hd).1, Options.fieldValue?_of_wellFormed h.wellFormed,
    Options.requestValue?_of_wellFormed h.wellFormed⟩

namespace World.Configures

variable {w : World} {found base : Config}

theorem value_plain (h : w.Configures found base) {f : Field} (hf : f.isPlain = true) :
    base.value f = (Options.given? w.probe f).getD (found.value f) := by
  have hc : (Options.changes w.probe found).value? f = Options.given? w.probe f := by
    cases f <;> first | rfl | cases hf
  have ha : f ≠ .autoConfigured := by
    rintro rfl
    cases hf
  rw [h.value f (Field.isSettled_of_isPlain hf) ha, Options.value_overlay, hc]

theorem value_request (h : w.Configures found base) (g : RequestField) :
    base.request.value g =
      ((Options.requestChanges w.probe).value? g).getD (found.request.value g) := by
  rw [Config.request, h.value .request rfl (by decide)]
  exact Options.request_overlay w.probe found g

theorem httpProxy (h : w.Configures found base) : base.httpProxy =
    layeredProxy none (Options.given? w.probe .httpProxy) found.httpProxy := by
  have hc : (Options.changes w.probe found).value? .httpProxy =
      if (filled found.httpProxy).isSome then none else Options.given? w.probe .httpProxy := rfl
  rw [Config.httpProxy, h.value .httpProxy rfl (by decide), Options.value_overlay, hc, layeredProxy]
  split <;> rfl

theorem httpsProxy (h : w.Configures found base) : base.httpsProxy =
    layeredProxy none (Options.given? w.probe .httpsProxy) found.httpsProxy := by
  have hc : (Options.changes w.probe found).value? .httpsProxy =
      if (filled found.httpsProxy).isSome then none else Options.given? w.probe .httpsProxy := rfl
  rw [Config.httpsProxy, h.value .httpsProxy rfl (by decide), Options.value_overlay, hc, layeredProxy]
  split <;> rfl

theorem defaultNamespace (h : w.Configures found base)
    (hd : Config.default.DiffersOnly Field.isDiscovered found) : base.value .defaultNamespace = true := by
  rw [h.value .defaultNamespace rfl (by decide), Options.value_overlay]
  exact hd.value .defaultNamespace rfl

end World.Configures

/-- Explicit values over options over what discovery found over the defaults. -/
theorem Builder.build_layered {b : Builder} (made : b.Made) (auto : b.auto = true) {w : World}
    (enabled : w.probe.autoConfigDisabled = false) {c : Config} (h : (b.build w).result = .ok c) :
    ∃ found, (w.discover b.context).result = .ok found ∧ w.Layers found ∧
      c.Layered b.overrides w found := by
  obtain ⟨base, hb, ha⟩ := (build_eq_ok_of_discovers ⟨auto, enabled⟩).mp h
  obtain ⟨found, hd, hc⟩ := World.configures_of_autoConfigure hb
  have hl : w.Layers found := World.layers_of_configures hd hc
  have ho := Overrides.applied_of_apply made.areSettable hc.explicit ha
  refine ⟨found, hd, hl, fun f hf => ?_, fun g => ?_, ?_, ?_, ?_, ?_, ?_, ?_, ho.explicit⟩
  · rw [ho.value f (Field.isSettled_of_isPlain hf) (Field.isPart_of_isPlain hf), hc.value_plain hf]
    rfl
  · rw [ho.request g, hc.value_request g]
  · rw [Config.httpProxy, ho.value .httpProxy rfl rfl, ← Config.httpProxy, hc.httpProxy]
    rfl
  · rw [Config.httpsProxy, ho.value .httpsProxy rfl rfl, ← Config.httpsProxy, hc.httpsProxy]
    rfl
  · obtain ⟨forced, hf, hk⟩ := hc.keyAlgorithm
    have hp : Config.forcedAlgorithm (some w.probe) = .ok forced := hf
    exact ⟨forced, hf, Overrides.algorithm_of_apply hp hk ha⟩
  · rw [ho.defaultNamespace, hc.defaultNamespace hl.discovered]
    cases b.overrides.fields.value? .namespaceName <;> rfl
  · rw [ho.autoConfigured made.areSettable]
    exact hc.autoConfigured
  · rw [ho.autoToken, hc.autoToken]
    rfl

theorem Builder.build_layered_sample : ∃ c found,
    (Builder.sample.build (.sample [(Options.httpProxy, "http://proxy")] [])).result = .ok c ∧
      c.Layered Builder.sample.overrides (.sample [(Options.httpProxy, "http://proxy")] []) found ∧
        c.httpProxy = some "http://proxy" := by
  obtain ⟨c, hc, hp⟩ := except_ok_of_map (show (Builder.sample.build
    (.sample [(Options.httpProxy, "http://proxy")] [])).result.toOption.map Config.httpProxy =
      some (some "http://proxy") by decide +kernel)
  obtain ⟨found, _, _, hl⟩ := Builder.build_layered Builder.sample_made rfl (by decide +kernel) hc
  exact ⟨c, found, hc, hl, hp⟩

/-- The plain rule does not hold of the fields that are results of other fields. -/
theorem Builder.results_are_not_plain : ∃ c found,
    (Builder.sample.build (.sample [] [])).result = .ok c ∧
      ((World.sample [] []).discover Builder.sample.context).result = .ok found ∧
        ∀ f ∈ [Field.defaultNamespace, .autoConfigured, .clientKeyAlgorithm],
          c.value f ≠ layered Builder.sample.overrides (World.sample [] []).probe found f := by
  obtain ⟨c, hc, hv⟩ := except_ok_of_map (show (Builder.sample.build (.sample [] [])).result.toOption.map
    (fun c => (c.value .defaultNamespace, c.value .autoConfigured, c.value .clientKeyAlgorithm)) =
      some (false, true, some .ec) by decide +kernel)
  obtain ⟨found, hd, hl⟩ := except_ok_of_map
    (show ((World.sample [] []).discover Builder.sample.context).result.toOption.map
      (fun found =>
        (layered Builder.sample.overrides (World.sample [] []).probe found .defaultNamespace,
          layered Builder.sample.overrides (World.sample [] []).probe found .autoConfigured,
          layered Builder.sample.overrides (World.sample [] []).probe found .clientKeyAlgorithm)) =
      some (true, false, none) by decide +kernel)
  rw [Prod.mk.injEq, Prod.mk.injEq] at hv hl
  obtain ⟨hn, ha, hk⟩ := hv
  obtain ⟨hn', ha', hk'⟩ := hl
  refine ⟨c, found, hc, hd, fun f hf => ?_⟩
  rw [List.mem_cons, List.mem_cons, List.mem_singleton] at hf
  obtain rfl | rfl | rfl := hf
  · rw [hn, hn']
    decide
  · rw [ha, ha']
    decide
  · rw [hk, hk']
    decide

end ClusterAccess
