import ClusterAccess.Proofs.Upkeep

/-!
# Refreshing is building again

A configuration that was made automatically is refreshed along a path of its own. It comes to the same as a
builder with the same explicit values that asks for the current context: the same configuration, or the
same error, but that a context that is gone leaves the configuration as it is.
-/
namespace ClusterAccess

/-- What a refresh comes to when building again comes to this. -/
def Refreshed.ofRebuild : Except Error Config → Except Error Refreshed
  | .ok c => .ok (.replaced c)
  | .error e => if e.isUnknownContext then .ok .unchanged else .error e

/-- An automatic configuration without a token of the caller is refreshed by discovery. -/
theorem World.refresh_of_autoConfigured (w : World) {c : Config} (auto : c.autoConfigured = true)
    (token : filled c.oauthToken = none) : w.refresh c = w.refreshAuto c := by
  unfold refresh
  rw [token, auto]
  rfl

/-- One refresh against one build in the same surroundings. -/
theorem World.result_refresh_eq_ofRebuild {w : World} (https : w.https.NeedsNoContext) {c : Config}
    (auto : c.autoConfigured = true) (token : filled c.oauthToken = none) {b : Builder}
    (discovers : b.Discovers w) (values : b.overrides = c.explicit)
    (context : b.context = c.currentContextName) :
    (w.refresh c).result = Refreshed.ofRebuild (b.build w).result := by
  rw [w.refresh_of_autoConfigured auto token, Builder.result_build_of_discovers discovers, values,
    context, refreshAuto, result_renew, Traced.result_bind]
  cases (w.autoConfigure c.currentContextName).result with
  | error e => rfl
  | ok base =>
    have ha := c.explicit.apply_needsNoContext https w.fs (some w.probe) base
    show ((pure base >>= c.explicit.apply w.https w.fs (some w.probe)).result.map Refreshed.replaced) =
      Refreshed.ofRebuild (c.explicit.apply w.https w.fs (some w.probe) base).result
    rw [pure_bind]
    cases hd : (c.explicit.apply w.https w.fs (some w.probe) base).result with
    | ok d => rfl
    | error e =>
      rw [Refreshed.ofRebuild, ha e hd]
      rfl

namespace Upkeep

/-- What is made automatically stays so. -/
theorem after_autoConfigured {s : State} {o : Overrides} (settable : o.fields.AreSettable)
    (h : s.config.Honours o) (auto : s.config.autoConfigured = true) (e : Event) :
    (s.after e).config.autoConfigured = true := by
  cases e with
  | world w => exact auto
  | token token => exact auto
  | refresh =>
    unfold State.after
    dsimp only
    split
    · next r hr =>
      obtain rfl | ⟨base, probe?, d, fresh, hb, ha, rfl⟩ := World.refresh_eq_ok hr
      · exact auto
      · rw [h.explicit] at ha
        have hd := Overrides.applied_of_apply settable fresh.explicit ha
        show d.autoConfigured = true
        rw [hd.autoConfigured settable]
        exact hb auto
    · exact auto

theorem run_autoConfigured {s : State} {o : Overrides} (settable : o.fields.AreSettable)
    (h : s.config.Honours o) (auto : s.config.autoConfigured = true) (events : List Event) :
    (run s events).config.autoConfigured = true := by
  induction events generalizing s with
  | nil => exact auto
  | cons e rest ih => exact ih (after_honours settable h e) (after_autoConfigured settable h auto e)

/-- After any upkeep, a refresh is a build with the same explicit values and the current context. -/
theorem refresh_eq_rebuild {b : Builder} (made : b.Made) {w : World} {c : Config}
    (h : (b.build w).result = .ok c) (auto : c.autoConfigured = true) (token : filled c.oauthToken = none)
    (events : List Event) {later : World} (https : later.https.NeedsNoContext) {again : Builder}
    (discovers : again.Discovers later) (values : again.overrides = b.overrides)
    (context : again.context = (run ⟨w, c⟩ events).config.currentContextName) :
    (later.refresh (run ⟨w, c⟩ events).config).result =
      Refreshed.ofRebuild (again.build later).result := by
  have hc : c.Honours b.overrides := Builder.honours_of_build made h
  have hd := run_honours (s := ⟨w, c⟩) made.areSettable hc events
  have ht : filled (run ⟨w, c⟩ events).config.oauthToken = none := by
    rw [hd.oauthToken, ← hc.oauthToken, token]
  have ha := run_autoConfigured (s := ⟨w, c⟩) made.areSettable hc auto events
  exact World.result_refresh_eq_ofRebuild https ha ht discovers (values.trans hd.explicit.symm) context

/-- The sample, refreshed after an option came up and the token was replaced. -/
theorem refresh_eq_rebuild_sample : ∃ c, (Builder.sample.build (.sample [] [])).result = .ok c ∧
    ((World.sample [(Options.userAgent, "agent")] []).refresh
      (run ⟨.sample [] [], c⟩ [.token (some "t"), .refresh]).config).result =
        Refreshed.ofRebuild (({ Builder.sample with
          context := (run ⟨.sample [] [], c⟩ [.token (some "t"), .refresh]).config.currentContextName
          }).build (.sample [(Options.userAgent, "agent")] [])).result := by
  obtain ⟨c, hc, auto, token⟩ := Builder.sample_builds
  exact ⟨c, hc, refresh_eq_rebuild Builder.sample_made hc auto token [.token (some "t"), .refresh]
    (fun c => .pure true) ⟨rfl, by decide +kernel⟩ rfl rfl⟩

end Upkeep

end ClusterAccess
