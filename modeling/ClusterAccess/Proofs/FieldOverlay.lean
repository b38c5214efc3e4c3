import ClusterAccess.Proofs.Precedence

/-!
# Options, field by field

What options make of a field follows from the value of that field alone: no rule reads what another one
has written. So options that are laid over a configuration once more change nothing, and a field without an
option stays as it is.
-/
namespace ClusterAccess

/-- Settings that are changed once more stay as they are. -/
theorem RequestPolicy.change_change (p : RequestPolicy) (changes : RequestChanges) :
    (p.change changes).change changes = p.change changes := by
  have again : ∀ f, ((p.change changes).change changes).value f = (p.change changes).value f := by
    intro f
    rw [value_change, value_change]
    cases changes.value? f <;> rfl
  exact congrArg RequestPolicy.mk (funext again)

theorem RequestPolicy.change_of_isEmpty (p : RequestPolicy) {changes : RequestChanges}
    (h : changes.isEmpty = true) : p.change changes = p := by
  have same : ∀ f, (p.change changes).value f = p.value f := by
    intro f
    rw [value_change, RequestChanges.value?_of_isEmpty h, Option.getD_none]
  exact congrArg RequestPolicy.mk (funext same)

/-- Fields that no option reaches. -/
def Field.hasNoOption : Field → Bool
  | .oauthToken | .tokenProvider | .defaultNamespace | .authProvider | .impersonateExtras | .tlsServerName
  | .clientKeyAlgorithm | .customHeaders | .contexts | .currentContext | .autoConfigured | .source => true
  | _ => false

namespace Options

/-- What options make of a field with this value. -/
def overlaid (p : Probe) : (f : Field) → f.Value → f.Value
  | .request, v => RequestPolicy.change v (requestChanges p)
  | .httpProxy, v => layeredProxy none (given? p .httpProxy) v
  | .httpsProxy, v => layeredProxy none (given? p .httpsProxy) v
  | f, v => (given? p f).getD v

theorem layeredProxy_of_filled {v : Option String} (h : (filled v).isSome = true)
    (given : Option (Option String)) : layeredProxy none given v = v := if_pos h

theorem layeredProxy_again (given : Option (Option String)) (v : Option String) :
    layeredProxy none given (layeredProxy none given v) = layeredProxy none given v := by
  by_cases there : (filled v).isSome = true
  · rw [layeredProxy_of_filled there, layeredProxy_of_filled there]
  · have first : layeredProxy none given v = given.getD v := if_neg there
    rw [first, layeredProxy, Option.getD_none]
    cases given <;> exact ite_self _

theorem getD_getD {α : Type} (given : Option α) (v : α) : given.getD (given.getD v) = given.getD v := by
  cases given <;> rfl

/-- The same options on the same field come to nothing new. -/
theorem overlaid_overlaid (p : Probe) (f : Field) (v : f.Value) :
    overlaid p f (overlaid p f v) = overlaid p f v := by
  cases f with
  | request => exact RequestPolicy.change_change v _
  | httpProxy => exact layeredProxy_again _ v
  | httpsProxy => exact layeredProxy_again _ v
  | _ => first | rfl | exact getD_getD _ v

theorem overlaid_of_hasNoOption {f : Field} (h : f.hasNoOption = true) (p : Probe) (v : f.Value) :
    overlaid p f v = v := by
  cases f <;> first | rfl | cases h

/-- No field depends on another one. -/
theorem value_overlay_eq_overlaid (p : Probe) (c : Config) (f : Field) :
    (overlay p c).value f = overlaid p f (c.value f) := by
  rw [value_overlay]
  cases f with
  | request =>
    show (if (requestChanges p).isEmpty then none else some (c.request.change (requestChanges p))).getD
      c.request = c.request.change (requestChanges p)
    split
    · next silent => exact (RequestPolicy.change_of_isEmpty _ silent).symm
    · rfl
  | httpProxy =>
    show (if (filled c.httpProxy).isSome then none else given? p .httpProxy).getD c.httpProxy =
      layeredProxy none (given? p .httpProxy) c.httpProxy
    unfold layeredProxy
    split <;> rfl
  | httpsProxy =>
    show (if (filled c.httpsProxy).isSome then none else given? p .httpsProxy).getD c.httpsProxy =
      layeredProxy none (given? p .httpsProxy) c.httpsProxy
    unfold layeredProxy
    split <;> rfl
  | _ => rfl

/-- Options laid over a configuration a second time change nothing. -/
theorem overlay_overlay (p : Probe) (c : Config) : overlay p (overlay p c) = overlay p c := by
  refine Config.ext (fun f => ?_) ?_ ?_
  · rw [value_overlay_eq_overlaid, value_overlay_eq_overlaid, overlaid_overlaid]
  · rw [autoToken_overlay, autoToken_overlay, ← Option.or_assoc, Option.or_self]
  · rw [explicit_overlay]

/-- Whether options can be laid over a configuration, and which error it is if not, does not depend on the
configuration. If they can, doing so again changes nothing; a proxy that is there stays, and so do the
fields without an option and the explicit values. -/
theorem apply_again (p : Probe) (c : Config) :
    (∀ (other : Config) (e : Error), (apply p c).result = .error e ↔ (apply p other).result = .error e) ∧
    ∀ d, (apply p c).result = .ok d →
      (apply p d).result = .ok d ∧
      ((filled c.httpProxy).isSome = true → d.httpProxy = c.httpProxy) ∧
      ((filled c.httpsProxy).isSome = true → d.httpsProxy = c.httpsProxy) ∧
      (∀ f : Field, f.hasNoOption = true → d.value f = c.value f) ∧ d.explicit = c.explicit := by
  refine ⟨fun other e => ?_, fun d applied => ?_⟩
  · cases fault : fault? p with
    | some first => rw [result_apply_of_fault fault, result_apply_of_fault fault]
    | none => simp [result_apply_of_wellFormed fault]
  · obtain ⟨wellFormed, rfl⟩ := apply_eq_ok.mp applied
    refine ⟨apply_eq_ok.mpr ⟨wellFormed, overlay_overlay p c⟩, fun there => ?_, fun there => ?_,
      fun f noOption => ?_, explicit_overlay p c⟩
    · exact (value_overlay_eq_overlaid p c .httpProxy).trans (layeredProxy_of_filled there _)
    · exact (value_overlay_eq_overlaid p c .httpsProxy).trans (layeredProxy_of_filled there _)
    · rw [value_overlay_eq_overlaid, overlaid_of_hasNoOption noOption]

/-- Options for both proxies and for a setting of the request policy. -/
def sampleProbe : Probe :=
  (World.sample [(allProxy, "http://other"), (requestTimeout, "5"), (oauthToken, "t")] []).probe

/-- The proxy that is there stays, the other one and the setting are those of the options, and a second
time changes nothing. -/
theorem apply_again_sample : ∃ c d : Config, (filled c.httpProxy).isSome = true ∧
    (apply sampleProbe c).result = .ok d ∧ d.httpProxy = some "http://mine" ∧
    d.httpsProxy = some "http://other" ∧ d.request.value .requestTimeout = 5 ∧
    (apply sampleProbe d).result = .ok d := by
  let c : Config := Config.default.set .httpProxy (some "http://mine")
  obtain ⟨d, hd, hv⟩ := except_ok_of_map (show (apply sampleProbe c).result.toOption.map
    (fun d => (d.httpsProxy, d.request.value .requestTimeout)) = some (some "http://other", 5) by
      decide +kernel)
  obtain ⟨other, setting⟩ := Prod.mk.inj hv
  have there : (filled c.httpProxy).isSome = true := by decide +kernel
  obtain ⟨again, proxy, _⟩ := (apply_again sampleProbe c).2 d hd
  exact ⟨c, d, there, hd, proxy there, other, setting, again⟩

end Options

end ClusterAccess
