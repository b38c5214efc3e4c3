import ClusterAccess.Proofs.ChosenContext
import ClusterAccess.Proofs.Provenance

/-!
# What does not depend on options

The defaults, the configuration of one document and a builder that does not discover ask for no option.
Their whole run, log included, is the same in any surroundings with the same files and the same check for
TLS. Where automatic configuration is disabled, so is that of every other builder and every refresh of a
configuration that was not made automatically.
-/
namespace ClusterAccess

namespace World

/-- The same files and the same check for TLS; options and home directories may differ. -/
structure SharesFiles (w later : World) : Prop where
  fs : w.fs = later.fs
  https : w.https = later.https

/-- Automatic configuration is disabled in both. -/
structure BothDisabled (w later : World) : Prop where
  here : w.probe.autoConfigDisabled = true
  there : later.probe.autoConfigDisabled = true

namespace SharesFiles

variable {w later : World}

theorem normalize (shared : w.SharesFiles later) (c : Config) :
    w.normalize c false = later.normalize c false := by
  unfold World.normalize
  rw [shared.fs, shared.https, if_neg Bool.false_ne_true, if_neg Bool.false_ne_true]

theorem empty (shared : w.SharesFiles later) : w.empty = later.empty := shared.normalize .default

theorem ofDocument (shared : w.SharesFiles later) (context : Option String) (doc : Kubeconfig) :
    w.ofDocument context doc = later.ofDocument context doc := by
  unfold World.ofDocument
  simp only [shared.fs, shared.normalize]

theorem ofFile (shared : w.SharesFiles later) (path : Path) (context : Option String) :
    w.ofFile path context = later.ofFile path context := by
  unfold World.ofFile
  simp only [shared.fs, shared.ofDocument]

theorem ofText (shared : w.SharesFiles later) (text : String) (context : Option String) :
    w.ofText text context = later.ofText text context := by
  unfold World.ofText
  simp only [shared.ofDocument]

theorem ofKubeconfig (shared : w.SharesFiles later) (context : Option String) (source : DocumentSource) :
    w.ofKubeconfig context source = later.ofKubeconfig context source := by
  cases source with
  | path path => exact shared.ofFile path context
  | spelled source =>
    unfold World.ofKubeconfig ofSource
    simp only [shared.ofFile, shared.ofText]

/-! ## Builders -/

/-- Explicit values over the same configuration, as long as no option counts for it. -/
theorem build_of_base (shared : w.SharesFiles later) {b : Builder} {x : Traced Config}
    (here : b.base w = x >>= fun c => pure (c, none))
    (there : b.base later = x >>= fun c => pure (c, none)) : b.build w = b.build later := by
  unfold Builder.build
  rw [here, there, shared.fs, shared.https]

theorem build_of_manual (shared : w.SharesFiles later) {b : Builder} (manual : b.auto = false) :
    b.build w = b.build later := by
  have base : ∀ world : World, b.base world = world.empty >>= fun c => pure (c, none) := by
    intro world
    unfold Builder.base
    rw [manual]
    rfl
  refine shared.build_of_base (base w) ?_
  rw [shared.empty]
  exact base later

theorem build (shared : w.SharesFiles later) (disabled : w.BothDisabled later) (b : Builder) :
    b.build w = b.build later := by
  cases auto : b.auto with
  | false => exact shared.build_of_manual auto
  | true =>
    have base : ∀ world : World, world.probe.autoConfigDisabled = true → b.base world =
        (Traced.debug .builder "Auto-configuration disabled, building from defaults" >>= fun _ =>
          world.empty) >>= fun c => pure (c, none) := by
      intro world off
      unfold Builder.base
      rw [auto, off, bind_assoc]
      rfl
    refine shared.build_of_base (base w disabled.here) ?_
    rw [shared.empty]
    exact base later disabled.there

/-! ## Refreshing -/

theorem renew (shared : w.SharesFiles later) (c : Config) (failure : String) (make : Traced Config)
    (probe? : Option Probe) (finish : Config → Traced Config) :
    w.renew c failure make probe? finish = later.renew c failure make probe? finish := by
  unfold World.renew
  rw [shared.fs, shared.https]

theorem refreshFile (shared : w.SharesFiles later) (disabled : w.BothDisabled later) (c : Config)
    (source : Path) : w.refreshFile c source = later.refreshFile c source := by
  have normal : (w.normalize · false) = (later.normalize · false) := funext shared.normalize
  unfold World.refreshFile
  simp only [disabled.here, disabled.there, if_true, normal, shared.fs, shared.renew]

theorem refresh (shared : w.SharesFiles later) (disabled : w.BothDisabled later) {c : Config}
    (manual : c.autoConfigured = false) : w.refresh c = later.refresh c := by
  unfold World.refresh
  simp only [manual, shared.refreshFile disabled, Bool.false_eq_true, if_false]

/-- Options are asked for by what discovers only: the defaults, the configuration of one document and a
builder that was told not to discover run alike with any two sets of options. Where both disable
automatic configuration, all builders do, and all refreshes of what was not made automatically. -/
theorem hermetic (shared : w.SharesFiles later) :
    w.empty = later.empty ∧
    (∀ (context : Option String) (source : DocumentSource),
      w.ofKubeconfig context source = later.ofKubeconfig context source) ∧
    (∀ b : Builder, b.auto = false → b.build w = b.build later) ∧
    (w.BothDisabled later → (∀ b : Builder, b.build w = b.build later) ∧
      ∀ c : Config, c.autoConfigured = false → w.refresh c = later.refresh c) :=
  ⟨shared.empty, shared.ofKubeconfig, fun _ => shared.build_of_manual, fun disabled =>
    ⟨shared.build disabled, fun _ => shared.refresh disabled⟩⟩

/-- Options name another cluster and another namespace, and disable automatic configuration. -/
def distracting : World :=
  .sample [(Options.disableAutoConfig, "true"), (Options.masterUrl, "theirs"),
    (Options.namespaceName, "theirs")] []

/-- A text keeps its cluster, the sample its namespace and the default URL. -/
theorem hermetic_sample :
    (∃ c, (distracting.ofKubeconfig none (.spelled relativeText)).result = .ok c ∧
      c.masterUrl = "https://h/") ∧
    ∃ c, (Builder.sample.build distracting).result = .ok c ∧
      c.masterUrl = "https://kubernetes.default.svc/" ∧ c.value .namespaceName = some "mine" := by
  have shared : distracting.SharesFiles (.sample [(Options.disableAutoConfig, "true")] []) := ⟨rfl, rfl⟩
  have disabled : distracting.BothDisabled (.sample [(Options.disableAutoConfig, "true")] []) :=
    ⟨by decide +kernel, by decide +kernel⟩
  obtain ⟨_, documents, _, off⟩ := shared.hermetic
  constructor
  · rw [documents]
    exact except_ok_of_map (show ((World.sample [(Options.disableAutoConfig, "true")] []).ofKubeconfig none
      (.spelled relativeText)).result.toOption.map Config.masterUrl = some "https://h/" by decide +kernel)
  · rw [(off disabled).1]
    obtain ⟨c, hc, hv⟩ := except_ok_of_map (show (Builder.sample.build
      (.sample [(Options.disableAutoConfig, "true")] [])).result.toOption.map
        (fun c => (c.masterUrl, c.value .namespaceName)) =
          some ("https://kubernetes.default.svc/", some "mine") by decide +kernel)
    obtain ⟨hu, hn⟩ := Prod.mk.inj hv
    exact ⟨c, hc, hu, hn⟩

end SharesFiles

end World

end ClusterAccess
