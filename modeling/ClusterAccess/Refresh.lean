import ClusterAccess.Resolve

/-!
# Refreshing a configuration

A configuration is made anew from where it came from. It stays as it is when the caller gave the token,
when its source cannot be read any more or has lost its context, and when it has no source. Explicit
values are set again on what is made anew.
-/
namespace ClusterAccess

/-- Whether a refresh gives the configuration itself or another one. -/
inductive Refreshed where
  | unchanged
  | replaced (c : Config)

def Refreshed.over (c : Config) : Refreshed → Config
  | .unchanged => c
  | .replaced d => d

namespace World

/-- A configuration made anew, with the explicit values of the old one. A context that is gone leaves the
old one as it is; the message starts with `failure`. -/
def renew (w : World) (c : Config) (failure : String) (make : Traced Config) (probe? : Option Probe)
    (finish : Config → Traced Config) : Traced Refreshed := do
  match ← make.outcome with
  | .ok d =>
    let d ← finish d
    return .replaced (← c.explicit.apply w.https w.fs probe? d)
  | .error (.unknownContext name available) =>
    .warn .resolution s!"{failure}: {(Error.unknownContext name available).message}"
    return .unchanged
  | .error e => .fail e

/-- A configuration that was made from the surroundings. -/
def refreshAuto (w : World) (c : Config) : Traced Refreshed :=
  w.renew c "Could not refresh configuration" (w.autoConfigure c.currentContextName) (some w.probe) pure

/-- A configuration that was made from a file. -/
def refreshFile (w : World) (c : Config) (source : Path) : Traced Refreshed := do
  match ← Discovery.load w.fs source.text with
  | none => return .unchanged
  | some text =>
    let doc ← Traced.ofExcept (Kubeconfig.parse text (some source.text))
    let make := Merge.documents w.fs c.currentContextName [doc.from source] .default
    let failure := s!"Could not refresh configuration from {source.text}"
    if w.probe.autoConfigDisabled then w.renew c failure make none (w.normalize · false)
    else w.renew c failure make (some w.probe) w.finish

def refresh (w : World) (c : Config) : Traced Refreshed :=
  if (filled c.oauthToken).isSome then do
    .debug .resolution "Explicit OAuth token set, skipping refresh"
    return .unchanged
  else if c.autoConfigured then w.refreshAuto c
  else match c.file with
    | some source => w.refreshFile c source
    | none => do
      .debug .resolution "Configuration has no source to refresh from"
      return .unchanged

end World

end ClusterAccess
