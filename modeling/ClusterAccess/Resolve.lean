import ClusterAccess.Discovery
import ClusterAccess.Kubeconfig.Parse
import ClusterAccess.Merge
import ClusterAccess.NormalForm
import ClusterAccess.Options.Overlay
import ClusterAccess.ServiceAccount

/-!
# Resolving a configuration

A configuration is made in stages. Discovery takes the kubeconfig file, or without one the service account
of the pod; then options are laid over it; then it is brought into normal form. A file is used instead
of the service account as soon as it is usable, whatever it leaves out. Explicit values of the caller come
last and are remembered.
-/
namespace ClusterAccess

/-- What a configuration is made from: options, files, the check for TLS and the home directory. -/
structure World where
  probe : Probe
  fs : FileSystem
  https : TlsCheck
  home : Discovery.Home

/-- How far a configuration has come. -/
inductive Stage where
  | empty
  | fileDiscovered
  | serviceIdentity
  | environmentOverridden
  | normalized
  | resolved
  deriving DecidableEq, Repr

def Stage.name : Stage → String
  | .empty => "empty"
  | .fileDiscovered => "file_discovered"
  | .serviceIdentity => "service_identity"
  | .environmentOverridden => "env_overridden"
  | .normalized => "normalized"
  | .resolved => "resolved"

def Stage.record (s : Stage) : Log.Record :=
  ⟨.debug, .resolution, s!"Configuration resolution state: {s.name}"⟩

/-- The stage is reached. -/
def Stage.reach (s : Stage) : Traced Unit := ⟨[s.record], .ok ()⟩

/-- What explicit values change in a configuration. A namespace among them is no default any more. -/
def Overrides.changes (o : Overrides) (c : Config) : Changes :=
  ⟨fun
    | .request =>
      match o.request? with
      | some changes => if changes.isEmpty then o.fields.value? .request else some (c.request.change changes)
      | .none => o.fields.value? .request
    | .defaultNamespace =>
      if (o.fields.value? .namespaceName).isSome then some false else o.fields.value? .defaultNamespace
    | f => o.fields.value? f⟩

/-- Explicit values over a configuration, which remembers them. -/
def Overrides.over (o : Overrides) (c : Config) : Config :=
  ((c.evolve (o.changes c)).withAutoToken (o.autoToken?.getD c.autoToken)).withExplicit o

/-- A key algorithm among the explicit values wins over the one found. -/
def Overrides.forceAlgorithm (o : Overrides) (c : Config) : Config :=
  match o.fields.value? .clientKeyAlgorithm with
  | some (some algorithm) => c.set .clientKeyAlgorithm (some algorithm)
  | _ => c

/-- The configuration with explicit values, in normal form again. -/
def Overrides.apply (o : Overrides) (https : TlsCheck) (fs : FileSystem) (probe? : Option Probe)
    (c : Config) : Traced Config :=
  if o.isEmpty then pure c
  else do
    let d ← (o.over c).normalize https fs probe?
    return o.forceAlgorithm d

namespace World

def normalize (w : World) (c : Config) (useProbe : Bool) : Traced Config := do
  let c ← c.normalize w.https w.fs (if useProbe then some w.probe else none)
  Stage.normalized.reach
  return c

/-- Options over a discovered configuration, and its normal form. -/
def finish (w : World) (c : Config) : Traced Config := do
  let c ← Options.apply w.probe c
  Stage.environmentOverridden.reach
  w.normalize c true

/-- The document in a file that was found, none if it cannot be read any more. -/
def readDocument (w : World) (path : Path) : Traced (Option Kubeconfig) := do
  match ← Discovery.load w.fs path.text with
  | none => return none
  | some text =>
    let doc ← Traced.ofExcept (Kubeconfig.parse text (some path.text))
    return some (doc.from (w.fs.absolute path))

/-- The documents of the usable kubeconfig files. -/
def documents (w : World) : Traced (List Kubeconfig) := do
  let paths ← Discovery.find w.probe w.fs w.home
  return (← paths.mapM w.readDocument).filterMap id

/-- The defaults, in normal form. -/
def empty (w : World) : Traced Config := w.normalize .default false

/-- What discovery finds, over the defaults. -/
def discover (w : World) (context : Option String) : Traced Config := do
  let docs ← w.documents
  if docs.isEmpty then
    Stage.serviceIdentity.reach
    let c ← ServiceAccount.apply w.probe w.fs .default
    ServiceAccount.applyNamespace w.probe w.fs c
  else
    Stage.fileDiscovered.reach
    Merge.documents w.fs context docs .default

/-- The configuration of the surroundings. -/
def autoConfigure (w : World) (context : Option String) : Traced Config := do
  Stage.empty.reach
  let c ← w.discover context
  let c ← w.finish c
  Stage.resolved.reach
  return c.set .autoConfigured true

/-- The configuration of one document, without options. -/
def ofDocument (w : World) (context : Option String) (doc : Kubeconfig) : Traced Config := do
  let c ← Merge.documents w.fs context [doc] .default
  Stage.fileDiscovered.reach
  let c ← w.normalize c false
  Stage.resolved.reach
  return c

/-- The configuration of one file, without options. -/
def ofFile (w : World) (path : Path) (context : Option String) : Traced Config := do
  let doc ← Traced.ofExcept (Kubeconfig.read w.fs path)
  w.ofDocument context doc

/-- The configuration of a kubeconfig text, without options. -/
def ofText (w : World) (text : String) (context : Option String) : Traced Config := do
  let doc ← Traced.ofExcept (Kubeconfig.parse text none)
  w.ofDocument context doc

/-- The configuration of a file or a text: a source with a line feed is a text. -/
def ofSource (w : World) (source : String) (context : Option String) : Traced Config :=
  if source.toList.contains '\n' then w.ofText source context else w.ofFile (Path.ofText source) context

end World

end ClusterAccess
