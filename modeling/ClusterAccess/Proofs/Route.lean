import ClusterAccess.Proofs.ChosenContext

/-!
# From documents to a configuration

Documents become a configuration on two routes. One document that is given is merged over the defaults and
brought into normal form. The documents of the surroundings are merged in the same way, but options are laid
over the result, and the algorithm of the key may be an option too.
-/
namespace ClusterAccess

/-- How documents become a configuration. -/
inductive Route where
  | given
  | surroundings
  deriving DecidableEq

namespace Route

/-- Merged documents as they are brought into normal form. -/
def overlay (p : Probe) : Route → Config → Config
  | .given => id
  | .surroundings => Options.overlay p

/-- The options that count for the normal form. -/
def probe? (p : Probe) : Route → Option Probe
  | .given => none
  | .surroundings => some p

/-- The first option that cannot be read, where options count. -/
def fault? (p : Probe) : Route → Option Error
  | .given => none
  | .surroundings => Options.fault? p

/-- A configuration of the surroundings is marked as such. -/
def mark : Route → Config → Config
  | .given => id
  | .surroundings => (·.set .autoConfigured true)

@[simp] theorem value_mark (r : Route) (c : Config) {f : Field} (h : f ≠ .autoConfigured) :
    (r.mark c).value f = c.value f := by
  cases r with
  | given => rfl
  | surroundings => exact Config.value_set_of_ne c h.symm _

end Route

namespace World

/-- Merged documents with the options over them, in normal form. -/
def settle (w : World) (r : Route) (found : Config) : Except Error Config :=
  match r.fault? w.probe with
  | some e => .error e
  | none => ((r.overlay w.probe found).normalize w.https w.fs (r.probe? w.probe)).result.map r.mark

/-- The configuration that documents become. -/
def resolveDocuments (w : World) (r : Route) (context : Option String) (docs : List Kubeconfig) :
    Except Error Config :=
  (Merge.documents w.fs context docs .default).result.bind (w.settle r)

/-- What is seen of a resolved configuration comes from the merged documents. -/
theorem map_resolveDocuments {α : Type} (w : World) (r : Route) (context : Option String)
    (docs : List Kubeconfig) (view : Config → α) : (w.resolveDocuments r context docs).map view =
      (Merge.documents w.fs context docs .default).result.bind fun found => (w.settle r found).map view := by
  unfold resolveDocuments
  cases (Merge.documents w.fs context docs .default).result <;> rfl

theorem settle_eq_ok {w : World} {r : Route} {found c : Config} : w.settle r found = .ok c ↔
    r.fault? w.probe = none ∧ ∃ d, ((r.overlay w.probe found).normalize w.https w.fs
      (r.probe? w.probe)).result = .ok d ∧ r.mark d = c := by
  unfold settle
  cases r.fault? w.probe with
  | some e => simp
  | none =>
    cases ((r.overlay w.probe found).normalize w.https w.fs (r.probe? w.probe)).result <;>
      simp [Except.map]

/-- What settling makes of merged documents: the fields stay as they are with the options over them, but for
the URL in normal form and the algorithm of the key. -/
structure Settles (w : World) (r : Route) (found c : Config) : Prop where
  value : ∀ f : Field, f.isSettled = false → f ≠ .autoConfigured →
    c.value f = (r.overlay w.probe found).value f
  masterUrl : ∃ available, (MasterUrl.hasScheme (r.overlay w.probe found).masterUrl = false →
      (w.https (r.overlay w.probe found)).result = .ok available) ∧
    c.masterUrl = MasterUrl.ensureTrailingSlash
      (MasterUrl.ensureScheme (r.overlay w.probe found).masterUrl available)
  algorithm : ∃ forced, Config.forcedAlgorithm (r.probe? w.probe) = .ok forced ∧
    c.value .clientKeyAlgorithm = forced.or (ClientKey.shown w.fs (r.overlay w.probe found).clientKeyFile
      (r.overlay w.probe found).clientKeyData)

theorem settles_of_settle {w : World} {r : Route} {found c : Config} (h : w.settle r found = .ok c) :
    w.Settles r found c := by
  obtain ⟨_, d, normal, rfl⟩ := settle_eq_ok.mp h
  obtain ⟨_, full, algorithm, hu, ha, rfl⟩ := Config.normalize_eq_ok.mp normal
  obtain ⟨available, asked, rfl⟩ := Config.exists_answer_of_normalUrl hu
  obtain ⟨forced, hf, _, rfl⟩ := Config.keyAlgorithm_eq_ok.mp ha
  refine ⟨fun f settled marked => ?_, ⟨available, asked, ?_⟩, ⟨forced, hf, ?_⟩⟩
  · rw [Route.value_mark r _ marked, Config.value_settled _ _ _ settled]
  · rw [Config.masterUrl, Route.value_mark r _ (by decide), ← Config.masterUrl, Config.masterUrl_settled]
  · rw [Route.value_mark r _ (by decide), Config.algorithm_settled]

theorem result_finish_eq_settle (w : World) (found : Config) :
    (w.finish found).result.map Route.surroundings.mark = w.settle .surroundings found := by
  unfold settle Route.fault?
  rw [result_finish]
  cases fault : Options.fault? w.probe with
  | some e =>
    rw [Options.result_apply_of_fault fault]
    rfl
  | none =>
    rw [Options.result_apply_of_wellFormed fault]
    rfl

theorem result_normalize_eq_settle (w : World) (found : Config) :
    (found.normalize w.https w.fs none).result = w.settle .given found := by
  show _ = (found.normalize w.https w.fs none).result.map id
  rw [Except.map_id]
  rfl

/-- What an entry point makes of documents: of one document from any source, or of the usable files, if
there are any. -/
inductive Resolves (w : World) (context : Option String) : Route → List Kubeconfig →
    Except Error Config → Prop where
  | given {source : DocumentSource} {k : Kubeconfig} (read : w.documentOf source = .ok k) :
      w.Resolves context .given [k] (w.ofKubeconfig context source).result
  | surroundings {docs : List Kubeconfig} (read : w.documents.result = .ok docs) (usable : docs ≠ []) :
      w.Resolves context .surroundings docs (w.autoConfigure context).result

theorem result_ofDocument_eq_resolveDocuments (w : World) (context : Option String) (k : Kubeconfig) :
    (w.ofDocument context k).result = w.resolveDocuments .given context [k] := by
  rw [result_ofDocument]
  exact except_bind_congr fun found _ => w.result_normalize_eq_settle found

theorem Resolves.eq_resolveDocuments {w : World} {context : Option String} {r : Route}
    {docs : List Kubeconfig} {made : Except Error Config} (h : w.Resolves context r docs made) :
    made = w.resolveDocuments r context docs := by
  cases h with
  | @given source k read =>
    rw [result_ofKubeconfig, read]
    exact w.result_ofDocument_eq_resolveDocuments context k
  | surroundings read usable =>
    rw [result_autoConfigure, result_discover_of_documents read usable]
    exact except_bind_congr fun found _ => w.result_finish_eq_settle found

end World

end ClusterAccess
