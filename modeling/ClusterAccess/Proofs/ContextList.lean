import ClusterAccess.Proofs.ChosenContext
import ClusterAccess.Proofs.InferredScheme

/-!
# The contexts of a configuration

Merging lists the contexts of the documents, each name once, and makes one of them the current one. It
alone writes the list: options, the normal form and explicit values leave it as it is. A configuration
without documents has an empty list.
-/
namespace ClusterAccess

/-- What a configuration says of contexts: the list, the current one, and where it is from. -/
def Field.isOfContexts : Field → Bool
  | .contexts | .currentContext | .source => true
  | _ => false

namespace Field

variable {f : Field}

theorem isSettled_of_isOfContexts (h : f.isOfContexts = true) : f.isSettled = false := by
  cases f <;> first | rfl | cases h

theorem isSettable_of_isOfContexts (h : f.isOfContexts = true) : f.isSettable = false := by
  cases f <;> first | rfl | cases h

theorem isPart_of_isOfContexts (h : f.isOfContexts = true) : f.isPart = true := by
  cases f <;> first | rfl | cases h

end Field

/-- Both say the same of contexts. -/
def Config.SameContexts (c d : Config) : Prop := ∀ f : Field, f.isOfContexts = true → d.value f = c.value f

/-- The contexts that a configuration lists: of different names, the current one among them, none without a
kubeconfig, and each of them as `origin` says. -/
structure Config.Lists (origin : Named Context → Prop) (c : Config) : Prop where
  distinct : (c.contexts.map (·.name)).Nodup
  current : ∀ n, c.currentContext = some n → n ∈ c.contexts
  ofKubeconfig : c.source ≠ .kubeconfig → c.contexts = [] ∧ c.currentContext = none
  origins : ∀ n ∈ c.contexts, origin n

/-! ## Steps that leave the contexts alone -/

namespace Config.SameContexts

variable {c d e : Config}

theorem trans (hcd : c.SameContexts d) (hde : d.SameContexts e) : c.SameContexts e :=
  fun f hf => (hde f hf).trans (hcd f hf)

theorem overlay (p : Probe) (c : Config) : c.SameContexts (Options.overlay p c) := by
  intro f hf
  have hc : (Options.changes p c).value? f = none := by
    cases f <;> first | rfl | cases hf
  rw [Options.value_overlay, hc, Option.getD_none]

theorem normalize {https : TlsCheck} {fs : FileSystem} {probe? : Option Probe}
    (h : (c.normalize https fs probe?).result = .ok d) : c.SameContexts d := by
  obtain ⟨_, url, algorithm, _, _, rfl⟩ := normalize_eq_ok.mp h
  exact fun f hf => value_settled c url algorithm (Field.isSettled_of_isOfContexts hf)

theorem finish {w : World} (h : (w.finish c).result = .ok d) : c.SameContexts d :=
  (overlay w.probe c).trans (normalize (World.finish_eq_ok.mp h).2)

theorem setAutoConfigured (c : Config) : c.SameContexts (c.set .autoConfigured true) := by
  intro f hf
  have hne : Field.autoConfigured ≠ f := by
    rintro rfl
    cases hf
  exact value_set_of_ne c hne _

theorem apply {o : Overrides} (settable : o.fields.AreSettable) {https : TlsCheck} {fs : FileSystem}
    {probe? : Option Probe} (h : (o.apply https fs probe? c).result = .ok d) : c.SameContexts d := by
  intro f hf
  have leaves : o.Leaves f := Overrides.leaves_of_value?_eq_none (Field.isPart_of_isOfContexts hf)
    (settable f (Field.isSettable_of_isOfContexts hf))
  exact leaves.value_of_apply (Field.isSettled_of_isOfContexts hf) h

end Config.SameContexts

/-! ## Merging -/

/-- The kubeconfig is where a merged configuration is from. -/
theorem Selection.source_of_onto {fs : FileSystem} {s : Selection} {target c : Config}
    (h : s.onto fs target = .ok c) : c.source = .kubeconfig := by
  unfold onto at h
  dsimp only at h
  split at h
  · cases h
    rfl
  · cases h
  · next context _ _ =>
    exact (carry_differsOnly h).value .source rfl

/-- Merged documents have the contexts of the documents, in the order in which their names first appear. -/
theorem Merge.contexts_of_documents {fs : FileSystem} {wanted : Option String} {docs : List Kubeconfig}
    {target c : Config} (h : (documents fs wanted docs target).result = .ok c) : c.contexts = contexts docs := by
  rw [result_documents] at h
  exact (Selection.contexts_of_onto h).1.trans (contexts_eq_lastOfEach docs).symm

namespace Config.Lists

variable {origin more : Named Context → Prop} {c d : Config}

theorem same (h : c.Lists origin) (same : c.SameContexts d) : d.Lists origin := by
  have contexts : d.contexts = c.contexts := same .contexts rfl
  have current : d.currentContext = c.currentContext := same .currentContext rfl
  have source : d.source = c.source := same .source rfl
  constructor
  · rw [contexts]
    exact h.distinct
  · rw [contexts, current]
    exact h.current
  · rw [contexts, current, source]
    exact h.ofKubeconfig
  · rw [contexts]
    exact h.origins

theorem mono (h : c.Lists origin) (weaker : ∀ n, origin n → more n) : c.Lists more :=
  ⟨h.distinct, h.current, h.ofKubeconfig, fun n hn => weaker n (h.origins n hn)⟩

theorem of_none (contexts : c.contexts = []) (current : c.currentContext = none) : c.Lists origin where
  distinct := by
    rw [contexts]
    exact List.nodup_nil
  current n hn := by
    rw [current] at hn
    cases hn
  ofKubeconfig _ := ⟨contexts, current⟩
  origins n hn := by
    rw [contexts] at hn
    cases hn

/-- Merged documents, each of whose contexts is as `origin` says. -/
theorem documents {fs : FileSystem} {wanted : Option String} {docs : List Kubeconfig}
    (h : (Merge.documents fs wanted docs .default).result = .ok c)
    (origins : ∀ doc ∈ docs, ∀ n ∈ doc.contexts, origin n) : c.Lists origin := by
  have hcontext := (Merge.documents_eq_ok h).2
  have contexts := Merge.contexts_of_documents h
  rw [Merge.result_documents] at h
  constructor
  · rw [contexts]
    exact Merge.nodup_names_lastNamed _
  · intro n hn
    rw [contexts]
    rcases hcontext with hnone | ⟨context, hm, hc⟩
    · rw [hnone] at hn
      cases hn
    · rw [hc] at hn
      cases hn
      exact hm
  · exact fun hs => absurd (Selection.source_of_onto h) hs
  · intro n hn
    rw [contexts] at hn
    obtain ⟨doc, hd, hn⟩ := Merge.mem_contexts hn
    exact origins doc hd n hn

end Config.Lists

/-! ## Ways to make a configuration -/

namespace World

variable {w : World} {context : Option String} {c : Config}

/-- The context stands in the document that the file at `path` holds now, and it carries `place`. -/
def ReadsContext (w : World) (path place : Path) (n : Named Context) : Prop :=
  ∃ text k, w.fs.readText path.text = .ok text ∧ Kubeconfig.parse text (some path.text) = .ok k ∧
    n ∈ (k.from place).contexts

theorem ReadsContext.source {path place : Path} {n : Named Context} (h : w.ReadsContext path place n) :
    n.source = some place := by
  obtain ⟨_, k, _, _, hn⟩ := h
  obtain ⟨n, _, rfl⟩ := List.mem_map.mp hn
  rfl

/-- A file that is read in one of the usual ways leaves its absolute path. -/
theorem readsContext_of_read {path : Path} {doc : Kubeconfig} (h : Kubeconfig.read w.fs path = .ok doc)
    {n : Named Context} (hn : n ∈ doc.contexts) : w.ReadsContext path (w.fs.absolute path) n := by
  obtain ⟨text, k, reads, parsed, rfl⟩ := Kubeconfig.read_eq_ok h
  exact ⟨text, k, reads, parsed, hn⟩

theorem lists_of_discover (h : (w.discover context).result = .ok c) :
    c.Lists fun n => ∃ path, w.ReadsContext path (w.fs.absolute path) n := by
  obtain ⟨docs, hdocs, _⟩ := Traced.bind_eq_ok.mp h
  by_cases hne : docs = []
  · rw [hne] at hdocs
    have hw := discover_of_no_documents hdocs h
    exact .of_none (hw.value .contexts rfl) (hw.value .currentContext rfl)
  · rw [result_discover_of_documents hdocs hne] at h
    refine .documents h fun doc hd n hn => ?_
    obtain ⟨name, _, hread⟩ := documents_eq_ok hdocs hd
    exact ⟨Path.ofText name, readsContext_of_read hread hn⟩

theorem lists_of_autoConfigure (h : (w.autoConfigure context).result = .ok c) :
    c.Lists fun n => ∃ path, w.ReadsContext path (w.fs.absolute path) n := by
  obtain ⟨found, finished, hd, hf, rfl⟩ := autoConfigure_eq_ok.mp h
  exact ((lists_of_discover hd).same (.finish hf)).same (.setAutoConfigured finished)

theorem lists_of_ofDocument {doc : Kubeconfig} (h : (w.ofDocument context doc).result = .ok c) :
    c.Lists (· ∈ doc.contexts) := by
  obtain ⟨merged, hm, hn⟩ := ofDocument_eq_ok.mp h
  refine Config.Lists.same (.documents hm fun doc' hd n hn => ?_) (.normalize hn)
  rw [List.mem_singleton.mp hd] at hn
  exact hn

theorem lists_of_empty {origin : Named Context → Prop} (h : w.empty.result = .ok c) : c.Lists origin := by
  rw [empty, result_normalize] at h
  exact Config.Lists.same (.of_none (c := .default) rfl rfl) (.normalize h)

/-- A refresh from a file reads the contexts in it, and leaves them the path that the configuration had. -/
theorem lists_of_refreshed_file {d : Config} (settable : c.explicit.fields.AreSettable)
    (manual : c.autoConfigured = false) (h : w.Refreshes c (.replaced d)) :
    ∃ path, c.file = some path ∧ d.Lists (w.ReadsContext path path) := by
  cases h with
  | auto auto _ _ =>
    rw [manual] at auto
    cases auto
  | @file path text k merged base _ _ _ hf reads parsed merges finished applied =>
    have same : merged.SameContexts base := by
      rcases finished with hn | hn
      · rw [result_normalize] at hn
        exact .normalize hn
      · exact .finish hn
    refine ⟨path, hf, Config.Lists.same (.documents merges fun doc hd n hn => ?_)
      (same.trans (.apply settable applied))⟩
    rw [List.mem_singleton.mp hd] at hn
    exact ⟨text, k, reads, parsed, hn⟩

end World

end ClusterAccess
