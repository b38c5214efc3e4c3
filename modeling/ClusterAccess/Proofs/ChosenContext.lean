import ClusterAccess.Proofs.LostSource
import ClusterAccess.Proofs.Unselected

/-!
# What becomes of a context that was asked for

Where there are documents, a context that is asked for by its name is the current one of the result, or
there is no result. Where discovery finds no document the name is passed over: the service account gives
the same configuration as if none had been asked for.
-/
namespace ClusterAccess

/-- The context of the name is the current one, as one of the documents defines it. If none does, the
answer is the error with the names that are there. -/
structure HonoursContext (name : String) (docs : List Kubeconfig) (x : Except Error Config) : Prop where
  honoured : ∀ c, x = .ok c → c.currentContextName = some name ∧
    ∃ n ∈ docs.flatMap (·.contexts), c.currentContext = some n
  refused : (∀ n ∈ docs.flatMap (·.contexts), n.name ≠ name) →
    x = .error (.unknownContext name ((docs.flatMap (·.contexts)).map (·.name)).eraseDups)

namespace HonoursContext

variable {name : String} {docs : List Kubeconfig}

/-- Later steps that leave the current context alone do not matter. -/
theorem bind {x : Except Error Config} (h : HonoursContext name docs x) {f : Config → Except Error Config}
    (keeps : ∀ c d, f c = .ok d → d.currentContext = c.currentContext) :
    HonoursContext name docs (x.bind f) := by
  refine ⟨fun d hd => ?_, fun undefined => ?_⟩
  · obtain ⟨c, hc, hf⟩ := except_bind_eq_ok.mp hd
    rw [Config.currentContextName, keeps c d hf]
    exact h.honoured c hc
  · rw [h.refused undefined]
    rfl

theorem documents (chosen : name ≠ "") (fs : FileSystem) (docs : List Kubeconfig) (target : Config) :
    HonoursContext name docs (Merge.documents fs (some name) docs target).result := by
  rw [Merge.result_documents]
  refine ⟨fun c hc => ?_, fun undefined => ?_⟩
  · have chosenContext := (Selection.contexts_of_onto hc).2
    rw [Kubeconfig.selection_name, Kubeconfig.chosenName_of_ne chosen, Kubeconfig.selection_context,
      Kubeconfig.chosenContext?_of_ne chosen] at chosenContext
    rcases chosenContext with hn | ⟨n, hn, hc⟩
    · cases hn
    · rw [Config.currentContextName, hc]
      exact ⟨congrArg some (Merge.name_of_lastOf? hn), n, Merge.mem_of_lastOf? hn, rfl⟩
  · have absent : Merge.lastOf? name (Kubeconfig.concat docs).contexts = none :=
      Merge.lastOf?_eq_none_iff.mpr undefined
    rw [Selection.onto, Kubeconfig.selection_name, Kubeconfig.chosenName_of_ne chosen,
      Kubeconfig.selection_context, Kubeconfig.chosenContext?_of_ne chosen, absent,
      Kubeconfig.selection_contexts, ← Merge.lastNamed_eq_lastOfEach, Merge.names_lastNamed]
    rfl

end HonoursContext

/-! ## One document -/

/-- What a document is read from: a text or the name of a file, or a path. -/
inductive DocumentSource where
  | spelled (source : String)
  | path (path : Path)

namespace World

def documentOf (w : World) : DocumentSource → Except Error Kubeconfig
  | .spelled source =>
    if source.toList.contains '\n' then Kubeconfig.parse source none
    else Kubeconfig.read w.fs (Path.ofText source)
  | .path path => Kubeconfig.read w.fs path

def ofKubeconfig (w : World) (context : Option String) : DocumentSource → Traced Config
  | .spelled source => w.ofSource source context
  | .path path => w.ofFile path context

theorem result_ofKubeconfig (w : World) (context : Option String) (source : DocumentSource) :
    (w.ofKubeconfig context source).result =
      (w.documentOf source).bind fun k => (w.ofDocument context k).result := by
  cases source with
  | path path => exact w.result_ofFile path context
  | spelled source =>
    unfold ofKubeconfig ofSource documentOf
    dsimp only
    split
    · exact Traced.result_bind _ _
    · exact w.result_ofFile _ context

theorem honoursContext_ofDocument {name : String} (chosen : name ≠ "") (w : World) (k : Kubeconfig) :
    HonoursContext name [k] (w.ofDocument (some name) k).result := by
  rw [result_ofDocument]
  refine (HonoursContext.documents chosen w.fs [k] .default).bind fun c d hd => ?_
  obtain ⟨_, url, algorithm, _, _, rfl⟩ := Config.normalize_eq_ok.mp hd
  exact Config.value_settled c url algorithm rfl

/-! ## The surroundings -/

theorem result_discover_of_documents {w : World} {docs : List Kubeconfig}
    (h : w.documents.result = .ok docs) (found : docs ≠ []) (context : Option String) :
    (w.discover context).result = (Merge.documents w.fs context docs .default).result := by
  unfold discover
  rw [Traced.result_bind_of_ok h, if_neg (by simpa using found), Stage.result_reach_bind]

theorem honoursContext_autoConfigure {name : String} (chosen : name ≠ "") {w : World}
    {docs : List Kubeconfig} (h : w.documents.result = .ok docs) (found : docs ≠ []) :
    HonoursContext name docs (w.autoConfigure (some name)).result := by
  rw [result_autoConfigure, result_discover_of_documents h found]
  refine (HonoursContext.documents chosen w.fs docs .default).bind fun c d hd => ?_
  cases hf : (w.finish c).result with
  | error e =>
    rw [hf] at hd
    cases hd
  | ok e =>
    rw [hf] at hd
    cases hd
    show e.value .currentContext = _
    rw [value_of_finish hf rfl, Options.value_overlay]
    rfl

/-- Without documents nothing depends on the context. -/
theorem result_autoConfigure_of_no_documents {w : World} (h : w.documents.result = .ok [])
    (context : Option String) : (w.autoConfigure context).result = (w.autoConfigure none).result := by
  have hd : (w.discover context).result = (w.discover none).result := by
    unfold discover
    rw [Traced.result_bind_of_ok h, Traced.result_bind_of_ok h]
    rfl
  rw [result_autoConfigure, result_autoConfigure, hd]

/-- A context that is asked for is honoured or refused, whatever one document is read from. In the
surroundings it is so if discovery gives documents. If it gives none, the configuration is the one that
is made when no context is asked for, and it has none. -/
theorem chosen_context {name : String} (chosen : name ≠ "") (w : World) :
    (∀ source : DocumentSource,
      (∃ e, w.documentOf source = .error e ∧ (w.ofKubeconfig (some name) source).result = .error e) ∨
      ∃ k, w.documentOf source = .ok k ∧
        HonoursContext name [k] (w.ofKubeconfig (some name) source).result) ∧
    ((∃ e, w.documents.result = .error e ∧ (w.autoConfigure (some name)).result = .error e) ∨
      ∃ docs, w.documents.result = .ok docs ∧
        (docs ≠ [] → HonoursContext name docs (w.autoConfigure (some name)).result) ∧
        (docs = [] → (w.autoConfigure (some name)).result = (w.autoConfigure none).result ∧
          ∀ c, (w.autoConfigure (some name)).result = .ok c → c.currentContextName = none)) := by
  constructor
  · intro source
    rw [result_ofKubeconfig]
    cases hs : w.documentOf source with
    | error e => exact .inl ⟨e, rfl, rfl⟩
    | ok k => exact .inr ⟨k, rfl, honoursContext_ofDocument chosen w k⟩
  · cases hd : w.documents.result with
    | error e =>
      refine .inl ⟨e, rfl, ?_⟩
      rw [result_autoConfigure, discover, Traced.result_bind, hd]
      rfl
    | ok docs =>
      refine .inr ⟨docs, rfl, honoursContext_autoConfigure chosen hd, ?_⟩
      rintro rfl
      refine ⟨result_autoConfigure_of_no_documents hd _, fun c hc => ?_⟩
      obtain ⟨found, hf, hconf⟩ := configures_of_autoConfigure hc
      have hw := discover_of_no_documents hd hf
      have hnone : c.currentContext = none := hconf.currentContext.trans (hw.value .currentContext rfl)
      rw [Config.currentContextName, hnone]
      rfl

/-- In a kubeconfig with the context `a`, that one is taken and another name is refused. -/
theorem chosen_context_sample :
    (∃ c, ((sample [] sampleFiles).autoConfigure (some "a")).result = .ok c ∧
      c.currentContextName = some "a") ∧
    ((sample [] sampleFiles).autoConfigure (some "b")).result = .error (.unknownContext "b" ["a"]) := by
  obtain ⟨docs, hdocs, hnames⟩ := except_ok_of_map (show (sample [] sampleFiles).documents.result.toOption.map
    (fun docs => (docs.flatMap (·.contexts)).map (·.name)) = some ["a"] by decide +kernel)
  have found : docs ≠ [] := by
    rintro rfl
    cases hnames
  have honours : ∀ name, name ≠ "" →
      HonoursContext name docs ((sample [] sampleFiles).autoConfigure (some name)).result := by
    intro name chosen
    rcases (chosen_context chosen (sample [] sampleFiles)).2 with ⟨e, he, _⟩ | ⟨docs', hd, hh, _⟩
    · rw [hdocs] at he
      cases he
    · rw [hdocs] at hd
      cases hd
      exact hh found
  constructor
  · obtain ⟨c, hc, _⟩ := except_ok_of_map (show ((sample [] sampleFiles).autoConfigure
      (some "a")).result.toOption.map (fun _ => ()) = some () by decide +kernel)
    exact ⟨c, hc, ((honours "a" (by decide)).honoured c hc).1⟩
  · rw [(honours "b" (by decide)).refused fun n hn => ?_, hnames]
    · rfl
    · have hm : n.name ∈ (docs.flatMap (·.contexts)).map (·.name) := List.mem_map.mpr ⟨n, hn, rfl⟩
      rw [hnames] at hm
      rw [List.mem_singleton.mp hm]
      decide

/-- In a pod without a kubeconfig a context is asked for, and the service account answers. -/
theorem chosen_context_is_dropped : ∃ c,
    ((sample [(Options.serviceHost, "10.0.0.1"), (Options.servicePort, "443")] []).autoConfigure
      (some "prod")).result = .ok c ∧
      c.currentContextName = none ∧ c.masterUrl = "https://10.0.0.1:443/" := by
  obtain ⟨c, hc, hv⟩ := except_ok_of_map (show ((sample [(Options.serviceHost, "10.0.0.1"),
    (Options.servicePort, "443")] []).autoConfigure (some "prod")).result.toOption.map
      (fun c => (c.currentContextName, c.masterUrl)) = some (none, "https://10.0.0.1:443/") by decide +kernel)
  obtain ⟨hn, hm⟩ := Prod.mk.inj hv
  exact ⟨c, hc, hn, hm⟩

end World

end ClusterAccess
