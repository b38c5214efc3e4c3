import ClusterAccess.Proofs.MissingContext
import ClusterAccess.Proofs.ShutOut
import Mathlib.Data.List.TakeWhile

/-!
# A file that is named in the surroundings

A kubeconfig can be named by an option or handed over by the caller. If the option is the only one that is
present, both ways come to the same: where the file is looked for, whether it is usable, what is laid over
it and which algorithm is asked for makes no difference, for any document and any failure.
-/
namespace ClusterAccess

theorem Text.before_eq_self {sep : Char} {s : String} (h : sep ∉ s.toList) : before sep s = s := by
  have whole : s.toList.takeWhile (· != sep) = s.toList := by
    rw [List.takeWhile_eq_self_iff]
    intro c hc
    rw [bne_iff_ne]
    rintro rfl
    exact h hc
  rw [before, whole, String.ofList_toList]

/-! ## Why there is no configuration -/

/-- A selection fails for the context, or for what stands in the way of the user's key or token. -/
theorem Selection.onto_eq_error {fs : FileSystem} {s : Selection} {target : Config} {e : Error}
    (h : s.onto fs target = .error e) :
    e.isUnknownContext = true ∨ ∃ obstacle, s.obstacle? fs = some obstacle ∧ e = obstacle.error := by
  unfold onto at h
  dsimp only at h
  split at h
  · cases h
  · cases h
    exact .inl rfl
  · rw [carry_eq] at h
    exact .inr (guarded_eq_error.mp h)

namespace World

/-- Why a file with a text gives no configuration: the text is no kubeconfig, it lacks the context or a URL,
the check for TLS fails, or something stands in the way of the selected user's key or token: a path that no
file can have, or an integer too long to be written. -/
inductive FileFails (w : World) (path : Path) (text : String) (context : Option String) : Error → Prop
  | parsing {e : Error} (fails : Kubeconfig.parse text (some path.text) = .error e) :
      FileFails w path text context e
  | unknownContext (name : String) (available : List String) :
      FileFails w path text context (.unknownContext name available)
  | noMasterUrl : FileFails w path text context .noMasterUrl
  | check {c : Config} {e : Error} (fails : (w.https c).result = .error e) :
      FileFails w path text context e
  | userEntry {k : Kubeconfig} {obstacle : Obstacle} (parsed : Kubeconfig.parse text (some path.text) = .ok k)
      (blocked : ((k.from (w.fs.absolute path)).selection context).obstacle? w.fs = some obstacle) :
      FileFails w path text context obstacle.error

theorem ofFile_eq_error {w : World} {path : Path} {text : String}
    (reads : w.fs.readText path.text = .ok text) {context : Option String} {e : Error}
    (h : (w.ofFile path context).result = .error e) : w.FileFails path text context e := by
  rw [result_ofFile, Kubeconfig.read_of_text reads] at h
  cases hk : Kubeconfig.parse text (some path.text) with
  | error parsing =>
    rw [hk] at h
    cases h
    exact .parsing hk
  | ok k =>
    rw [hk] at h
    have h : (w.ofDocument context (k.from (w.fs.absolute path))).result = .error e := h
    rw [result_ofDocument, Merge.result_documents, Kubeconfig.selection_concat_singleton] at h
    cases hm : ((k.from (w.fs.absolute path)).selection context).onto w.fs .default with
    | error missing =>
      rw [hm] at h
      cases h
      rcases Selection.onto_eq_error hm with unknown | ⟨obstacle, blocked, rfl⟩
      · cases e with
        | unknownContext name available => exact .unknownContext name available
        | _ => cases unknown
      · exact .userEntry hk blocked
    | ok merged =>
      rw [hm] at h
      cases Config.normalize_eq_error.mp h with
      | noMasterUrl => exact .noMasterUrl
      | check _ _ fails => exact .check fails
      | keyAlgorithm _ _ invalid => cases invalid
      | keyFile _ _ _ blocked =>
        rw [Selection.keyObstacle?_of_onto hm] at blocked
        cases blocked

/-! ## The option and the file -/

/-- Of all options one is present. It names a file with a text that is not blank, in normal form and
without a colon. The home directory, which then does not count, can be told. -/
structure NamesOnly (w : World) (name text : String) : Prop where
  named : w.probe.get? Options.kubeconfigFile = some name
  alone : ∀ option ∈ Options.names, option ≠ Options.kubeconfigFile → w.probe.get? option = none
  normal : (Path.ofText name).text = name
  single : ':' ∉ name.toList
  housed : ∃ home, w.home.path w.probe w.fs = .ok home
  isFile : w.fs.isFile name = true
  reads : w.fs.readText name = .ok text
  notBlank : Text.isBlankText text = false

namespace NamesOnly

variable {w : World} {name text : String}

/-- Discovery takes the file that is named. -/
theorem offers (h : w.NamesOnly name text) :
    w.Offers name text (w.fs.absolute (Path.ofText name)) where
  enabled := by
    rw [Probe.getTruth, h.alone Options.tryKubeconfig (by decide +kernel) (by decide)]
    rfl
  candidate := by
    obtain ⟨home, housed⟩ := h.housed
    have tried : Discovery.nameTried w.probe home = name := by
      rw [Discovery.nameTried, Probe.getD, h.named, Option.getD_some, Text.before_eq_self h.single]
    rw [Discovery.candidates, Discovery.names, housed]
    dsimp only [Except.map]
    rw [tried, if_neg (Probe.get?_ne_empty h.named)]
    rfl
  isFile := h.isFile
  reads := by
    rw [h.normal]
    intro spelling hs
    simp only [List.mem_cons, List.not_mem_nil, or_false, or_self] at hs
    rw [hs]
    exact h.reads
  notBlank := h.notBlank
  place := rfl

/-- No option is laid over what is found. -/
theorem absent (h : w.NamesOnly name text) : w.probe.SameOn Options.ofOverlay .silent := by
  intro option ho
  refine h.alone option (Options.ofOverlay_sublist_names.subset ho) ?_
  rintro rfl
  exact absurd ho (by decide +kernel)

/-- The configuration of the surroundings is the one of the file, but that it was made automatically.
Neither is there if the text is no kubeconfig, if it lacks the context or a URL, if the check for TLS fails,
or if no file can have the path of the selected user's key or token or the token cannot be written; the error
is the same. -/
theorem autoConfigure_eq_ofFile (h : w.NamesOnly name text) (context : Option String) :
    (w.autoConfigure context).result =
      (w.ofFile (Path.ofText name) context).result.map (·.set .autoConfigured true) ∧
    ∀ e, (w.ofFile (Path.ofText name) context).result = .error e →
      w.FileFails (Path.ofText name) text context e := by
  have reads : w.fs.readText (Path.ofText name).text = .ok text := by
    rw [h.normal]
    exact h.reads
  constructor
  · have made : ∀ doc : Kubeconfig, ((Merge.documents w.fs context [doc] .default).result.bind fun c =>
        (w.finish c).result.map fun d => d.set .autoConfigured true) =
          (w.ofDocument context doc).result.map (·.set .autoConfigured true) := by
      intro doc
      simp only [result_ofDocument, result_finish_of_silent h.absent]
      cases (Merge.documents w.fs context [doc] .default).result <;> rfl
    rw [result_autoConfigure, h.offers.result_discover, result_ofFile, Kubeconfig.read_of_text reads]
    cases Kubeconfig.parse text (some (Path.ofText name).text) with
    | error e => rfl
    | ok k => exact made _
  · exact fun e he => ofFile_eq_error reads he

end NamesOnly

/-- An option names a kubeconfig in another place than the default one. -/
def elsewhere : World :=
  .sample [(Options.kubeconfigFile, "/etc/k")] [("/etc/k", tokenFileText), ("/t", "mine")]

/-- The kubeconfig that is named is the one that is found. -/
theorem autoConfigure_eq_ofFile_sample : ∃ c, (elsewhere.ofFile (Path.ofText "/etc/k") none).result = .ok c ∧
    c.masterUrl = "https://h/" ∧ (elsewhere.autoConfigure none).result = .ok (c.set .autoConfigured true) := by
  obtain ⟨c, hc, hu⟩ := except_ok_of_map (show (elsewhere.ofFile (Path.ofText "/etc/k")
    none).result.toOption.map Config.masterUrl = some "https://h/" by decide +kernel)
  have alone : ∀ option ∈ Options.names, option ≠ Options.kubeconfigFile →
      elsewhere.probe.get? option = none := by
    intro option _ ho
    simp [Probe.get?, elsewhere, sample, List.lookup_cons, beq_false_of_ne ho]
  have names : elsewhere.NamesOnly "/etc/k" tokenFileText :=
    ⟨by decide +kernel, alone, by decide +kernel, by decide +kernel, ⟨"/home/user", rfl⟩,
      by decide +kernel, rfl, by decide +kernel⟩
  refine ⟨c, hc, hu, ?_⟩
  rw [(names.autoConfigure_eq_ofFile none).1, hc]
  rfl

end World

end ClusterAccess
