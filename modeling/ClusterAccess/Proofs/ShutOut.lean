import ClusterAccess.Proofs.OptionReads
import ClusterAccess.Proofs.Unselected

/-!
# A kubeconfig shuts the service account out

As soon as a kubeconfig is usable, nothing of the pod reaches the configuration: not its address, not its
files, and not the options about them. Of the disk only the kubeconfig counts, and the files of the
selected user and of the key that options name.
-/
namespace ClusterAccess

/-! ## The kubeconfig -/

namespace World

/-- Discovery is on, and its candidate is a file with a text that is not blank, however its path is
spelled. The document remembers the file as `file`. -/
structure Offers (w : World) (name text : String) (file : Path) : Prop where
  enabled : w.probe.getTruth Options.tryKubeconfig true = true
  candidate : Discovery.candidates w.probe w.fs w.home = [name]
  isFile : w.fs.isFile name = true
  reads : ∀ spelling ∈ [name, (Path.ofText name).text], w.fs.readText spelling = .ok text
  notBlank : Text.isBlankText text = false
  place : w.fs.absolute (Path.ofText name) = file

theorem result_readDocument {w : World} {path : Path} {text : String}
    (h : w.fs.readText path.text = .ok text) : (w.readDocument path).result =
      (Kubeconfig.parse text (some path.text)).map fun k => some (k.from (w.fs.absolute path)) := by
  unfold readDocument
  rw [Traced.result_bind_of_ok (Discovery.result_load_of_ok h)]
  dsimp only
  rw [Traced.result_bind, Traced.result_ofExcept]
  cases Kubeconfig.parse text (some path.text) <;> rfl

namespace Offers

variable {w : World} {name text : String} {file : Path}

theorem holdsText (h : w.Offers name text file) : Discovery.holdsText w.fs name = true := by
  have hr : w.fs.readText name = .ok text := h.reads name List.mem_cons_self
  have hb : ((w.fs.readText name).toOption.map Text.isBlankText).getD true = false := by
    rw [hr]
    exact h.notBlank
  rw [Discovery.holdsText, h.isFile, hb]
  rfl

/-- The only document is the one of the candidate. -/
theorem result_documents (h : w.Offers name text file) : w.documents.result =
    (Kubeconfig.parse text (some (Path.ofText name).text)).map fun k => [k.from file] := by
  have clear := Discovery.obstacle?_of_candidate h.candidate h.isFile (h.reads name List.mem_cons_self)
  have hf : (Discovery.find w.probe w.fs w.home).result = .ok [Path.ofText name] := by
    rw [Discovery.result_find, clear, if_pos h.enabled, h.candidate, List.filter_cons_of_pos h.holdsText]
    rfl
  have hd := result_readDocument (h.reads (Path.ofText name).text (by simp))
  unfold documents
  rw [Traced.result_bind_of_ok hf, List.mapM_cons, List.mapM_nil, Traced.result_bind,
    Traced.result_bind, hd, h.place]
  cases Kubeconfig.parse text (some (Path.ofText name).text) <;> rfl

/-- The service account is not asked. -/
theorem result_discover (h : w.Offers name text file) (context : Option String) :
    (w.discover context).result = (Kubeconfig.parse text (some (Path.ofText name).text)).bind fun k =>
      (Merge.documents w.fs context [k.from file] .default).result := by
  unfold discover
  rw [Traced.result_bind, h.result_documents]
  cases Kubeconfig.parse text (some (Path.ofText name).text) with
  | error e => rfl
  | ok k => exact Stage.result_reach_bind _ _

end Offers

/-! ## Two surroundings with the same kubeconfig -/

/-- The files that count beside the kubeconfig: those of the selected user, and the key that options name. -/
def routeFiles (w : World) (context : Option String) (k : Kubeconfig) : List String :=
  (k.selection context).opened ++ (w.probe.get? Options.clientKeyFile).toList

/-- The key file in force is one of the files that count. -/
theorem mem_routeFiles {w : World} {fs : FileSystem} {context : Option String} {k : Kubeconfig} {c : Config}
    (h : (k.selection context).onto fs .default = .ok c) {name : String}
    (hn : name ∈ (Options.overlay w.probe c).clientKeyFile.toList) : name ∈ w.routeFiles context k := by
  have hc : (Options.changes w.probe c).value? .clientKeyFile =
      (w.probe.get? Options.clientKeyFile).map some := rfl
  rw [Config.clientKeyFile, Options.value_overlay, hc] at hn
  cases hp : w.probe.get? Options.clientKeyFile with
  | some path =>
    rw [hp] at hn
    rw [routeFiles, hp]
    exact List.mem_append_right _ hn
  | none =>
    rw [hp] at hn
    have hn : name ∈ c.clientKeyFile.toList := hn
    rcases Selection.clientKeyFile_of_onto h with hk | ⟨u, hu, hk⟩
    · rw [hk] at hn
      cases hn
    · rw [hk] at hn
      rw [routeFiles, Selection.opened, hu]
      exact List.mem_append_left _ (List.mem_append_left _ hn)

/-- Two surroundings that offer the same kubeconfig give the same configuration or the same error, if they
agree on the files that count and on all options but those of the service account. -/
theorem autoConfigure_of_offers {w later : World} {name text : String} {file : Path}
    (here : w.Offers name text file) (there : later.Offers name text file) (https : w.https = later.https)
    (options : ∀ option ∈ Options.names, option ∉ Options.ofAccount →
      w.probe.get? option = later.probe.get? option)
    (context : Option String)
    (files : ∀ k, Kubeconfig.parse text (some (Path.ofText name).text) = .ok k →
      w.fs.SameOn (w.routeFiles context (k.from file)) later.fs) :
    (w.autoConfigure context).result = (later.autoConfigure context).result := by
  have same : w.probe.SameOn Options.ofOverlay later.probe := fun option ho =>
    options option (Options.ofOverlay_sublist_names.subset ho) (Options.not_mem_ofAccount option ho)
  have discovered : (w.discover context).result = (later.discover context).result := by
    rw [here.result_discover, there.result_discover]
    refine except_bind_congr fun k hk => ?_
    have opened : w.fs.SameOn ((k.from file).selection context).opened later.fs := fun name hn =>
      files k hk name (List.mem_append_left _ hn)
    rw [Merge.result_documents, Merge.result_documents, Kubeconfig.selection_concat_singleton,
      Selection.onto_congr opened]
  rw [result_autoConfigure, result_autoConfigure, ← discovered]
  refine except_bind_congr fun c hc => ?_
  rw [here.result_discover] at hc
  obtain ⟨k, hk, hm⟩ := except_bind_eq_ok.mp hc
  rw [Merge.result_documents, Kubeconfig.selection_concat_singleton] at hm
  rw [result_finish_congr same https fun name hn => files k hk name (mem_routeFiles hm hn)]

/-- A kubeconfig whose user has a token file. -/
def tokenFileText : String :=
  "clusters:\n name: c\n cluster:\n  server: h\nusers:\n name: u\n user:\n  tokenFile: /t\n" ++
    "contexts:\n name: a\n context:\n  cluster: c\n  user: u\ncurrent-context: a\n"

/-- The kubeconfig and its token are all there is. -/
def atHome : World := .sample [] [("/home/user/.kube/config", tokenFileText), ("/t", "mine")]

/-- The same kubeconfig in a pod with a service account. -/
def inPod : World :=
  .sample [(Options.serviceHost, "10.0.0.1"), (Options.servicePort, "443")]
    [("/home/user/.kube/config", tokenFileText), ("/t", "mine"), (ServiceAccount.tokenPath, "secret"),
      (ServiceAccount.namespacePath, "pod")]

/-- In the pod the configuration is the one from home. -/
theorem autoConfigure_of_offers_sample : ∃ c, (inPod.autoConfigure none).result = .ok c ∧
    (atHome.autoConfigure none).result = .ok c ∧ c.autoToken = some "mine" ∧
      c.value .namespaceName = none := by
  obtain ⟨c, hc, hv⟩ := except_ok_of_map (show (atHome.autoConfigure none).result.toOption.map
    (fun c => (c.autoToken, c.value .namespaceName)) = some (some "mine", none) by decide +kernel)
  obtain ⟨ht, hn⟩ := Prod.mk.inj hv
  have offers : ∀ w : World, w = atHome ∨ w = inPod →
      w.Offers "/home/user/.kube/config" tokenFileText ⟨.slash, ["home", "user", ".kube", "config"]⟩ := by
    have notBlank : Text.isBlankText tokenFileText = false := by decide +kernel
    rintro w (rfl | rfl)
    all_goals
      exact ⟨by decide +kernel, by decide +kernel, by decide +kernel, by decide +kernel, notBlank,
        by decide +kernel⟩
  have options : ∀ option ∈ Options.names, option ∉ Options.ofAccount →
      inPod.probe.get? option = atHome.probe.get? option := by
    intro option _ ho
    simp only [Options.ofAccount, List.mem_cons, not_or] at ho
    simp [Probe.get?, inPod, atHome, sample, List.lookup_cons, beq_false_of_ne ho.1,
      beq_false_of_ne ho.2.1]
  have opened := except_ok_of_map (show (Kubeconfig.parse tokenFileText
    (some (Path.ofText "/home/user/.kube/config").text)).toOption.map
      (fun k => (k.from ⟨.slash, ["home", "user", ".kube", "config"]⟩).users.flatMap Merge.openedBy) =
        some ["/t"] by decide +kernel)
  have unset : inPod.probe.get? Options.clientKeyFile = none := by decide +kernel
  refine ⟨c, ?_, hc, ht, hn⟩
  rw [autoConfigure_of_offers (offers inPod (.inr rfl)) (offers atHome (.inl rfl)) rfl options none
    fun k hk name hm => ?_]
  · exact hc
  · obtain ⟨k', hk', ho⟩ := opened
    rw [hk] at hk'
    cases hk'
    rw [routeFiles, unset, Option.toList_none, List.append_nil] at hm
    have hm := Selection.mem_opened hm
    rw [ho] at hm
    rw [List.mem_singleton.mp hm]
    rfl

end World

end ClusterAccess
