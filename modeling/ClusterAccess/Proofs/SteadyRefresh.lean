import ClusterAccess.Proofs.ContextList
import ClusterAccess.Proofs.OptionReads
import ClusterAccess.Proofs.Provenance

/-!
# Refreshing where nothing has changed

A refresh asks for the context that a configuration has, whatever context was asked for when it was made.
The same documents choose the same context again. So in the surroundings in which it was made a
configuration is its own refresh, with its explicit values; a configuration of one file is so as long as
there are no options that a refresh would lay over it.
-/
namespace ClusterAccess

/-! ## The same context is chosen again -/

namespace Kubeconfig

theorem chosenName_ne_empty {wanted : Option String} {k : Kubeconfig} {name : String}
    (h : k.chosenName wanted = some name) : name ≠ "" := by
  rcases Option.or_eq_some_iff.mp h with h | ⟨_, h⟩
  · exact (filled_eq_some_iff.mp h).2
  · exact (filled_eq_some_iff.mp h).2

theorem selection_of_chosenName {k : Kubeconfig} {wanted other : Option String}
    (h : k.chosenName wanted = k.chosenName other) : k.selection wanted = k.selection other := by
  unfold selection chosenContext?
  rw [h]

end Kubeconfig

/-- A configuration in which no context is chosen has the current context that it had. -/
theorem Selection.currentContext_of_onto {fs : FileSystem} {s : Selection} {target c : Config}
    (h : s.onto fs target = .ok c) (none_chosen : s.name = none) :
    c.currentContext = target.currentContext := by
  unfold onto at h
  rw [none_chosen] at h
  cases h
  rfl

namespace Merge

/-- The name of the context that was chosen chooses it. -/
theorem chosenName_again {fs : FileSystem} {wanted : Option String} {k : Kubeconfig} {c : Config}
    (h : (k.selection wanted).onto fs .default = .ok c) :
    k.chosenName c.currentContextName = k.chosenName wanted := by
  cases hn : k.chosenName wanted with
  | none =>
    have hc : c.currentContext = none := Selection.currentContext_of_onto h hn
    rw [Config.currentContextName, hc]
    exact (Option.or_eq_none_iff.mp hn).2
  | some name =>
    rcases (Selection.contexts_of_onto h).2 with hnone | ⟨n, hs, hc⟩
    · rw [Kubeconfig.selection_name, hn] at hnone
      cases hnone
    · rw [Kubeconfig.selection_context, Kubeconfig.chosenContext?, hn, Option.bind_some] at hs
      have hname : c.currentContextName = some name := by
        rw [Config.currentContextName, hc, Option.map_some, name_of_lastOf? hs]
      rw [hname]
      exact Kubeconfig.chosenName_of_ne (Kubeconfig.chosenName_ne_empty hn) k

theorem documents_again {fs : FileSystem} {wanted : Option String} {docs : List Kubeconfig} {c : Config}
    (h : (documents fs wanted docs .default).result = .ok c) :
    (documents fs c.currentContextName docs .default).result = .ok c := by
  rw [result_documents] at h ⊢
  rw [Kubeconfig.selection_of_chosenName (chosenName_again h), h]

end Merge

/-- There is something to make a configuration anew from, and no token of the caller forbids it. -/
def Config.isRenewable (c : Config) : Bool :=
  (filled c.oauthToken).isNone && (c.autoConfigured || c.file.isSome)

namespace World

variable {w : World} {c : Config}

theorem autoConfigure_again {context : Option String} (h : (w.autoConfigure context).result = .ok c) :
    (w.autoConfigure c.currentContextName).result = .ok c := by
  obtain ⟨found, hd, made⟩ := configures_of_autoConfigure h
  obtain ⟨docs, hdocs, _⟩ := Traced.bind_eq_ok.mp hd
  by_cases hne : docs = []
  · rw [hne] at hdocs
    rw [result_autoConfigure_of_no_documents hdocs] at h ⊢
    exact h
  · have again : (w.discover c.currentContextName).result = .ok found := by
      rw [result_discover_of_documents hdocs hne] at hd ⊢
      rw [Config.currentContextName, made.currentContext]
      exact Merge.documents_again hd
    rw [result_autoConfigure, hd] at h
    rw [result_autoConfigure, again]
    exact h

/-! ## Refreshing -/

/-- A refresh succeeds and gives an equal configuration, which is made anew if that is possible at all. -/
structure Reproduces (w : World) (c : Config) : Prop where
  same : ∃ r, (w.refresh c).result = .ok r ∧ r.over c = c
  anew : c.isRenewable = true → (w.refresh c).result = .ok (.replaced c)

theorem Reproduces.of_unchanged (kept : c.isRenewable = false)
    (h : (w.refresh c).result = .ok .unchanged) : w.Reproduces c where
  same := ⟨.unchanged, h, rfl⟩
  anew renewable := by
    rw [kept] at renewable
    cases renewable

theorem Reproduces.of_replaced (h : (w.refresh c).result = .ok (.replaced c)) : w.Reproduces c where
  same := ⟨.replaced c, h, rfl⟩
  anew _ := h

/-- The token of the caller is kept, and the configuration with it. -/
theorem Reproduces.of_token (token : (filled c.oauthToken).isSome = true) : w.Reproduces c := by
  refine .of_unchanged ?_ ?_
  · rw [Config.isRenewable, Option.isNone_eq_false_iff.mpr token]
    rfl
  · rw [refresh, if_pos token]
    rfl

/-- There is nothing to refresh from. -/
theorem Reproduces.of_no_file (manual : c.autoConfigured = false) (hf : c.file = none) :
    w.Reproduces c := by
  refine .of_unchanged ?_ (refresh_of_no_file manual hf w w).2
  rw [Config.isRenewable, manual, hf]
  exact Bool.and_false _

/-- What is made and finished alike comes out as it was, if its explicit values are laid over it. -/
theorem result_renew_again {failure : String} {make : Traced Config} {probe? : Option Probe}
    {finish : Config → Traced Config} {made base : Config} (hm : make.result = .ok made)
    (hf : (finish made).result = .ok base)
    (ha : (c.explicit.apply w.https w.fs probe? base).result = .ok c) :
    (w.renew c failure make probe? finish).result = .ok (.replaced c) := by
  rw [result_renew, hm]
  dsimp only
  rw [Traced.result_bind_of_ok hf, ha]
  rfl

/-- Explicit values over what discovery finds. -/
theorem reproduces_of_apply {o : Overrides} (settable : o.fields.AreSettable) {context : Option String}
    {base : Config} (hb : (w.autoConfigure context).result = .ok base)
    (ha : (o.apply w.https w.fs (some w.probe) base).result = .ok c) : w.Reproduces c := by
  have applied := Overrides.applied_of_apply settable (Config.IsFresh.of_autoConfigure hb).explicit ha
  obtain ⟨_, _, _, _, hbase⟩ := autoConfigure_eq_ok.mp hb
  have auto : c.autoConfigured = true := by
    rw [applied.autoConfigured settable, ← hbase]
    rfl
  by_cases token : (filled c.oauthToken).isSome = true
  · exact .of_token token
  · have again := autoConfigure_again hb
    have hname : c.currentContextName = base.currentContextName := by
      rw [Config.currentContextName, applied.currentContext settable, Config.currentContextName]
    refine .of_replaced ?_
    rw [w.refresh_of_autoConfigured auto (Option.not_isSome_iff_eq_none.mp token), refreshAuto, hname]
    refine result_renew_again again rfl ?_
    rw [applied.explicit]
    exact ha

theorem reproduces_of_autoConfigure {context : Option String}
    (h : (w.autoConfigure context).result = .ok c) : w.Reproduces c :=
  reproduces_of_apply (o := .none) (fun _ _ => rfl) h (Overrides.apply_none _ _ _ c)

theorem reproduces_of_build {b : Builder} (made : b.Made) (h : (b.build w).result = .ok c) :
    w.Reproduces c := by
  by_cases hb : b.Discovers w
  · obtain ⟨base, hbase, ha⟩ := (Builder.build_eq_ok_of_discovers hb).mp h
    exact reproduces_of_apply made.areSettable hbase ha
  · rw [Builder.result_build_of_not_discovers hb, Traced.bind_eq_ok] at h
    obtain ⟨base, hbase, ha⟩ := h
    rw [empty, result_normalize] at hbase
    obtain ⟨_, url, algorithm, _, _, rfl⟩ := Config.normalize_eq_ok.mp hbase
    have applied := Overrides.applied_of_apply made.areSettable rfl ha
    have manual : c.autoConfigured = false := applied.autoConfigured made.areSettable
    have hf : c.file = none := by
      rw [Config.file, applied.currentContext made.areSettable]
      rfl
    exact .of_no_file manual hf

/-- Options count for nothing when a configuration of one file is refreshed. -/
def LeavesFiles (w : World) : Prop :=
  w.probe.autoConfigDisabled = true ∨ ∀ option ∈ Options.names, w.probe.get? option = none

/-- A file that still gives the same configuration gives it in a refresh. -/
theorem result_refreshFile_again (leaves : w.LeavesFiles) (bare : c.explicit = .none) {path : Path}
    {text : String} {k : Kubeconfig} {merged : Config} (reads : w.fs.readText path.text = .ok text)
    (parsed : Kubeconfig.parse text (some path.text) = .ok k)
    (merges : (Merge.documents w.fs c.currentContextName [k.from path] .default).result = .ok merged)
    (normal : (merged.normalize w.https w.fs none).result = .ok c) :
    (w.refreshFile c path).result = .ok (.replaced c) := by
  have applied : ∀ probe?, (c.explicit.apply w.https w.fs probe? c).result = .ok c := by
    rw [bare]
    exact fun probe? => Overrides.apply_none _ _ probe? c
  rw [refreshFile, Traced.result_bind_of_ok (Discovery.result_load_of_ok reads)]
  dsimp only
  rw [parsed, Traced.result_bind_of_ok (Traced.result_ofExcept _)]
  rcases leaves with disabled | absent
  · rw [if_pos disabled]
    refine result_renew_again merges ?_ (applied _)
    rw [result_normalize]
    exact normal
  · -- where no option is present, the one that disables discovery is not either
    have enabled : w.probe.autoConfigDisabled = false := by
      rw [Probe.autoConfigDisabled, Probe.getTruth, absent Options.disableAutoConfig (by decide +kernel)]
      rfl
    have silent : w.probe.SameOn Options.ofOverlay .silent := fun option ho =>
      absent option (Options.ofOverlay_sublist_names.subset ho)
    rw [enabled, if_neg Bool.false_ne_true]
    refine result_renew_again merges ?_ (applied _)
    rw [result_finish_of_silent silent]
    exact normal

theorem reproduces_of_ofFile {path : Path} (absolute : path.isAbsolute = true) (leaves : w.LeavesFiles)
    {context : Option String} (h : (w.ofFile path context).result = .ok c) : w.Reproduces c := by
  obtain ⟨doc, hread, hd⟩ := Traced.bind_eq_ok.mp h
  obtain ⟨text, k, reads, parsed, rfl⟩ := Kubeconfig.read_eq_ok hread
  -- a relative path would be read again under another name
  have place : w.fs.absolute path = path := Path.absolute_of_isAbsolute _ absolute
  rw [place] at hd
  obtain ⟨fresh, manual⟩ := Config.IsFresh.of_ofDocument hd
  rcases file_of_ofDocument hd with hf | ⟨n, hn, hf⟩
  · exact .of_no_file manual hf
  · obtain ⟨n, _, rfl⟩ := List.mem_map.mp hn
    obtain ⟨merged, hm, normal⟩ := ofDocument_eq_ok.mp hd
    have hcontext : c.currentContext = merged.currentContext :=
      Config.SameContexts.normalize normal .currentContext rfl
    have merges := Merge.documents_again hm
    rw [Config.currentContextName, ← hcontext, ← Config.currentContextName] at merges
    refine .of_replaced ?_
    rw [w.refresh_of_file manual fresh.no_token hf]
    exact result_refreshFile_again leaves fresh.explicit reads parsed merges normal

/-- A refresh in the same surroundings gives an equal configuration: of every automatic one, of every
one that a builder made, and of every one of a file, if its path is absolute and options count for
nothing. It is made anew, but for a token of the caller or for want of a file. -/
theorem refresh_in_same_world (w : World) :
    (∀ (context : Option String) (c : Config), (w.autoConfigure context).result = .ok c → w.Reproduces c) ∧
    (∀ b : Builder, b.Made → ∀ c : Config, (b.build w).result = .ok c → w.Reproduces c) ∧
    ∀ path : Path, path.isAbsolute = true → w.LeavesFiles → ∀ (context : Option String) (c : Config),
      (w.ofFile path context).result = .ok c → w.Reproduces c :=
  ⟨fun _ _ => reproduces_of_autoConfigure, fun _ made _ => reproduces_of_build made,
    fun _ absolute leaves _ _ => reproduces_of_ofFile absolute leaves⟩

/-- The sample over a kubeconfig, and the configuration of that file, have the context and keep it. -/
theorem refresh_in_same_world_sample :
    (∃ c, (Builder.sample.build (.sample [] sampleFiles)).result = .ok c ∧
      c.currentContextName = some "a" ∧ (World.sample [] sampleFiles).Reproduces c) ∧
    ∃ c, ((World.sample [] sampleFiles).ofFile ⟨.slash, ["home", "user", ".kube", "config"]⟩
      none).result = .ok c ∧
      c.currentContextName = some "a" ∧ (World.sample [] sampleFiles).Reproduces c := by
  obtain ⟨_, built, filed⟩ := refresh_in_same_world (.sample [] sampleFiles)
  constructor
  · obtain ⟨c, hc, hn⟩ := except_ok_of_map (show (Builder.sample.build
      (.sample [] sampleFiles)).result.toOption.map Config.currentContextName =
        some (some "a") by decide +kernel)
    exact ⟨c, hc, hn, built Builder.sample Builder.sample_made c hc⟩
  · obtain ⟨c, hc, hn⟩ := except_ok_of_map (show ((World.sample [] sampleFiles).ofFile
      ⟨.slash, ["home", "user", ".kube", "config"]⟩ none).result.toOption.map Config.currentContextName =
        some (some "a") by decide +kernel)
    exact ⟨c, hc, hn, filed _ rfl (.inr fun _ _ => rfl) none c hc⟩

end World

end ClusterAccess
