import ClusterAccess.Proofs.Parsing
import ClusterAccess.Proofs.Selection
import ClusterAccess.Proofs.Upkeep
import Mathlib.Data.List.Basic

/-!
# Where the configuration of a text comes from

The source of an entry is a field like any other, and a text that fills it is believed. A document has
the sources that its text states, and no others. A configuration of a text that states none has no file,
takes paths as they are spelled, opens no file but those that are spelled, and is not touched by a refresh.
One whose context has a stated source is refreshed from the file of that name.
-/
namespace ClusterAccess

namespace Kubeconfig

open Checked Shape

/-! ## Stated sources -/

/-- The file that a value names as its source. -/
def statedSource (v : Value) : Option Path :=
  (valueAt (plain "source_file") v).bind fun
    | .str s => some (Path.ofText s)
    | _ => none

/-- No part of the document names a source. -/
structure StatesNoSource (document : Value) : Prop where
  whole : statedSource document = none
  items : ∀ key ∈ ["clusters", "users", "contexts"], ∀ item ∈ sectionItems key document,
    statedSource item = none

/-- The sources are those that the document states. -/
structure SourcedBy (k : Kubeconfig) (document : Value) : Prop where
  whole : k.source = statedSource document
  clusters : k.clusters.map (·.source) = (sectionItems "clusters" document).map statedSource
  users : k.users.map (·.source) = (sectionItems "users" document).map statedSource
  contexts : k.contexts.map (·.source) = (sectionItems "contexts" document).map statedSource

/-- Nothing in it was read from a file. -/
structure IsUnsourced (k : Kubeconfig) : Prop where
  whole : k.source = none
  clusters : ∀ n ∈ k.clusters, n.source = none
  users : ∀ n ∈ k.users, n.source = none
  contexts : ∀ n ∈ k.contexts, n.source = none

instance (k : Kubeconfig) : Decidable k.IsUnsourced :=
  decidable_of_iff (k.source = none ∧ (∀ n ∈ k.clusters, n.source = none) ∧
      (∀ n ∈ k.users, n.source = none) ∧ ∀ n ∈ k.contexts, n.source = none)
    ⟨fun ⟨w, c, u, x⟩ => ⟨w, c, u, x⟩, fun ⟨w, c, u, x⟩ => ⟨w, c, u, x⟩⟩

theorem source_eq_stated {es : Entries} {source : Option Path}
    (h : maybe (plain "source_file") path es = .ok source) : source = statedSource (.map es) := by
  rw [maybe, field_eq_ok] at h
  unfold statedSource
  cases hv : valueAt (plain "source_file") (.map es) with
  | none =>
    rw [hv] at h
    cases h
    rfl
  | some v =>
    rw [hv] at h
    cases v <;> cases h <;> rfl

theorem source_of_named {α : Type} {name key : String} {default : α} {content : Value → Checked α}
    {v : Value} {n : Named α} (h : named name key default content v = .ok n) :
    n.source = statedSource v := by
  obtain ⟨es, rfl, h⟩ := record_eq_ok.mp h
  obtain ⟨withSource, source, hw, hs, rfl⟩ := seq_eq_ok.mp h
  obtain ⟨withValue, value, hv, _, rfl⟩ := seq_eq_ok.mp hw
  obtain ⟨name, _, rfl⟩ := functor_map_eq_ok.mp hv
  exact source_eq_stated hs

/-- A view of what is read is a view of what it is read from. -/
theorem map_eq_map_of_ok {α β : Type} {entry : Value → Checked α} {f : α → β} {g : Value → β}
    (view : ∀ v a, entry v = .ok a → f a = g v) {vs : List Value} {as : List α}
    (h : vs.map entry = as.map .ok) : as.map f = vs.map g := by
  induction vs generalizing as with
  | nil =>
    cases as with
    | nil => rfl
    | cons a rest => cases h
  | cons v rest ih =>
    cases as with
    | nil => cases h
    | cons a others =>
      obtain ⟨ha, hr⟩ := List.cons.inj h
      rw [List.map_cons, List.map_cons, view v a ha, ih hr]

theorem sources_of_section {α : Type} {key : String} {entry : Value → Checked (Named α)}
    (view : ∀ v n, entry v = .ok n → n.source = statedSource v) {es : Entries} {ns : List (Named α)}
    (h : section? key entry es = .ok ns) :
    ns.map (·.source) = (sectionItems key (.map es)).map statedSource := by
  rw [section?, field_eq_ok] at h
  unfold sectionItems
  cases hv : valueAt (plain key) (.map es) with
  | none =>
    rw [hv] at h
    cases h
    rfl
  | some v =>
    rw [hv, Option.map_some, Option.getD_some, asList_eq, list_eq_ok] at h
    exact map_eq_map_of_ok view h

theorem sourcedBy_of_ofEntries {es : Entries} {k : Kubeconfig} (h : ofEntries es = .ok k) :
    k.SourcedBy (.map es) := by
  -- the fields from the last to the first; each step takes one off
  obtain ⟨withSource, source, h₇, hs, rfl⟩ := seq_eq_ok.mp h
  obtain ⟨withCurrent, current, h₆, _, rfl⟩ := seq_eq_ok.mp h₇
  obtain ⟨withContexts, contexts, h₅, hx, rfl⟩ := seq_eq_ok.mp h₆
  obtain ⟨withUsers, users, h₄, hu, rfl⟩ := seq_eq_ok.mp h₅
  obtain ⟨withClusters, clusters, h₃, hc, rfl⟩ := seq_eq_ok.mp h₄
  obtain ⟨withKind, kind, h₂, _, rfl⟩ := seq_eq_ok.mp h₃
  obtain ⟨version, _, rfl⟩ := functor_map_eq_ok.mp h₂
  exact ⟨source_eq_stated hs, sources_of_section (fun _ _ => source_of_named) hc,
    sources_of_section (fun _ _ => source_of_named) hu,
    sources_of_section (fun _ _ => source_of_named) hx⟩

theorem forall_eq_none_iff {α β γ : Type} {f : α → Option γ} {g : β → Option γ} {as : List α} {bs : List β}
    (h : as.map f = bs.map g) : (∀ a ∈ as, f a = none) ↔ ∀ b ∈ bs, g b = none := by
  rw [← List.forall_mem_map (P := (· = none)), h, List.forall_mem_map]

theorem SourcedBy.isUnsourced_iff {k : Kubeconfig} {document : Value} (h : k.SourcedBy document) :
    k.IsUnsourced ↔ StatesNoSource document := by
  have hc := forall_eq_none_iff h.clusters
  have hu := forall_eq_none_iff h.users
  have hx := forall_eq_none_iff h.contexts
  constructor
  · rintro ⟨whole, clusters, users, contexts⟩
    refine ⟨h.whole.symm.trans whole, ?_⟩
    simp only [List.forall_mem_cons]
    exact ⟨hc.mp clusters, hu.mp users, hx.mp contexts, fun _ hm => absurd hm List.not_mem_nil⟩
  · rintro ⟨whole, items⟩
    refine ⟨h.whole.trans whole, hc.mpr ?_, hu.mpr ?_, hx.mpr ?_⟩
    · exact items "clusters" (by simp)
    · exact items "users" (by simp)
    · exact items "contexts" (by simp)

/-- The files of keys and tokens that its users spell. -/
def spelledFiles (k : Kubeconfig) : List String :=
  k.users.flatMap fun u => u.value.clientKey.toList ++ u.value.tokenFile.toList

theorem IsUnsourced.opened {k : Kubeconfig} (h : k.IsUnsourced) : Merge.opened [k] = k.spelledFiles := by
  unfold Merge.opened spelledFiles
  rw [List.flatMap_singleton]
  refine List.flatMap_congr fun u hu => ?_
  rw [Merge.openedBy, h.users u hu, Merge.resolve_none, Merge.resolve_none]

end Kubeconfig

/-! ## Configurations of a document -/

/-- The configuration has no file, and its paths are spelled in the document. -/
structure Config.KeepsTo (c : Config) (k : Kubeconfig) : Prop where
  file : c.file = none
  caCertFile : c.caCertFile = none ∨ ∃ n ∈ k.clusters, c.caCertFile = n.value.certificateAuthority
  clientCertFile : c.clientCertFile = none ∨ ∃ n ∈ k.users, c.clientCertFile = n.value.clientCertificate
  clientKeyFile : c.clientKeyFile = none ∨ ∃ n ∈ k.users, c.clientKeyFile = n.value.clientKey

namespace World

variable {w : World} {context : Option String} {k : Kubeconfig} {c : Config}

/-- The file is the source of a context. -/
theorem file_of_ofDocument (h : (w.ofDocument context k).result = .ok c) :
    c.file = none ∨ ∃ n ∈ k.contexts, c.file = n.source := by
  obtain ⟨merged, hm, hn⟩ := ofDocument_eq_ok.mp h
  obtain ⟨_, url, algorithm, _, _, rfl⟩ := Config.normalize_eq_ok.mp hn
  have hc : (merged.settled url algorithm).currentContext = merged.currentContext :=
    Config.value_settled merged url algorithm rfl
  unfold Config.file
  rw [hc]
  rcases (Merge.documents_eq_ok hm).2 with h | ⟨n, hn, h⟩
  · rw [h]
    exact .inl rfl
  · rw [h]
    obtain ⟨doc, hd, hn⟩ := Merge.mem_contexts hn
    rw [List.mem_singleton.mp hd] at hn
    exact .inr ⟨n, hn, rfl⟩

theorem keepsTo_of_ofDocument (unsourced : k.IsUnsourced) (h : (w.ofDocument context k).result = .ok c) :
    c.KeepsTo k := by
  have file : c.file = none := by
    rcases file_of_ofDocument h with h | ⟨n, hn, h⟩
    · exact h
    · rw [h, unsourced.contexts n hn]
  obtain ⟨merged, hm, hn⟩ := ofDocument_eq_ok.mp h
  obtain ⟨_, url, algorithm, _, _, rfl⟩ := Config.normalize_eq_ok.mp hn
  obtain ⟨ca, cert, key⟩ := Config.TakesPaths.documents hm
  have spelled : ∀ f : Field, f.isSettled = false →
      (merged.settled url algorithm).value f = merged.value f := fun f hf =>
    Config.value_settled merged url algorithm hf
  rw [List.flatMap_singleton] at ca cert key
  refine ⟨file, ?_, ?_, ?_⟩
  · rw [Config.caCertFile, spelled .caCertFile rfl]
    exact ca.of_unsourced unsourced.clusters
  · rw [Config.clientCertFile, spelled .clientCertFile rfl]
    exact cert.of_unsourced unsourced.users
  · rw [Config.clientKeyFile, spelled .clientKeyFile rfl]
    exact key.of_unsourced unsourced.users

/-! ## Refreshing -/

/-- Without a file there is nothing to refresh from, in any surroundings. -/
theorem refresh_of_no_file (manual : c.autoConfigured = false) (hf : c.file = none) (later other : World) :
    later.refresh c = other.refresh c ∧ (later.refresh c).result = .ok .unchanged := by
  unfold refresh
  rw [manual, hf]
  refine ⟨rfl, ?_⟩
  split <;> rfl

/-- Every file reads as a blank text. -/
def blanked (w : World) : World := { w with fs := { w.fs with readText := fun _ => .ok "" } }

/-- A file that is there is read again, and a blank text in it is no document. -/
theorem refresh_blanked (manual : c.autoConfigured = false) (token : filled c.oauthToken = none)
    {file : Path} (hf : c.file = some file) :
    (w.blanked.refresh c).result = .error (.document (some file.text) .blank) := by
  have hl : (Discovery.load w.blanked.fs file.text).result = .ok (some "") := Discovery.result_load _ _
  rw [w.blanked.refresh_of_file manual token hf, refreshFile, Traced.result_bind_of_ok hl]
  rfl

/-- A refresh leaves a configuration of a document alone in all surroundings only if it has no file. -/
theorem refresh_unchanged_iff (w : World) (manual : c.autoConfigured = false)
    (token : filled c.oauthToken = none) :
    (∀ later : World, (later.refresh c).result = .ok .unchanged) ↔ c.file = none := by
  constructor
  · intro h
    cases hf : c.file with
    | none => rfl
    | some file =>
      have hb := refresh_blanked (w := w) manual token hf
      rw [h w.blanked] at hb
      cases hb
  · intro hf later
    exact (refresh_of_no_file manual hf later later).2

theorem result_ofText {text : String} {source : Option String}
    (accepted : Kubeconfig.parse text source = .ok k) (w : World) (context : Option String) :
    (w.ofText text context).result = (w.ofDocument context k).result := by
  unfold ofText
  rw [(Kubeconfig.holds_of_parse accepted).parse_eq_ok none]
  exact Traced.result_bind_of_ok rfl _

/-- A document has the sources that its text states. The configuration of a text has a file only if a
context states it, and only then can a refresh give anything but the configuration itself. If the text
states no source, the paths are those spelled, no file but those spelled is opened, and a refresh asks
the surroundings for nothing. -/
theorem ofText_provenance {text : String} {source : Option String} {k : Kubeconfig}
    (accepted : Kubeconfig.parse text source = .ok k) :
    (∃ document, Yaml.load Kubeconfig.depth text = .ok document ∧ k.SourcedBy document ∧
      (k.IsUnsourced ↔ Kubeconfig.StatesNoSource document)) ∧
    ∀ (w : World) (context : Option String) (c : Config), (w.ofText text context).result = .ok c →
      (c.file = none ∨ ∃ n ∈ k.contexts, c.file = n.source) ∧
      ((∀ later : World, (later.refresh c).result = .ok .unchanged) ↔ c.file = none) ∧
      (k.IsUnsourced → c.KeepsTo k ∧
        (∀ fs : FileSystem, fs.SameOn k.spelledFiles w.fs →
          ({ w with fs := fs }.ofText text context).result = .ok c) ∧
        ∀ later other : World, later.refresh c = other.refresh c) := by
  obtain ⟨_, es, hl, hk⟩ := Kubeconfig.holds_of_parse accepted
  have sourced := Kubeconfig.sourcedBy_of_ofEntries hk
  refine ⟨⟨.map es, hl, sourced, sourced.isUnsourced_iff⟩, fun w context c h => ?_⟩
  have hd := h
  rw [result_ofText accepted] at hd
  obtain ⟨fresh, manual⟩ := Config.IsFresh.of_ofDocument hd
  refine ⟨file_of_ofDocument hd, refresh_unchanged_iff w manual fresh.no_token, fun unsourced => ?_⟩
  have kept := keepsTo_of_ofDocument unsourced hd
  refine ⟨kept, fun fs same => ?_, fun later other =>
    (refresh_of_no_file manual kept.file later other).1⟩
  rw [← unsourced.opened] at same
  rw [result_ofText accepted, ofDocument_congr same, hd]

/-- A context and a cluster with a relative path. -/
def relativeText : String :=
  "clusters: [{name: c, cluster: {server: h, certificate-authority: ca}}]\n" ++
    "contexts: [{name: a, context: {cluster: c}}]\ncurrent-context: a\n"

/-- The path stays relative, and a refresh changes nothing wherever it is made. -/
theorem ofText_provenance_sample :
    ∃ c, ((World.sample [] []).ofText relativeText none).result = .ok c ∧
      c.caCertFile = some "ca" ∧ c.file = none ∧
        ∀ later : World, (later.refresh c).result = .ok .unchanged := by
  obtain ⟨k, hk, hu⟩ := except_ok_of_map (show (Kubeconfig.parse relativeText none).toOption.map
    (fun k => decide k.IsUnsourced) = some true by decide +kernel)
  obtain ⟨c, hc, hp⟩ := except_ok_of_map (show ((World.sample [] []).ofText relativeText
    none).result.toOption.map Config.caCertFile = some (some "ca") by decide +kernel)
  obtain ⟨_, unchanged, kept⟩ := (ofText_provenance hk).2 _ none c hc
  have file := (kept (of_decide_eq_true hu)).1.file
  exact ⟨c, hc, hp, file, unchanged.mpr file⟩

/-- A context that names a file as its source. -/
def sourcedText : String := "contexts:\n- name: a\n  source_file: /etc/x\ncurrent-context: a\n"

/-- The text is believed: the configuration has the file, and a refresh reads it. -/
theorem stated_source_is_believed :
    ∃ k c, Kubeconfig.parse sourcedText none = .ok k ∧
      k.contexts.map (·.source) = [some ⟨.slash, ["etc", "x"]⟩] ∧
      ((World.sample [] []).ofText sourcedText none).result = .ok c ∧
      c.file = some ⟨.slash, ["etc", "x"]⟩ ∧
      ((World.sample [] []).blanked.refresh c).result = .error (.document (some "/etc/x") .blank) := by
  obtain ⟨k, hk, hx⟩ := except_ok_of_map (show (Kubeconfig.parse sourcedText none).toOption.map
    (fun k => k.contexts.map (·.source)) = some [some ⟨.slash, ["etc", "x"]⟩] by decide +kernel)
  obtain ⟨c, hc, hf⟩ := except_ok_of_map (show ((World.sample [] []).ofText sourcedText
    none).result.toOption.map Config.file = some (some ⟨.slash, ["etc", "x"]⟩) by decide +kernel)
  have hd := hc
  rw [result_ofText hk] at hd
  obtain ⟨fresh, manual⟩ := Config.IsFresh.of_ofDocument hd
  exact ⟨k, c, hk, hx, hc, hf, refresh_blanked manual fresh.no_token hf⟩

end World

end ClusterAccess
