import ClusterAccess.Proofs.Rebuild

/-!
# Losing the file of the current context

The file that the current context was read from cannot be read any more. A configuration of one file is
then left as it is. A configuration that was made automatically is not: discovery passes over a candidate
without a text, and goes on with the service account as if there had never been a file.
-/
namespace ClusterAccess

/-- The ways to a configuration whose current context may come from a file. -/
inductive World.Makes (w : World) : Config → Prop
  | auto {context : Option String} {c : Config} (made : (w.autoConfigure context).result = .ok c) : Makes w c
  | build {b : Builder} (made : b.Made) {c : Config} (built : (b.build w).result = .ok c) : Makes w c
  | file {path : Path} {context : Option String} {c : Config}
    (made : (w.ofFile path context).result = .ok c) : Makes w c

/-- The same options and directories, but no spelling of the file gives a text: it is gone, may not be read,
or holds none. -/
structure World.Loses (w later : World) (file : Path) : Prop where
  probe : later.probe = w.probe
  home : later.home = w.home
  testDirectory : later.fs.testDirectory = w.fs.testDirectory
  unreadable : ∀ name, name = file.text ∨ w.fs.absolute (Path.ofText name) = file →
    ∃ fault : ReadFault, later.fs.readText name = .error fault ∧ fault.isOfFile = true

/-! ## The candidates -/

namespace Discovery

theorem eq_of_mem_candidates {p : Probe} {fs : FileSystem} {h : Home} {name other : String}
    (hn : name ∈ candidates p fs h) (ho : other ∈ candidates p fs h) : name = other := by
  unfold candidates names at hn ho
  cases hp : h.path p fs with
  | error fault =>
    rw [hp] at hn
    cases hn
  | ok home =>
    rw [hp] at hn ho
    dsimp only [Except.map, Except.toOption, Option.getD_some] at hn ho
    split at hn
    · cases hn
    · next hne =>
      rw [if_neg hne] at ho
      rw [List.mem_singleton.mp hn, List.mem_singleton.mp ho]

theorem candidates_of_testDirectory {fs later : FileSystem} (h : later.testDirectory = fs.testDirectory)
    (p : Probe) (home : Home) : candidates p later home = candidates p fs home := by
  unfold candidates names Home.path
  rw [h]

theorem holdsText_of_error {fs : FileSystem} {name : String} {fault : ReadFault}
    (h : fs.readText name = .error fault) : holdsText fs name = false := by
  unfold holdsText
  rw [h]
  exact Bool.and_false _

end Discovery

/-- The only candidate is lost, and with it all documents. Looking for them may be an error. -/
theorem World.Loses.documents {w later : World} {file : Path} (lost : w.Loses later file) {name : String}
    (hn : name ∈ Discovery.candidates w.probe w.fs w.home)
    (ha : w.fs.absolute (Path.ofText name) = file) :
    later.documents.result = guarded (Discovery.obstacle? later.probe later.fs later.home) [] := by
  refine documents_of_unreadable fun other ho => ?_
  rw [lost.probe, lost.home, Discovery.candidates_of_testDirectory lost.testDirectory] at ho
  rw [Discovery.eq_of_mem_candidates ho hn]
  obtain ⟨fault, hf, _⟩ := lost.unreadable name (Or.inr ha)
  exact Discovery.holdsText_of_error hf

/-! ## What was made, and from which file -/

namespace World

/-- A configuration with a file: made automatically, from a candidate, or made of one file. -/
structure HasOrigin (w : World) (c : Config) (file : Path) : Prop where
  settable : c.explicit.fields.AreSettable
  candidate : c.autoConfigured = true → ∃ name ∈ Discovery.candidates w.probe w.fs w.home,
    w.fs.absolute (Path.ofText name) = file

theorem candidate_of_autoConfigure {w : World} {context : Option String} {c : Config}
    (h : (w.autoConfigure context).result = .ok c) {file : Path} (hf : c.file = some file) :
    ∃ name ∈ Discovery.candidates w.probe w.fs w.home, w.fs.absolute (Path.ofText name) = file := by
  obtain ⟨found, hd, hc⟩ := configures_of_autoConfigure h
  rw [Config.file, hc.currentContext] at hf
  exact (discover_eq_ok hd).2 file hf

theorem autoConfigured_of_ofFile {w : World} {path : Path} {context : Option String} {c : Config}
    (h : (w.ofFile path context).result = .ok c) : c.autoConfigured = false ∧ c.explicit = .none := by
  obtain ⟨doc, _, hd⟩ := Traced.bind_eq_ok.mp h
  obtain ⟨fresh, manual⟩ := Config.IsFresh.of_ofDocument hd
  exact ⟨manual, fresh.explicit⟩

theorem Makes.hasOrigin {w : World} {c : Config} (h : w.Makes c) {file : Path} (hf : c.file = some file) :
    w.HasOrigin c file := by
  have hnone : Overrides.none.fields.AreSettable := fun _ _ => rfl
  cases h with
  | auto made =>
    refine ⟨?_, fun _ => candidate_of_autoConfigure made hf⟩
    rw [(Config.IsFresh.of_autoConfigure made).explicit]
    exact hnone
  | file made =>
    obtain ⟨ha, he⟩ := autoConfigured_of_ofFile made
    refine ⟨?_, fun ht => ?_⟩
    · rw [he]
      exact hnone
    · rw [ha] at ht
      cases ht
  | @build b made _ built =>
    refine ⟨?_, fun ht => ?_⟩
    · rw [(Builder.honours_of_build made built).explicit]
      exact made.areSettable
    · by_cases hb : b.Discovers w
      · obtain ⟨base, hbase, happly⟩ := (Builder.build_eq_ok_of_discovers hb).mp built
        have fresh := Config.IsFresh.of_autoConfigure hbase
        have ho := Overrides.applied_of_apply made.areSettable fresh.explicit happly
        rw [Config.file, ho.currentContext made.areSettable] at hf
        exact candidate_of_autoConfigure hbase hf
      · rw [Builder.result_build_of_not_discovers hb, Traced.bind_eq_ok] at built
        obtain ⟨base, hbase, happly⟩ := built
        rw [empty, result_normalize] at hbase
        obtain ⟨_, url, algorithm, _, _, rfl⟩ := Config.normalize_eq_ok.mp hbase
        have ho := Overrides.applied_of_apply made.areSettable rfl happly
        rw [ho.autoConfigured made.areSettable] at ht
        cases ht

/-! ## Refreshing after the loss -/

/-- A configuration of one file stays as it is. -/
theorem refresh_of_lost_file {w : World} {c : Config} (manual : c.autoConfigured = false)
    (token : filled c.oauthToken = none) {file : Path} (hf : c.file = some file) {fault : ReadFault}
    (hr : w.fs.readText file.text = .error fault) (soft : fault.isOfFile = true) :
    (w.refresh c).result = .ok .unchanged := by
  have hl : (Discovery.load w.fs file.text).result = .ok none :=
    Discovery.load_eq_ok.mpr ⟨FileSystem.readObstacle?_of_isOfFile hr soft, by rw [hr]; rfl⟩
  rw [w.refresh_of_file manual token hf, refreshFile, Traced.result_bind_of_ok hl]
  rfl

theorem discover_needsNoContext_of_no_documents {w : World} {obstacle? : Option Obstacle}
    (h : w.documents.result = guarded obstacle? []) (context : Option String) :
    (w.discover context).NeedsNoContext := by
  cases obstacle? with
  | none => exact .of_guarded (result_discover_of_account h context) Obstacle.isUnknownContext_error
  | some obstacle =>
    intro e he
    unfold discover at he
    rw [Traced.result_bind, h] at he
    cases he
    exact obstacle.isUnknownContext_error

/-- Without documents discovery gives no current context, and fails for no want of one. -/
theorem autoConfigure_of_no_documents {w : World} (https : w.https.NeedsNoContext)
    {obstacle? : Option Obstacle} (h : w.documents.result = guarded obstacle? [])
    (context : Option String) : (w.autoConfigure context).NeedsNoContext ∧
      ∀ c, (w.autoConfigure context).result = .ok c → c.currentContext = none := by
  refine ⟨?_, fun c hc => ?_⟩
  · unfold autoConfigure
    exact .bind_of_ok rfl (.bind (discover_needsNoContext_of_no_documents h context) fun found _ =>
      .bind (finish_needsNoContext https found) fun c _ => .bind_of_ok rfl (.pure _))
  · obtain ⟨found, hd, hconf⟩ := configures_of_autoConfigure hc
    obtain ⟨docs, hdocs, _⟩ := Traced.bind_eq_ok.mp hd
    rw [h] at hdocs
    obtain ⟨clear, _⟩ := guarded_eq_ok.mp hdocs
    rw [clear] at h
    rw [hconf.currentContext]
    exact (discover_of_no_documents h hd).value .currentContext rfl

/-- An automatic configuration is made anew, or fails; either way its context is gone. -/
theorem refresh_of_no_documents {w : World} (https : w.https.NeedsNoContext)
    {obstacle? : Option Obstacle} (h : w.documents.result = guarded obstacle? []) {c : Config}
    (settable : c.explicit.fields.AreSettable) (auto : c.autoConfigured = true) (token : filled c.oauthToken = none) :
    (w.refresh c).result ≠ .ok .unchanged ∧
      ∀ d, (w.refresh c).result = .ok (.replaced d) → d.currentContext = none := by
  obtain ⟨hneeds, hcontext⟩ := autoConfigure_of_no_documents https h c.currentContextName
  rw [w.refresh_of_autoConfigured auto token, refreshAuto, result_renew]
  cases hm : (w.autoConfigure c.currentContextName).result with
  | error e =>
    dsimp only
    rw [hneeds e hm, if_neg (by decide)]
    refine ⟨fun hu => ?_, fun d hd => ?_⟩
    · cases hu
    · cases hd
  | ok base =>
    dsimp only
    rw [pure_bind]
    cases ha : (c.explicit.apply w.https w.fs (some w.probe) base).result with
    | error e =>
      refine ⟨fun hu => ?_, fun d hd => ?_⟩
      · cases hu
      · cases hd
    | ok made =>
      refine ⟨fun hu => ?_, fun d hd => ?_⟩
      · cases hu
      · cases hd
        have fresh := Config.IsFresh.of_autoConfigure hm
        have ho := Overrides.applied_of_apply settable fresh.explicit ha
        rw [ho.currentContext settable]
        exact hcontext base hm

/-- With its file lost, a configuration stays as it is exactly if it was not made automatically. What a
refresh makes of any other has no current context any more. -/
theorem refresh_of_lost_source {w later : World} {c : Config} (made : w.Makes c) {file : Path}
    (hf : c.file = some file) (token : filled c.oauthToken = none) (lost : w.Loses later file)
    (https : later.https.NeedsNoContext) :
    ((later.refresh c).result = .ok .unchanged ↔ c.autoConfigured = false) ∧
      ∀ d, (later.refresh c).result = .ok (.replaced d) → d.currentContext = none := by
  have origin := made.hasOrigin hf
  obtain ⟨fault, hr, soft⟩ := lost.unreadable file.text (Or.inl rfl)
  cases auto : c.autoConfigured with
  | false =>
    have hu := refresh_of_lost_file auto token hf hr soft
    refine ⟨⟨fun _ => rfl, fun _ => hu⟩, fun d hd => ?_⟩
    rw [hu] at hd
    cases hd
  | true =>
    obtain ⟨name, hn, ha⟩ := origin.candidate auto
    obtain ⟨hne, hcontext⟩ :=
      refresh_of_no_documents https (lost.documents hn ha) origin.settable auto token
    refine ⟨⟨fun hu => absurd hu hne, fun ht => ?_⟩, hcontext⟩
    cases ht

/-- A kubeconfig with one context, at the default place. -/
def sampleFiles : List (String × String) :=
  [("/home/user/.kube/config", "\"contexts\":\n- \"name\": \"a\"\n\"current-context\": \"a\"\n")]

/-- Made automatically, with its file removed: not as it was. -/
theorem refresh_of_lost_source_sample : ∃ c,
    ((World.sample [] sampleFiles).autoConfigure none).result = .ok c ∧ c.autoConfigured = true ∧
      ((World.sample [] []).refresh c).result ≠ .ok .unchanged := by
  obtain ⟨c, hc, hf⟩ := except_ok_of_map (show ((World.sample [] sampleFiles).autoConfigure
    none).result.toOption.map Config.file =
      some (some ⟨.slash, ["home", "user", ".kube", "config"]⟩) by decide +kernel)
  have lost : (World.sample [] sampleFiles).Loses (.sample [] [])
      ⟨.slash, ["home", "user", ".kube", "config"]⟩ :=
    ⟨rfl, rfl, rfl, fun name _ => ⟨.missing name, rfl, rfl⟩⟩
  obtain ⟨found, finished, _, _, rfl⟩ := autoConfigure_eq_ok.mp hc
  have token := (Config.IsFresh.of_autoConfigure hc).oauthToken
  refine ⟨_, hc, rfl, fun hu => ?_⟩
  have hl := refresh_of_lost_source (.auto hc) hf (by rw [token]; rfl) lost
    (fun c => .pure true)
  cases hl.1.mp hu

end World

end ClusterAccess
