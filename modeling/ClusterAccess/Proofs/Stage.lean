import ClusterAccess.Proofs.Outcome
import ClusterAccess.Resolve

/-!
# What each stage gives

One lemma for each stage between discovery and a finished configuration: when the stage succeeds, and
which configuration comes out of it. Normal form touches the master URL and the key's algorithm only;
options and explicit values are read off field by field.
-/
namespace ClusterAccess

/-- Fields that normal form settles. -/
def Field.isSettled : Field → Bool
  | .masterUrl | .clientKeyAlgorithm => true
  | _ => false

namespace Config

@[simp] theorem explicit_set (c : Config) (f : Field) (v : f.Value) :
    (c.set f v).explicit = c.explicit := rfl

@[simp] theorem autoToken_set (c : Config) (f : Field) (v : f.Value) :
    (c.set f v).autoToken = c.autoToken := rfl

/-! ## Normal form -/

/-- The URL in normal form is the URL with a scheme and one slash at its end. The check says which scheme it
is, and is asked only if the URL has none. -/
theorem exists_answer_of_normalUrl {c : Config} {https : TlsCheck} {url : String}
    (h : (c.normalUrl https).result = .ok url) : ∃ available,
      (MasterUrl.hasScheme c.masterUrl = false → (https c).result = .ok available) ∧
        MasterUrl.ensureTrailingSlash (MasterUrl.ensureScheme c.masterUrl available) = url := by
  unfold normalUrl at h
  by_cases hs : MasterUrl.hasScheme c.masterUrl = true
  · rw [if_pos hs] at h
    refine ⟨true, fun bare => absurd hs (Bool.eq_false_iff.mp bare), ?_⟩
    rw [MasterUrl.ensureScheme, if_pos hs]
    exact Except.ok.inj h
  · rw [if_neg hs] at h
    obtain ⟨available, said, ha⟩ := Traced.bind_eq_ok.mp h
    exact ⟨available, fun _ => said, Except.ok.inj ha⟩

theorem normalUrl_eq_ok {c : Config} {https : TlsCheck} {url : String}
    (h : (c.normalUrl https).result = .ok url) :
    ∃ available, MasterUrl.ensureTrailingSlash (MasterUrl.ensureScheme c.masterUrl available) = url := by
  obtain ⟨available, _, hu⟩ := exists_answer_of_normalUrl h
  exact ⟨available, hu⟩

/-- The algorithm is the one that is asked for, and only without one the key is looked at. -/
theorem keyAlgorithm_eq_ok {c : Config} {fs : FileSystem} {probe? : Option Probe}
    {algorithm : Option KeyAlgorithm} :
    (c.keyAlgorithm fs probe?).result = .ok algorithm ↔
      ∃ forced, forcedAlgorithm probe? = .ok forced ∧
        (forced = none → ClientKey.obstacle? fs c.clientKeyFile c.clientKeyData = none) ∧
        forced.or (ClientKey.shown fs c.clientKeyFile c.clientKeyData) = algorithm := by
  unfold keyAlgorithm
  rw [Traced.bind_eq_ok]
  refine exists_congr fun forced => and_congr_right fun _ => ?_
  cases forced with
  | some a => simp
  | none => simp [guarded_eq_ok]

/-- A configuration with its master URL and the algorithm of its key settled. -/
def settled (c : Config) (url : String) (algorithm : Option KeyAlgorithm) : Config :=
  (c.set .masterUrl url).set .clientKeyAlgorithm algorithm

theorem value_settled (c : Config) (url : String) (algorithm : Option KeyAlgorithm) {f : Field}
    (hf : f.isSettled = false) : (c.settled url algorithm).value f = c.value f := by
  have hu : Field.masterUrl ≠ f := by
    rintro rfl
    cases hf
  have ha : Field.clientKeyAlgorithm ≠ f := by
    rintro rfl
    cases hf
  rw [settled, value_set_of_ne _ ha, value_set_of_ne _ hu]

@[simp] theorem masterUrl_settled (c : Config) (url : String) (algorithm : Option KeyAlgorithm) :
    (c.settled url algorithm).masterUrl = url := by
  rw [masterUrl, settled, value_set_of_ne _ (by decide), value_set_self]

@[simp] theorem algorithm_settled (c : Config) (url : String) (algorithm : Option KeyAlgorithm) :
    (c.settled url algorithm).value .clientKeyAlgorithm = algorithm := value_set_self _ _ _

@[simp] theorem clientKeyFile_settled (c : Config) (url : String) (algorithm : Option KeyAlgorithm) :
    (c.settled url algorithm).clientKeyFile = c.clientKeyFile :=
  value_settled c url algorithm rfl

@[simp] theorem clientKeyData_settled (c : Config) (url : String) (algorithm : Option KeyAlgorithm) :
    (c.settled url algorithm).clientKeyData = c.clientKeyData :=
  value_settled c url algorithm rfl

@[simp] theorem explicit_settled (c : Config) (url : String) (algorithm : Option KeyAlgorithm) :
    (c.settled url algorithm).explicit = c.explicit := rfl

@[simp] theorem autoToken_settled (c : Config) (url : String) (algorithm : Option KeyAlgorithm) :
    (c.settled url algorithm).autoToken = c.autoToken := rfl

/-- Normal form changes nothing but the master URL and the algorithm of the key. -/
theorem normalize_eq_ok {c d : Config} {https : TlsCheck} {fs : FileSystem} {probe? : Option Probe} :
    (c.normalize https fs probe?).result = .ok d ↔
      c.masterUrl ≠ "" ∧ ∃ url algorithm, (c.normalUrl https).result = .ok url ∧
        (c.keyAlgorithm fs probe?).result = .ok algorithm ∧ c.settled url algorithm = d := by
  unfold normalize
  by_cases hm : c.masterUrl = ""
  · simp [hm]
  · rw [if_neg hm, Traced.bind_eq_ok]
    constructor
    · rintro ⟨url, hu, h⟩
      obtain ⟨algorithm, ha, h⟩ := Traced.bind_eq_ok.mp h
      exact ⟨hm, url, algorithm, hu, ha, Except.ok.inj h⟩
    · rintro ⟨_, url, algorithm, hu, ha, rfl⟩
      exact ⟨url, hu, Traced.bind_eq_ok.mpr ⟨algorithm, ha, rfl⟩⟩

/-- Why a configuration has no normal form: it has no URL, the check for an open scheme fails, the option
of the key algorithm cannot be read, or without that option the key's path is none that a file can have. -/
inductive Unsettled (c : Config) (https : TlsCheck) (fs : FileSystem) (probe? : Option Probe) :
    Error → Prop where
  | noMasterUrl (empty : c.masterUrl = "") : Unsettled c https fs probe? .noMasterUrl
  | check {e : Error} (given : c.masterUrl ≠ "") (bare : MasterUrl.hasScheme c.masterUrl = false)
      (fails : (https c).result = .error e) : Unsettled c https fs probe? e
  | keyAlgorithm {url : String} {e : Error} (given : c.masterUrl ≠ "")
      (settles : (c.normalUrl https).result = .ok url) (invalid : forcedAlgorithm probe? = .error e) :
      Unsettled c https fs probe? e
  | keyFile {url : String} {fault : ReadFault} (given : c.masterUrl ≠ "")
      (settles : (c.normalUrl https).result = .ok url) (unforced : forcedAlgorithm probe? = .ok none)
      (blocked : ClientKey.obstacle? fs c.clientKeyFile c.clientKeyData = some (.file fault)) :
      Unsettled c https fs probe? (.unreadable fault)

theorem normalUrl_eq_error {c : Config} {https : TlsCheck} {e : Error} :
    (c.normalUrl https).result = .error e ↔
      MasterUrl.hasScheme c.masterUrl = false ∧ (https c).result = .error e := by
  unfold normalUrl
  cases MasterUrl.hasScheme c.masterUrl with
  | true => simp
  | false =>
    rw [if_neg Bool.false_ne_true, Traced.bind_eq_error]
    simp

theorem keyAlgorithm_eq_error {c : Config} {fs : FileSystem} {probe? : Option Probe} {e : Error} :
    (c.keyAlgorithm fs probe?).result = .error e ↔ forcedAlgorithm probe? = .error e ∨
      forcedAlgorithm probe? = .ok none ∧ ∃ fault,
        ClientKey.obstacle? fs c.clientKeyFile c.clientKeyData = some (.file fault) ∧ e = .unreadable fault := by
  unfold keyAlgorithm
  rw [Traced.bind_eq_error, Traced.result_ofExcept]
  refine or_congr_right ?_
  constructor
  · rintro ⟨forced, hf, h⟩
    cases forced with
    | some a => simp at h
    | none =>
      obtain ⟨obstacle, blocked, rfl⟩ := guarded_eq_error.mp ((ClientKey.result_algorithm fs _ _).symm.trans h)
      obtain ⟨fault, rfl⟩ := ClientKey.exists_of_obstacle? blocked
      exact ⟨hf, fault, blocked, rfl⟩
  · rintro ⟨hf, fault, blocked, rfl⟩
    exact ⟨none, hf, (ClientKey.result_algorithm fs _ _).trans (guarded_eq_error.mpr ⟨_, blocked, rfl⟩)⟩

theorem normalize_eq_error {c : Config} {https : TlsCheck} {fs : FileSystem} {probe? : Option Probe}
    {e : Error} : (c.normalize https fs probe?).result = .error e ↔ c.Unsettled https fs probe? e := by
  unfold normalize
  by_cases hm : c.masterUrl = ""
  · rw [if_pos hm]
    constructor
    · intro h
      cases h
      exact .noMasterUrl hm
    · intro h
      cases h with
      | noMasterUrl => rfl
      | check given => exact absurd hm given
      | keyAlgorithm given => exact absurd hm given
      | keyFile given => exact absurd hm given
  · rw [if_neg hm, Traced.bind_eq_error]
    constructor
    · rintro (hu | ⟨url, hu, h⟩)
      · obtain ⟨bare, fails⟩ := normalUrl_eq_error.mp hu
        exact .check hm bare fails
      · rcases Traced.bind_eq_error.mp h with ha | ⟨algorithm, _, ha⟩
        · rcases keyAlgorithm_eq_error.mp ha with invalid | ⟨unforced, fault, blocked, rfl⟩
          · exact .keyAlgorithm hm hu invalid
          · exact .keyFile hm hu unforced blocked
        · cases ha
    · intro h
      cases h with
      | noMasterUrl empty => exact absurd empty hm
      | check _ bare fails => exact .inl (normalUrl_eq_error.mpr ⟨bare, fails⟩)
      | keyAlgorithm _ settles invalid =>
        have ha : (c.keyAlgorithm fs probe?).result = .error e := keyAlgorithm_eq_error.mpr (.inl invalid)
        exact .inr ⟨_, settles, Traced.bind_eq_error.mpr (.inl ha)⟩
      | @keyFile _ fault _ settles unforced blocked =>
        have ha : (c.keyAlgorithm fs probe?).result = .error (.unreadable fault) :=
          keyAlgorithm_eq_error.mpr (.inr ⟨unforced, fault, blocked, rfl⟩)
        exact .inr ⟨_, settles, Traced.bind_eq_error.mpr (.inl ha)⟩

/-- The algorithm of the key is the one asked for, else the one that the key shows. -/
def HasKeyAlgorithm (c : Config) (fs : FileSystem) (forced : Option KeyAlgorithm) : Prop :=
  c.value .clientKeyAlgorithm = forced.or (ClientKey.shown fs c.clientKeyFile c.clientKeyData)

theorem hasKeyAlgorithm_normalize {c d : Config} {https : TlsCheck} {fs : FileSystem}
    {probe? : Option Probe} {forced : Option KeyAlgorithm} (hf : forcedAlgorithm probe? = .ok forced)
    (h : (c.normalize https fs probe?).result = .ok d) : d.HasKeyAlgorithm fs forced := by
  obtain ⟨_, url, algorithm, _, ha, rfl⟩ := normalize_eq_ok.mp h
  obtain ⟨forced', hf', -, rfl⟩ := keyAlgorithm_eq_ok.mp ha
  rw [hf] at hf'
  cases hf'
  rw [HasKeyAlgorithm, algorithm_settled, clientKeyFile_settled, clientKeyData_settled]

end Config

/-! ## Options -/

theorem Changes.value?_of_isEmpty {c : Changes} (h : c.isEmpty = true) (f : Field) :
    c.value? f = .none := by
  have hf := List.all_eq_true.mp h f f.mem_all
  simpa using hf

theorem RequestChanges.value?_of_isEmpty {c : RequestChanges} (h : c.isEmpty = true) (g : RequestField) :
    c.value? g = .none := by
  have hg := List.all_eq_true.mp h g g.mem_all
  simpa using hg

namespace Options

theorem result_apply_of_wellFormed {p : Probe} (h : fault? p = none) (c : Config) :
    (apply p c).result = .ok (overlay p c) := by
  unfold apply
  rw [h]
  dsimp only
  rw [apply_ite Traced.result, Traced.result_debug_bind, ite_self]
  rfl

theorem result_apply_of_fault {p : Probe} {e : Error} (h : fault? p = some e) (c : Config) :
    (apply p c).result = .error e := by
  unfold apply
  rw [h]
  rfl

theorem apply_eq_ok {p : Probe} {c d : Config} :
    (apply p c).result = .ok d ↔ fault? p = none ∧ overlay p c = d := by
  cases h : fault? p with
  | some e => simp [result_apply_of_fault h]
  | none => simp [result_apply_of_wellFormed h]

@[simp] theorem value_overlay (p : Probe) (c : Config) (f : Field) :
    (overlay p c).value f = ((changes p c).value? f).getD (c.value f) := by
  unfold overlay
  cases p.get? oauthToken <;> rfl

/-- A configuration without a URL keeps being so unless an option gives one. -/
theorem masterUrl_overlay_eq_empty_iff {p : Probe} {c : Config} :
    (overlay p c).masterUrl = "" ↔ p.get? masterUrl = none ∧ c.masterUrl = "" := by
  rw [Config.masterUrl, value_overlay]
  show (p.get? masterUrl).getD c.masterUrl = "" ↔ _
  cases present : p.get? masterUrl with
  | none => simp
  | some url => simpa using Probe.get?_ne_empty present

@[simp] theorem autoToken_overlay (p : Probe) (c : Config) :
    (overlay p c).autoToken = (p.get? oauthToken).or c.autoToken := by
  unfold overlay
  cases p.get? oauthToken <;> rfl

@[simp] theorem explicit_overlay (p : Probe) (c : Config) : (overlay p c).explicit = c.explicit := by
  unfold overlay
  cases p.get? oauthToken <;> rfl

/-- Settings of the request policy are replaced one by one. -/
theorem request_overlay (p : Probe) (c : Config) (g : RequestField) :
    (overlay p c).request.value g = ((requestChanges p).value? g).getD (c.request.value g) := by
  have hc : (changes p c).value? .request =
      if (requestChanges p).isEmpty then none else some (c.request.change (requestChanges p)) := rfl
  rw [Config.request, value_overlay, hc]
  by_cases he : (requestChanges p).isEmpty = true
  · rw [if_pos he, RequestChanges.value?_of_isEmpty he]
    rfl
  · rw [if_neg he]
    rfl

theorem faultOf_eq_none {α : Type} {x : Except Error α} (h : faultOf x = none) : ∃ a, x = .ok a := by
  cases x with
  | ok a => exact ⟨a, rfl⟩
  | error e => cases h

theorem reading_eq_none {p : Probe} (h : fault? p = none) {r : Option Error} (hr : r ∈ readings p) :
    r = none := by
  rw [fault?, List.findSome?_eq_none_iff] at h
  exact h r hr

/-- Options that are all well-formed are read as they are; none is passed over. -/
theorem fieldValue?_of_wellFormed {p : Probe} (h : fault? p = none) (f : Field) :
    fieldValue? p f = .ok (given? p f) := by
  have hf : ∃ v, fieldValue? p f = .ok v := by
    cases f
    case connectionTimeout => exact faultOf_eq_none (reading_eq_none h (by simp [readings]))
    case websocketPingInterval => exact faultOf_eq_none (reading_eq_none h (by simp [readings]))
    case maxConcurrentRequests => exact faultOf_eq_none (reading_eq_none h (by simp [readings]))
    case maxConcurrentRequestsPerHost => exact faultOf_eq_none (reading_eq_none h (by simp [readings]))
    case tlsVersions => exact faultOf_eq_none (reading_eq_none h (by simp [readings]))
    all_goals exact ⟨_, rfl⟩
  obtain ⟨v, hv⟩ := hf
  rw [given?, hv]
  rfl

theorem requestValue?_of_wellFormed {p : Probe} (h : fault? p = none) (g : RequestField) :
    requestValue? p g = .ok ((requestChanges p).value? g) := by
  have hm : faultOf (requestValue? p g) ∈ readings p := by
    cases g <;> simp [readings]
  obtain ⟨v, hv⟩ := faultOf_eq_none (reading_eq_none h hm)
  have hg : (requestChanges p).value? g = (requestValue? p g).toOption.join := rfl
  rw [hg, hv]
  rfl

end Options

/-! ## Automatic configuration -/

@[simp] theorem Stage.result_reach (s : Stage) : s.reach.result = .ok () := rfl

/-- The record of a stage does not count for the result. -/
@[simp] theorem Stage.result_reach_bind {α : Type} (s : Stage) (f : Unit → Traced α) :
    (s.reach >>= f).result = (f ()).result := Traced.result_bind_of_ok rfl f

namespace World

/-- Normal form with the check and the files of the surroundings. -/
theorem result_normalize (w : World) (c : Config) (useProbe : Bool) :
    (w.normalize c useProbe).result =
      (c.normalize w.https w.fs (if useProbe then some w.probe else none)).result := by
  unfold normalize
  rw [Traced.result_bind]
  cases (c.normalize w.https w.fs (if useProbe then some w.probe else none)).result with
  | error e => rfl
  | ok d => simp [Except.bind, Except.map]

/-! The steps of a stage, in the order in which they are made. -/

theorem result_finish (w : World) (c : Config) : (w.finish c).result =
    (Options.apply w.probe c).result.bind fun d =>
      (d.normalize w.https w.fs (some w.probe)).result := by
  unfold finish
  rw [Traced.result_bind]
  simp only [Stage.result_reach_bind, result_normalize, if_true]

theorem result_autoConfigure (w : World) (context : Option String) : (w.autoConfigure context).result =
    (w.discover context).result.bind fun c =>
      (w.finish c).result.map fun d => d.set .autoConfigured true := by
  unfold autoConfigure
  rw [Stage.result_reach_bind, Traced.result_bind]
  refine except_bind_congr fun c _ => ?_
  rw [Traced.result_bind]
  cases (w.finish c).result <;> rfl

theorem result_ofDocument (w : World) (context : Option String) (doc : Kubeconfig) :
    (w.ofDocument context doc).result =
      (Merge.documents w.fs context [doc] .default).result.bind fun c =>
        (c.normalize w.https w.fs none).result := by
  unfold ofDocument
  rw [Traced.result_bind]
  refine except_bind_congr fun c _ => ?_
  rw [Stage.result_reach_bind, Traced.result_bind, result_normalize, if_neg Bool.false_ne_true]
  cases (c.normalize w.https w.fs none).result <;> rfl

theorem result_ofFile (w : World) (path : Path) (context : Option String) :
    (w.ofFile path context).result =
      (Kubeconfig.read w.fs path).bind fun doc => (w.ofDocument context doc).result :=
  Traced.result_bind _ _

/-! When a stage succeeds. -/

/-- Options over a configuration and then its normal form. -/
theorem finish_eq_ok {w : World} {c d : Config} :
    (w.finish c).result = .ok d ↔ Options.fault? w.probe = none ∧
      ((Options.overlay w.probe c).normalize w.https w.fs (some w.probe)).result = .ok d := by
  unfold finish
  rw [Traced.bind_eq_ok]
  constructor
  · rintro ⟨e, he, h⟩
    obtain ⟨hf, rfl⟩ := Options.apply_eq_ok.mp he
    rw [Stage.result_reach_bind, result_normalize] at h
    exact ⟨hf, h⟩
  · rintro ⟨hf, h⟩
    refine ⟨_, Options.apply_eq_ok.mpr ⟨hf, rfl⟩, ?_⟩
    rw [Stage.result_reach_bind, result_normalize]
    exact h

theorem finish_settled {w : World} {c d : Config} (h : (w.finish c).result = .ok d) :
    ∃ url algorithm, (Options.overlay w.probe c).settled url algorithm = d := by
  obtain ⟨_, hn⟩ := finish_eq_ok.mp h
  obtain ⟨_, url, algorithm, _, _, hd⟩ := Config.normalize_eq_ok.mp hn
  exact ⟨url, algorithm, hd⟩

/-- Outside of the normal form, finishing lays options over a configuration and does nothing else. -/
theorem value_of_finish {w : World} {c d : Config} (h : (w.finish c).result = .ok d) {f : Field}
    (hf : f.isSettled = false) : d.value f = (Options.overlay w.probe c).value f := by
  obtain ⟨url, algorithm, rfl⟩ := finish_settled h
  exact Config.value_settled _ url algorithm hf

theorem explicit_of_finish {w : World} {c d : Config} (h : (w.finish c).result = .ok d) :
    d.explicit = c.explicit := by
  obtain ⟨url, algorithm, rfl⟩ := finish_settled h
  rw [Config.explicit_settled, Options.explicit_overlay]

theorem autoToken_of_finish {w : World} {c d : Config} (h : (w.finish c).result = .ok d) :
    d.autoToken = (w.probe.get? Options.oauthToken).or c.autoToken := by
  obtain ⟨url, algorithm, rfl⟩ := finish_settled h
  rw [Config.autoToken_settled, Options.autoToken_overlay]

theorem hasKeyAlgorithm_of_finish {w : World} {c d : Config} (h : (w.finish c).result = .ok d) :
    ∃ forced, w.probe.keyAlgorithm? = .ok forced ∧ d.HasKeyAlgorithm w.fs forced := by
  obtain ⟨_, hn⟩ := finish_eq_ok.mp h
  obtain ⟨_, _, _, _, ha, _⟩ := Config.normalize_eq_ok.mp hn
  obtain ⟨forced, hf, _⟩ := Config.keyAlgorithm_eq_ok.mp ha
  exact ⟨forced, hf, Config.hasKeyAlgorithm_normalize hf hn⟩

/-- The stages of a configuration that is made of the surroundings. -/
theorem autoConfigure_eq_ok {w : World} {context : Option String} {c : Config} :
    (w.autoConfigure context).result = .ok c ↔ ∃ found finished,
      (w.discover context).result = .ok found ∧ (w.finish found).result = .ok finished ∧
        finished.set .autoConfigured true = c := by
  unfold autoConfigure
  rw [Stage.result_reach_bind, Traced.bind_eq_ok]
  constructor
  · rintro ⟨found, hd, h⟩
    obtain ⟨finished, hf, h⟩ := Traced.bind_eq_ok.mp h
    rw [Stage.result_reach_bind] at h
    exact ⟨found, finished, hd, hf, Except.ok.inj h⟩
  · rintro ⟨found, finished, hd, hf, rfl⟩
    refine ⟨found, hd, Traced.bind_eq_ok.mpr ⟨finished, hf, ?_⟩⟩
    rw [Stage.result_reach_bind]
    rfl

/-- The stages of a configuration that is made of one document. -/
theorem ofDocument_eq_ok {w : World} {context : Option String} {doc : Kubeconfig} {c : Config} :
    (w.ofDocument context doc).result = .ok c ↔ ∃ merged,
      (Merge.documents w.fs context [doc] .default).result = .ok merged ∧
        (merged.normalize w.https w.fs none).result = .ok c := by
  unfold ofDocument
  rw [Traced.bind_eq_ok]
  constructor
  · rintro ⟨merged, hm, h⟩
    rw [Stage.result_reach_bind] at h
    obtain ⟨d, hn, h⟩ := Traced.bind_eq_ok.mp h
    rw [Stage.result_reach_bind] at h
    cases h
    rw [result_normalize] at hn
    exact ⟨merged, hm, hn⟩
  · rintro ⟨merged, hm, hn⟩
    refine ⟨merged, hm, ?_⟩
    rw [Stage.result_reach_bind, Traced.bind_eq_ok]
    refine ⟨c, ?_, ?_⟩
    · rw [result_normalize]
      exact hn
    · rw [Stage.result_reach_bind]
      rfl

end World

end ClusterAccess
