import ClusterAccess.Proofs.Discovered
import ClusterAccess.Proofs.Explicit

/-!
# The source of a configuration without documents

Without documents there are four things to find: the address of the pod, its CA bundle, its token, and its
namespace. The first three are looked for in one step, which writes down that the service account is the
source. The namespace is looked for in a step of its own, which does not.
-/
namespace ClusterAccess

namespace ServiceAccount

/-- What may be found without documents. -/
inductive Finding where
  | address
  | caFile
  | token
  | namespaceName
  deriving DecidableEq

/-- It is there to be found: the options do not forbid to look, and what they name is there. -/
def Finds (p : Probe) (fs : FileSystem) : Finding → Prop
  | .address => (∃ host, p.get? Options.serviceHost = some host) ∧ ∃ port, p.get? Options.servicePort = some port
  | .caFile => p.getTruth Options.tryServiceAccount true = true ∧
      fs.isFile (p.getD Options.caCertFile caPath) = true
  | .token => p.getTruth Options.tryServiceAccount true = true ∧ ∃ text, tokenText p fs = some text
  | .namespaceName => p.getTruth Options.tryNamespacePath true = true ∧
      ∃ text, fs.fileText (p.getD Options.namespaceFile namespacePath) = some text

/-- Of all that may be found the namespace is there, and nothing else. -/
def FindsOnlyNamespace (p : Probe) (fs : FileSystem) : Prop := ∀ f, Finds p fs f ↔ f = .namespaceName

variable {p : Probe} {fs : FileSystem}

theorem isSome_masterUrl?_iff : (masterUrl? p).isSome = true ↔ Finds p fs .address := by
  unfold masterUrl? Finds
  cases p.get? Options.serviceHost with
  | none => simp
  | some host => cases p.get? Options.servicePort <;> simp

theorem isSome_caFile_iff : (caFile p fs).isSome = true ↔ Finds p fs .caFile := by
  unfold caFile Finds
  split
  · next found => simpa using found
  · next missing => simpa using missing

theorem isSome_token_iff : (token p fs).isSome = true ↔ Finds p fs .token := by
  unfold token Finds
  split
  · next allowed => simp [allowed, Option.isSome_iff_exists]
  · next forbidden => simp [forbidden]

theorem isSome_namespaceText_iff : (namespaceText p fs).isSome = true ↔ Finds p fs .namespaceName := by
  unfold namespaceText Finds
  split
  · next allowed => simp [allowed, Option.isSome_iff_exists]
  · next forbidden => simp [forbidden]

/-- The first step finds something exactly if address, CA bundle or token is there. -/
theorem isEmpty_offered_eq_false_iff :
    (offered p fs).isEmpty = false ↔ ∃ f, f ≠ .namespaceName ∧ Finds p fs f := by
  have parts : (offered p fs).isEmpty = false ↔
      Finds p fs .address ∨ Finds p fs .caFile ∨ Finds p fs .token := by
    rw [← isSome_masterUrl?_iff, ← isSome_caFile_iff, ← isSome_token_iff, Findings.isEmpty, offered]
    cases masterUrl? p <;> cases caFile p fs <;> cases token p fs <;> simp
  rw [parts]
  constructor
  · rintro (address | ca | token)
    · exact ⟨.address, nofun, address⟩
    · exact ⟨.caFile, nofun, ca⟩
    · exact ⟨.token, nofun, token⟩
  · rintro ⟨f, hf, finds⟩
    cases f with
    | address => exact .inl finds
    | caFile => exact .inr (.inl finds)
    | token => exact .inr (.inr finds)
    | namespaceName => exact absurd rfl hf

theorem findsOnlyNamespace_iff : FindsOnlyNamespace p fs ↔
    (∃ f, Finds p fs f) ∧ ¬ ∃ f, f ≠ .namespaceName ∧ Finds p fs f := by
  constructor
  · exact fun only => ⟨⟨.namespaceName, (only _).mpr rfl⟩, fun ⟨f, other, finds⟩ => other ((only f).mp finds)⟩
  · rintro ⟨⟨f, finds⟩, nothing⟩
    have only : ∀ g, Finds p fs g → g = .namespaceName := fun g hg =>
      Decidable.byContradiction fun other => nothing ⟨g, other, hg⟩
    refine fun g => ⟨only g, ?_⟩
    rintro rfl
    rw [← only f finds]
    exact finds

/-! ## The two steps -/

theorem Findings.apply_of_isEmpty {found : Findings} (h : found.isEmpty = true) (c : Config) :
    found.apply c = c := by
  obtain ⟨address, ca, token⟩ := found
  simp only [isEmpty, Bool.and_eq_true, Option.isNone_iff_eq_none] at h
  obtain ⟨⟨rfl, rfl⟩, rfl⟩ := h
  refine Config.ext (fun f => ?_) rfl rfl
  rw [value_apply]
  cases f <;> rfl

theorem source_inNamespace (name : Option String) (c : Config) : (inNamespace name c).source = c.source :=
  (inNamespace_differsOnly name c).value .source rfl

theorem inNamespace_eq_default_iff {name : Option String} :
    inNamespace name .default = .default ↔ name = none := by
  refine ⟨fun h => ?_, fun h => by rw [h]; rfl⟩
  cases name with
  | none => rfl
  | some name =>
    have value : (some name : Option String) = none := congrArg (·.value .namespaceName) h
    cases value

end ServiceAccount

namespace World

open ServiceAccount

variable {w : World}

theorem source_accountConfig : w.accountConfig.source =
    if (offered w.probe w.fs).isEmpty then .defaults else .serviceAccount := by
  rw [accountConfig, source_inNamespace, Findings.source_apply]
  rfl

theorem source_accountConfig_eq_serviceAccount_iff :
    w.accountConfig.source = .serviceAccount ↔ ∃ f, f ≠ .namespaceName ∧ Finds w.probe w.fs f := by
  rw [source_accountConfig, ← isEmpty_offered_eq_false_iff]
  cases (offered w.probe w.fs).isEmpty <;> simp

/-- If the source is not written down, nothing but the namespace was found. -/
theorem accountConfig_of_source_ne (h : w.accountConfig.source ≠ .serviceAccount) :
    w.accountConfig.source = .defaults ∧
      w.accountConfig = inNamespace (namespaceText w.probe w.fs) .default := by
  have empty : (offered w.probe w.fs).isEmpty = true := by
    cases some : (offered w.probe w.fs).isEmpty with
    | true => rfl
    | false => exact absurd (source_accountConfig.trans (if_neg (by rw [some]; exact Bool.false_ne_true))) h
  exact ⟨source_accountConfig.trans (if_pos empty), by rw [accountConfig, Findings.apply_of_isEmpty empty]⟩

theorem accountConfig_eq_default_iff :
    w.accountConfig = .default ↔ ∀ f, ¬ Finds w.probe w.fs f := by
  constructor
  · intro blank f finds
    have unwritten : w.accountConfig.source ≠ .serviceAccount := by
      rw [blank]
      exact Source.noConfusion
    have unnamed : namespaceText w.probe w.fs = none := by
      rw [(accountConfig_of_source_ne unwritten).2] at blank
      exact inNamespace_eq_default_iff.mp blank
    -- The namespace leaves no mark in the source, so its absence is seen in the configuration itself.
    by_cases hf : f = .namespaceName
    · have named := isSome_namespaceText_iff.mpr (hf ▸ finds)
      rw [unnamed] at named
      cases named
    · exact unwritten (source_accountConfig_eq_serviceAccount_iff.mpr ⟨f, hf, finds⟩)
  · intro nothing
    have unwritten : w.accountConfig.source ≠ .serviceAccount := fun written =>
      let ⟨f, _, finds⟩ := source_accountConfig_eq_serviceAccount_iff.mp written
      nothing f finds
    rw [(accountConfig_of_source_ne unwritten).2, inNamespace_eq_default_iff,
      ← Option.not_isSome_iff_eq_none, isSome_namespaceText_iff]
    exact nothing .namespaceName

theorem source_of_autoConfigure {context : Option String} {found c : Config}
    (discovers : (w.discover context).result = .ok found) (h : (w.autoConfigure context).result = .ok c) :
    c.source = found.source := by
  obtain ⟨found', hd, configures⟩ := configures_of_autoConfigure h
  rw [discovers] at hd
  cases hd
  rw [Config.source, configures.value .source rfl (by decide), Options.value_overlay]
  rfl

/-- The two steps fail only for a file of the pod that cannot be asked. They leave the service account as the
source exactly if address, CA bundle or token was found.
Otherwise the source stays the defaults, and the configuration is the defaults but for the namespace that was
found. So the source tells whether anything was found exactly if that is not the namespace alone. Without
documents this is what discovery gives, and every configuration has the source that it leaves. -/
theorem source_of_account (w : World) :
    (ServiceAccount.apply w.probe w.fs .default >>= applyNamespace w.probe w.fs).result =
      guarded w.accountObstacle? w.accountConfig ∧
    (w.accountConfig.source = .serviceAccount ↔ ∃ f, f ≠ .namespaceName ∧ Finds w.probe w.fs f) ∧
    (w.accountConfig.source ≠ .serviceAccount → w.accountConfig.source = .defaults ∧
      w.accountConfig = inNamespace (namespaceText w.probe w.fs) .default) ∧
    (w.accountConfig = .default ↔ ∀ f, ¬ Finds w.probe w.fs f) ∧
    ((w.accountConfig.source = .serviceAccount ↔ ∃ f, Finds w.probe w.fs f) ↔
      ¬ FindsOnlyNamespace w.probe w.fs) ∧
    (w.documents.result = .ok [] → ∀ context,
      (w.discover context).result = guarded w.accountObstacle? w.accountConfig ∧
      ∀ c, (w.autoConfigure context).result = .ok c → c.source = w.accountConfig.source) := by
  refine ⟨result_accountSteps w,
    source_accountConfig_eq_serviceAccount_iff, accountConfig_of_source_ne, accountConfig_eq_default_iff,
    ?_, fun account context => ⟨result_discover_of_account account context, fun c => ?_⟩⟩
  · rw [source_accountConfig_eq_serviceAccount_iff, findsOnlyNamespace_iff]
    refine ⟨fun tells ⟨found, nothing⟩ => nothing (tells.mpr found), fun more => ?_⟩
    exact ⟨fun ⟨f, _, finds⟩ => ⟨f, finds⟩, fun found => Classical.byContradiction fun nothing =>
      more ⟨found, nothing⟩⟩
  · intro made
    obtain ⟨found, hd, _⟩ := configures_of_autoConfigure made
    rw [accountConfig_of_discover account hd]
    exact source_of_autoConfigure hd made

/-- A pod that has one of its files. -/
def podWith (name text : String) : World := .sample [] [(name, text)]

/-- Of a token that is found the service account is the source. -/
theorem source_of_account_sample : ∃ c,
    ((podWith tokenPath "mine").autoConfigure none).result = .ok c ∧ c.source = .serviceAccount := by
  obtain ⟨c, hc, _⟩ := except_ok_of_map (show
    ((podWith tokenPath "mine").autoConfigure none).result.toOption.map (fun _ => ()) = some () by
      decide +kernel)
  have account : (podWith tokenPath "mine").documents.result = .ok [] :=
    documents_of_unreadable (by decide +kernel)
  obtain ⟨_, written, _, _, _, left⟩ := source_of_account (podWith tokenPath "mine")
  refine ⟨c, hc, ((left account none).2 c hc).trans (written.mpr ⟨.token, nofun, ?_⟩)⟩
  exact ⟨by decide +kernel, "mine", by decide +kernel⟩

/-- A namespace is found, and the source says that nothing was. -/
theorem namespace_has_no_source : ∃ found d,
    (ServiceAccount.apply (podWith namespacePath "team-a\n").probe (podWith namespacePath "team-a\n").fs
      .default).result = .ok found ∧
    (applyNamespace (podWith namespacePath "team-a\n").probe (podWith namespacePath "team-a\n").fs
      found).result = .ok d ∧
    Finds (podWith namespacePath "team-a\n").probe (podWith namespacePath "team-a\n").fs .namespaceName ∧
    d.value .namespaceName = some "team-a" ∧ d.source = .defaults := by
  refine ⟨_, (podWith namespacePath "team-a\n").accountConfig, result_apply _ _ _,
    result_applyNamespace _ _ _, ⟨by decide +kernel, "team-a\n", by decide +kernel⟩, ?_, ?_⟩
  · decide +kernel
  · decide +kernel

end World

end ClusterAccess
