import ClusterAccess.Proofs.Stage

/-!
# What discovery writes

Discovery starts from the defaults. A kubeconfig writes the fields that its selected cluster and user
carry, the namespace, and what is known of the contexts; a service account writes a few of these. All other
fields keep their defaults, and the current context is an entry of a file that was tried.
-/
namespace ClusterAccess

/-! ## Writing some fields only -/

/-- The second configuration has the values of the first where nothing is written. -/
structure Config.DiffersOnly (written : Field → Bool) (c d : Config) : Prop where
  value : ∀ f : Field, written f = false → d.value f = c.value f
  explicit : d.explicit = c.explicit

/-- Every field that gets a value is one of those written. -/
def Changes.AreOnly (written : Field → Bool) (changes : Changes) : Prop :=
  ∀ f : Field, written f = false → changes.value? f = .none

namespace Config.DiffersOnly

variable {written : Field → Bool} {c d e : Config}

theorem refl (written : Field → Bool) (c : Config) : DiffersOnly written c c := ⟨fun _ _ => rfl, rfl⟩

theorem trans (hcd : DiffersOnly written c d) (hde : DiffersOnly written d e) :
    DiffersOnly written c e :=
  ⟨fun f hf => (hde.value f hf).trans (hcd.value f hf), hde.explicit.trans hcd.explicit⟩

theorem mono {more : Field → Bool} (h : DiffersOnly written c d)
    (hm : ∀ f, more f = false → written f = false) : DiffersOnly more c d :=
  ⟨fun f hf => h.value f (hm f hf), h.explicit⟩

theorem evolve (c : Config) {changes : Changes} (h : changes.AreOnly written) :
    DiffersOnly written c (c.evolve changes) := by
  refine ⟨fun f hf => ?_, rfl⟩
  rw [value_evolve, h f hf, Option.getD_none]

theorem set (c : Config) {f : Field} (hf : written f = true) (v : f.Value) :
    DiffersOnly written c (c.set f v) := by
  refine ⟨fun g hg => ?_, rfl⟩
  have hne : f ≠ g := by
    rintro rfl
    rw [hf] at hg
    cases hg
  exact value_set_of_ne c hne v

theorem withAutoToken (h : DiffersOnly written c d) (token : Option String) :
    DiffersOnly written c (d.withAutoToken token) := ⟨h.value, h.explicit⟩

end Config.DiffersOnly

namespace Field

/-- Fields that the selected cluster and user carry into a configuration. -/
def isCarried : Field → Bool
  | .masterUrl | .trustCerts | .disableHostnameVerification | .tlsServerName | .caCertFile
  | .caCertData | .clientCertFile | .clientCertData | .clientKeyFile | .clientKeyData
  | .clientKeyAlgorithm | .username | .password | .authProvider | .impersonateUsername
  | .impersonateGroups | .impersonateExtras | .httpProxy | .httpsProxy => true
  | _ => false

/-- Fields that the service account of a pod fills. -/
def isOfAccount : Field → Bool
  | .masterUrl | .caCertFile | .namespaceName | .source => true
  | _ => false

/-- Fields that discovery writes. -/
def isDiscovered : Field → Bool
  | .namespaceName | .contexts | .currentContext | .source => true
  | f => f.isCarried

theorem isCarried_of_not_isDiscovered {f : Field} (h : f.isDiscovered = false) : f.isCarried = false := by
  cases f <;> first | rfl | cases h

theorem isOfAccount_of_not_isDiscovered {f : Field} (h : f.isDiscovered = false) :
    f.isOfAccount = false := by
  cases f <;> first | rfl | cases h

end Field

/-! ## Entries of kubeconfig documents -/

namespace Merge

theorem mem_putNamed {α : Type} {entry e : Named α} {merged : List (Named α)}
    (h : e ∈ putNamed entry merged) : e = entry ∨ e ∈ merged := by
  induction merged with
  | nil => exact Or.inl (List.mem_singleton.mp h)
  | cons first rest ih =>
    unfold putNamed at h
    split at h
    · rcases List.mem_cons.mp h with rfl | hr
      · exact Or.inl rfl
      · exact Or.inr (List.mem_cons_of_mem _ hr)
    · rcases List.mem_cons.mp h with rfl | hr
      · exact Or.inr List.mem_cons_self
      · exact (ih hr).imp_right (List.mem_cons_of_mem _)

theorem mem_foldl_putNamed {α : Type} {entries merged : List (Named α)} {e : Named α}
    (h : e ∈ entries.foldl (fun merged entry => putNamed entry merged) merged) :
    e ∈ merged ∨ e ∈ entries := by
  induction entries generalizing merged with
  | nil => exact Or.inl h
  | cons first rest ih =>
    rcases ih h with hp | hr
    · rcases mem_putNamed hp with rfl | hm
      · exact Or.inr List.mem_cons_self
      · exact Or.inl hm
    · exact Or.inr (List.mem_cons_of_mem _ hr)

/-- Entries are chosen among those that are there, none is made up. -/
theorem mem_lastNamed {α : Type} {entries : List (Named α)} {e : Named α} (h : e ∈ lastNamed entries) :
    e ∈ entries := (mem_foldl_putNamed h).resolve_left List.not_mem_nil

theorem mem_contexts {docs : List Kubeconfig} {context : Named Context} (h : context ∈ contexts docs) :
    ∃ doc ∈ docs, context ∈ doc.contexts := List.mem_flatMap.mp (mem_lastNamed h)

theorem clusterChanges_areOnly (c : Named Cluster) :
    (clusterChanges c).AreOnly Field.isCarried := by
  intro f hf
  cases f <;> first | rfl | cases hf

theorem userChanges_areOnly (u : Named User) (algorithm : Option KeyAlgorithm)
    (plugin : Option AuthProvider) : (userChanges u algorithm plugin).AreOnly Field.isCarried := by
  intro f hf
  cases f <;> first | rfl | cases hf

/-! ## Users -/

@[simp] theorem result_applyCluster (cluster : Named Cluster) (c : Config) :
    (applyCluster cluster c).result = .ok (c.evolve (clusterChanges cluster)) := by
  unfold applyCluster
  split <;> rfl

theorem result_readToken (fs : FileSystem) (path : String) : (readToken fs path).result =
    guarded (fs.readObstacle? path) ((fs.readText path).toOption.map Text.trim) := by
  unfold readToken
  rw [Traced.result_bind, FileSystem.result_tryText]
  exact guarded_map _

/-- The trimmed text of a user's token file, if one is named and can be read. -/
def fileToken (fs : FileSystem) (u : Named User) : Option String :=
  (filled u.value.tokenFile).bind fun file =>
    (fs.readText ((resolve u.source (some file)).getD "")).toOption.map Text.trim

/-- The token that a user has without the plugin. An empty one may be left over. -/
def plainToken (fs : FileSystem) (u : Named User) : Option String :=
  (filled u.value.token).or
    (if (filled u.value.tokenFile).isSome then fileToken fs u else u.value.token)

/-- The token that a user brings. -/
def token (fs : FileSystem) (u : Named User) : Option String :=
  (filled (plainToken fs u)).or ((u.value.authProvider.bind providerToken).or (plainToken fs u))

/-- The plugin that a user brings: it is not asked if there is a token without it. -/
def plugin (fs : FileSystem) (u : Named User) : Option AuthProvider :=
  if filled (plainToken fs u) = none then u.value.authProvider else none

/-- What makes reading a user's token file an error. With an inline token the file is not read. -/
def tokenObstacle? (fs : FileSystem) (u : Named User) : Option Obstacle :=
  match filled u.value.token with
  | some _ => none
  | none => (filled u.value.tokenFile).bind fun file =>
      fs.readObstacle? ((resolve u.source (some file)).getD "")

/-- What makes asking a plugin for a token an error. -/
def settingObstacle? (p : AuthProvider) : Option Obstacle :=
  if (tokenSetting? p).any Value.hasLongNumber then some .number else none

/-- What makes it an error to look for a user's token. Only without one of its own the plugin is asked. -/
def userTokenObstacle? (fs : FileSystem) (u : Named User) : Option Obstacle :=
  (tokenObstacle? fs u).or ((plugin fs u).bind settingObstacle?)

/-- What makes it an error to look at the key and the token of a user. -/
def userObstacle? (fs : FileSystem) (u : Named User) : Option Obstacle :=
  (ClientKey.obstacle? fs (resolve u.source u.value.clientKey) u.value.clientKeyData).or
    (userTokenObstacle? fs u)

theorem result_ownToken (fs : FileSystem) (u : Named User) :
    (ownToken fs u).result = guarded (tokenObstacle? fs u) (plainToken fs u) := by
  unfold ownToken plainToken tokenObstacle?
  split
  · next token _ inline => rw [inline]; rfl
  · next file inline named =>
    rw [inline, named, result_readToken, fileToken, named]
    rfl
  · next inline unnamed =>
    rw [inline, unnamed]
    rfl

theorem result_askPlugin (p : AuthProvider) :
    (askPlugin p).result = guarded (settingObstacle? p) (providerToken p) := by
  unfold askPlugin settingObstacle?
  split <;> rfl

theorem result_userToken (fs : FileSystem) (u : Named User) :
    (userToken fs u).result = guarded (userTokenObstacle? fs u) (token fs u, plugin fs u) := by
  unfold userToken
  rw [Traced.result_bind, result_ownToken]
  refine guarded_bind _ ?_
  unfold token plugin
  cases own : filled (plainToken fs u) with
  | none =>
    cases u.value.authProvider with
    | none => rfl
    | some p =>
      rw [Option.bind_some, Traced.result_bind, result_askPlugin]
      exact guarded_map _
  | some t =>
    rw [(filled_eq_some_iff.mp own).1]
    cases u.value.authProvider <;> rfl

/-- A configuration with what a user brings. -/
def withUser (fs : FileSystem) (u : Named User) (c : Config) : Config :=
  (c.evolve (userChanges u (ClientKey.shown fs (resolve u.source u.value.clientKey)
    u.value.clientKeyData) (plugin fs u))).withAutoToken (token fs u)

/-- What a user makes of a configuration. -/
theorem result_applyUser (fs : FileSystem) (u : Named User) (c : Config) :
    (applyUser fs u c).result = guarded (userObstacle? fs u) (withUser fs u c) := by
  unfold applyUser
  rw [Traced.result_bind, ClientKey.result_algorithm]
  refine guarded_bind _ ?_
  rw [Traced.result_bind, result_userToken]
  exact guarded_map _

theorem applyUser_eq_ok {fs : FileSystem} {u : Named User} {c d : Config} :
    (applyUser fs u c).result = .ok d ↔ userObstacle? fs u = none ∧ withUser fs u c = d := by
  rw [result_applyUser, guarded_eq_ok]

theorem withUser_differsOnly (fs : FileSystem) (u : Named User) (c : Config) :
    c.DiffersOnly Field.isCarried (withUser fs u c) :=
  (Config.DiffersOnly.evolve c (userChanges_areOnly u _ _)).withAutoToken _

theorem selectUser_differsOnly {fs : FileSystem} {docs : List Kubeconfig} {context : Named Context}
    {c d : Config} (h : (selectUser fs docs context c).result = .ok d) :
    c.DiffersOnly Field.isCarried d := by
  unfold selectUser at h
  split at h
  · obtain ⟨_, rfl⟩ := applyUser_eq_ok.mp h
    exact withUser_differsOnly fs _ c
  · split at h <;> cases h <;> exact .refl _ c

theorem select_differsOnly {fs : FileSystem} {docs : List Kubeconfig} {context : Named Context}
    {c d : Config} (h : (select fs docs context c).result = .ok d) : c.DiffersOnly Field.isCarried d := by
  unfold select at h
  split at h
  · next cluster _ =>
    rw [Traced.result_bind_of_ok (result_applyCluster cluster c)] at h
    exact (Config.DiffersOnly.evolve c (clusterChanges_areOnly cluster)).trans (selectUser_differsOnly h)
  · cases h
    exact .refl _ c

/-- What merged documents write, and where the current context comes from. -/
theorem documents_eq_ok {fs : FileSystem} {wanted : Option String} {docs : List Kubeconfig} {c d : Config}
    (h : (documents fs wanted docs c).result = .ok d) :
    c.DiffersOnly Field.isDiscovered d ∧ (d.currentContext = c.currentContext ∨
      ∃ context ∈ contexts docs, d.currentContext = some context) := by
  have hm : c.DiffersOnly Field.isDiscovered ((c.set .contexts (contexts docs)).set .source .kubeconfig) :=
    (Config.DiffersOnly.set c rfl _).trans (.set _ rfl _)
  unfold documents at h
  dsimp only at h
  split at h
  · cases h
    exact ⟨hm, Or.inl rfl⟩
  · next name _ =>
    split at h
    · cases h
    · next context hf =>
      rw [Traced.result_debug_bind] at h
      have hs := select_differsOnly h
      refine ⟨?_, Or.inr ⟨context, List.mem_of_find?_eq_some hf, hs.value .currentContext rfl⟩⟩
      exact ((hm.trans (.set _ rfl _)).trans (.set _ rfl _)).trans
        (hs.mono fun f hf => Field.isCarried_of_not_isDiscovered hf)

end Merge

/-! ## What the service account finds -/

namespace FileSystem

/-- The text of a file, none if there is no such file or it cannot be read. -/
def fileText (fs : FileSystem) (name : String) : Option String :=
  if fs.isFile name then (fs.readText name).toOption else none

/-- What makes it an error to look for a file and its text. A file that is not there is not read. -/
def fileObstacle? (fs : FileSystem) (name : String) : Option Obstacle :=
  (fs.testObstacle? name).or (if fs.isFile name then fs.readObstacle? name else none)

end FileSystem

namespace ServiceAccount

theorem result_findCa (p : Probe) (fs : FileSystem) : (findCa p fs).result =
    guarded (fs.testObstacle? (p.getD Options.caCertFile caPath))
      (if fs.isFile (p.getD Options.caCertFile caPath) then some (p.getD Options.caCertFile caPath)
        else none) := by
  unfold findCa
  dsimp only
  rw [Traced.result_bind, FileSystem.result_checkFile]
  refine guarded_bind_of_ok _ ?_
  split <;> rfl

/-- The text of the token file, which an option may name. It is then read without asking whether it is
there. -/
def tokenText (p : Probe) (fs : FileSystem) : Option String :=
  (p.get? Options.serviceAccountTokenFile).elim (fs.fileText tokenPath) fun path =>
    (fs.readText path).toOption

/-- What makes looking for the token an error. -/
def tokenObstacle? (p : Probe) (fs : FileSystem) : Option Obstacle :=
  (p.get? Options.serviceAccountTokenFile).elim (fs.fileObstacle? tokenPath) fs.readObstacle?

theorem result_findTokenFile (p : Probe) (fs : FileSystem) : (findTokenFile p fs).result =
    guarded ((p.get? Options.serviceAccountTokenFile).elim (fs.testObstacle? tokenPath) fun _ => none)
      ((p.get? Options.serviceAccountTokenFile).or
        (if fs.isFile tokenPath then some tokenPath else none)) := by
  unfold findTokenFile
  cases p.get? Options.serviceAccountTokenFile with
  | some path => rfl
  | none =>
    rw [Traced.result_bind, FileSystem.result_checkFile]
    refine guarded_bind_of_ok _ ?_
    split <;> rfl

theorem result_findToken (p : Probe) (fs : FileSystem) : (findToken p fs).result =
    guarded (tokenObstacle? p fs) ((tokenText p fs).map Text.trim) := by
  unfold findToken tokenObstacle? tokenText
  rw [Traced.result_bind, result_findTokenFile]
  cases p.get? Options.serviceAccountTokenFile with
  | some path =>
    refine (Traced.result_bind _ _).trans ?_
    rw [FileSystem.result_tryText]
    refine guarded_bind_of_ok _ ?_
    show _ = Except.ok ((fs.readText path).toOption.map Text.trim)
    cases fs.readText path <;> rfl
  | none =>
    refine guarded_bind _ ?_
    unfold FileSystem.fileText
    cases fs.isFile tokenPath with
    | false => rfl
    | true =>
      refine (Traced.result_bind _ _).trans ?_
      rw [FileSystem.result_tryText]
      refine guarded_bind_of_ok _ ?_
      show _ = Except.ok ((fs.readText tokenPath).toOption.map Text.trim)
      cases fs.readText tokenPath <;> rfl

/-- The namespace of the pod, if its file may be asked. -/
def namespaceText (p : Probe) (fs : FileSystem) : Option String :=
  if p.getTruth Options.tryNamespacePath true then
    (fs.fileText (p.getD Options.namespaceFile namespacePath)).map oneLine
  else none

/-- What makes looking for the namespace an error. -/
def namespaceObstacle? (p : Probe) (fs : FileSystem) : Option Obstacle :=
  if p.getTruth Options.tryNamespacePath true then
    fs.fileObstacle? (p.getD Options.namespaceFile namespacePath)
  else none

theorem result_findNamespace (p : Probe) (fs : FileSystem) : (findNamespace p fs).result =
    guarded (namespaceObstacle? p fs) (namespaceText p fs) := by
  unfold findNamespace namespaceObstacle? namespaceText FileSystem.fileText FileSystem.fileObstacle?
  dsimp only
  split
  · rw [Traced.result_bind, FileSystem.result_checkFile]
    refine guarded_bind _ ?_
    split
    · rw [Traced.result_debug_bind, Traced.result_bind, FileSystem.result_tryText]
      exact guarded_map _
    · rfl
  · rfl

/-- The token of the pod, if its files may be asked. -/
def token (p : Probe) (fs : FileSystem) : Option String :=
  if p.getTruth Options.tryServiceAccount true then (tokenText p fs).map Text.trim else none

/-- The file with the CA bundle, if the files of the pod may be asked. -/
def caFile (p : Probe) (fs : FileSystem) : Option String :=
  if p.getTruth Options.tryServiceAccount true && fs.isFile (p.getD Options.caCertFile caPath) then
    some (p.getD Options.caCertFile caPath)
  else none

/-- What the pod offers: its address, its CA bundle and its token. -/
def offered (p : Probe) (fs : FileSystem) : Findings := ⟨masterUrl? p, caFile p fs, token p fs⟩

/-- What makes looking for the CA bundle and the token an error. -/
def offeredObstacle? (p : Probe) (fs : FileSystem) : Option Obstacle :=
  if p.getTruth Options.tryServiceAccount true then
    (fs.testObstacle? (p.getD Options.caCertFile caPath)).or (tokenObstacle? p fs)
  else none

theorem result_fileFindings (p : Probe) (fs : FileSystem) (address : Option String) :
    (fileFindings p fs address).result =
      guarded (offeredObstacle? p fs) ⟨address, caFile p fs, token p fs⟩ := by
  unfold fileFindings offeredObstacle? caFile token
  by_cases allowed : p.getTruth Options.tryServiceAccount true = true
  · simp only [allowed, if_true, Bool.true_and]
    rw [Traced.result_bind, result_findCa]
    refine guarded_bind _ ?_
    rw [Traced.result_bind, result_findToken]
    exact guarded_map _
  · rw [if_neg allowed, Bool.eq_false_iff.mpr allowed]
    rfl

theorem result_findings (p : Probe) (fs : FileSystem) :
    (findings p fs).result = guarded (offeredObstacle? p fs) (offered p fs) := by
  unfold findings
  dsimp only
  split
  · rw [Traced.result_debug_bind]
    exact result_fileFindings p fs _
  · exact result_fileFindings p fs _

theorem changes_areOnly (found : Findings) : found.changes.AreOnly Field.isOfAccount := by
  intro f hf
  cases f <;> first | rfl | cases hf

theorem Findings.value_apply (found : Findings) (c : Config) (f : Field) :
    (found.apply c).value f = (found.changes.value? f).getD (c.value f) := by
  unfold apply
  cases found.token <;> rfl

/-- What is found comes from the service account. -/
theorem Findings.source_apply (found : Findings) (c : Config) :
    (found.apply c).source = if found.isEmpty then c.source else .serviceAccount := by
  have value : (found.apply c).source =
      (if found.isEmpty then none else some Source.serviceAccount).getD c.source :=
    found.value_apply c .source
  rw [value]
  split <;> rfl

/-- A pod without an address leaves the URL as it is. -/
theorem Findings.masterUrl_apply_ne_empty (found : Findings) {c : Config} (given : c.masterUrl ≠ "") :
    (found.apply c).masterUrl ≠ "" := by
  have value : (found.apply c).masterUrl =
      (found.address.map (MasterUrl.httpsPrefix ++ ·)).getD c.masterUrl := found.value_apply c .masterUrl
  rw [value]
  cases found.address with
  | none => exact given
  | some address => simp [MasterUrl.httpsPrefix]

theorem Findings.explicit_apply (found : Findings) (c : Config) : (found.apply c).explicit = c.explicit := by
  unfold apply
  cases found.token <;> rfl

theorem Findings.apply_differsOnly (found : Findings) (c : Config) :
    c.DiffersOnly Field.isOfAccount (found.apply c) := by
  refine ⟨fun f hf => ?_, found.explicit_apply c⟩
  rw [found.value_apply, changes_areOnly found f hf, Option.getD_none]

theorem result_apply (p : Probe) (fs : FileSystem) (c : Config) :
    (apply p fs c).result = guarded (offeredObstacle? p fs) ((offered p fs).apply c) := by
  unfold apply
  rw [Traced.result_debug_bind, Traced.result_bind, result_findings]
  exact guarded_map _

/-- A configuration in the namespace, if there is one. -/
def inNamespace (name : Option String) (c : Config) : Config :=
  name.elim c fun name => c.set .namespaceName (some name)

theorem inNamespace_differsOnly (name : Option String) (c : Config) :
    c.DiffersOnly (· == .namespaceName) (inNamespace name c) := by
  cases name with
  | none => exact .refl _ c
  | some name => exact .set c rfl _

theorem result_applyNamespace (p : Probe) (fs : FileSystem) (c : Config) :
    (applyNamespace p fs c).result =
      guarded (namespaceObstacle? p fs) (inNamespace (namespaceText p fs) c) := by
  unfold applyNamespace
  rw [Traced.result_debug_bind, Traced.result_bind, result_findNamespace]
  refine guarded_bind_of_ok _ ?_
  cases namespaceText p fs <;> rfl

end ServiceAccount

/-! ## The kubeconfig files -/

namespace Discovery

/-- A candidate is a file whose text is there and not blank. -/
def holdsText (fs : FileSystem) (path : String) : Bool :=
  fs.isFile path && !((fs.readText path).toOption.map Text.isBlankText).getD true

@[simp] theorem result_load (fs : FileSystem) (path : String) :
    (load fs path).result = guarded (fs.readObstacle? path) (fs.readText path).toOption :=
  FileSystem.result_tryText fs path _ _ _

theorem load_eq_ok {fs : FileSystem} {path : String} {text? : Option String} :
    (load fs path).result = .ok text? ↔
      fs.readObstacle? path = none ∧ (fs.readText path).toOption = text? := by
  rw [result_load, guarded_eq_ok]

theorem result_load_of_ok {fs : FileSystem} {path text : String} (h : fs.readText path = .ok text) :
    (load fs path).result = .ok (some text) :=
  load_eq_ok.mpr ⟨FileSystem.readObstacle?_of_ok h, by rw [h]; rfl⟩

theorem result_isUsable (fs : FileSystem) (path : String) :
    (isUsable fs path).result = guarded (fs.fileObstacle? path) (holdsText fs path) := by
  unfold isUsable FileSystem.fileObstacle? holdsText
  rw [Traced.result_bind, FileSystem.result_checkFile]
  refine guarded_bind _ ?_
  cases fs.isFile path with
  | false => rfl
  | true =>
    rw [if_pos rfl, Traced.result_bind, result_load]
    refine guarded_bind_of_ok _ ?_
    cases ((fs.readText path).toOption.map Text.isBlankText).getD true <;> rfl

/-- What makes looking for a kubeconfig an error: the home directory cannot be told, or a candidate cannot
be asked. -/
def obstacle? (p : Probe) (fs : FileSystem) (h : Home) : Option Obstacle :=
  if p.getTruth Options.tryKubeconfig true then
    match names p fs h with
    | .ok names => names.findSome? fs.fileObstacle?
    | .error fault => some (.file fault)
  else none

/-- A candidate that is read stands in no way. -/
theorem obstacle?_of_candidate {p : Probe} {fs : FileSystem} {h : Home} {name text : String}
    (candidate : candidates p fs h = [name]) (isFile : fs.isFile name = true)
    (reads : fs.readText name = .ok text) : obstacle? p fs h = none := by
  unfold candidates at candidate
  unfold obstacle?
  split
  · cases told : names p fs h with
    | error fault =>
      rw [told] at candidate
      cases candidate
    | ok names =>
      rw [told] at candidate
      have candidate : names = [name] := candidate
      rw [candidate]
      simp [FileSystem.fileObstacle?, FileSystem.testObstacle?_of_isFile isFile,
        FileSystem.readObstacle?_of_ok reads]
  · rfl

/-- The usable kubeconfig files: the candidates that hold text, unless options forbid to look. -/
theorem result_find (p : Probe) (fs : FileSystem) (h : Home) : (find p fs h).result =
    guarded (obstacle? p fs h)
      (if p.getTruth Options.tryKubeconfig true then
        ((candidates p fs h).filter (holdsText fs)).map Path.ofText else []) := by
  unfold find obstacle? candidates
  rw [Traced.result_debug_bind]
  split
  · rw [Traced.result_bind, Traced.result_ofExcept]
    cases names p fs h with
    | error fault => rfl
    | ok names =>
      refine (Traced.result_bind _ _).trans ?_
      rw [Traced.result_filterM (result_isUsable fs)]
      exact guarded_map _
  · rfl

end Discovery

namespace World

/-- A document that discovery reads is read as any other file. -/
theorem readDocument_eq_ok {w : World} {path : Path} {doc : Kubeconfig}
    (h : (w.readDocument path).result = .ok (some doc)) : Kubeconfig.read w.fs path = .ok doc := by
  unfold readDocument at h
  obtain ⟨text?, loads, h⟩ := Traced.bind_eq_ok.mp h
  obtain ⟨_, rfl⟩ := Discovery.load_eq_ok.mp loads
  cases reads : w.fs.readText path.text with
  | error fault =>
    rw [reads] at h
    cases h
  | ok text =>
    rw [reads] at h
    obtain ⟨k, parsed, hk⟩ := Traced.bind_eq_ok.mp h
    have parsed : Kubeconfig.parse text (some path.text) = .ok k := parsed
    cases hk
    rw [Kubeconfig.read_of_text reads, parsed]
    rfl

/-- Every document is read from a candidate. -/
theorem documents_eq_ok {w : World} {docs : List Kubeconfig} (h : w.documents.result = .ok docs)
    {doc : Kubeconfig} (hd : doc ∈ docs) : ∃ name ∈ Discovery.candidates w.probe w.fs w.home,
      Kubeconfig.read w.fs (Path.ofText name) = .ok doc := by
  unfold documents at h
  obtain ⟨paths, finds, h⟩ := Traced.bind_eq_ok.mp h
  rw [Discovery.result_find] at finds
  obtain ⟨_, rfl⟩ := guarded_eq_ok.mp finds
  obtain ⟨found, hf, h⟩ := Traced.bind_eq_ok.mp h
  cases h
  obtain ⟨doc?, hm, hs⟩ := List.mem_filterMap.mp hd
  cases hs
  obtain ⟨path, hp, hr⟩ := Traced.mem_of_mapM_eq_ok hf hm
  split at hp
  · obtain ⟨name, hn, rfl⟩ := List.mem_map.mp hp
    exact ⟨name, (List.mem_filter.mp hn).1, readDocument_eq_ok hr⟩
  · cases hp

/-- No candidate with a text, no documents. -/
theorem documents_of_unreadable {w : World}
    (h : ∀ name ∈ Discovery.candidates w.probe w.fs w.home, Discovery.holdsText w.fs name = false) :
    w.documents.result = guarded (Discovery.obstacle? w.probe w.fs w.home) [] := by
  have hn : (Discovery.candidates w.probe w.fs w.home).filter (Discovery.holdsText w.fs) = [] := by
    rw [List.filter_eq_nil_iff]
    intro name hm ht
    rw [h name hm] at ht
    cases ht
  unfold documents
  rw [Traced.result_bind, Discovery.result_find, hn, List.map_nil, ite_self]
  exact guarded_bind_of_ok _ rfl

/-- What the pod offers over the defaults, in its namespace. -/
def accountConfig (w : World) : Config :=
  ServiceAccount.inNamespace (ServiceAccount.namespaceText w.probe w.fs)
    ((ServiceAccount.offered w.probe w.fs).apply .default)

/-- What makes it an error to look at the files of the pod. -/
def accountObstacle? (w : World) : Option Obstacle :=
  (ServiceAccount.offeredObstacle? w.probe w.fs).or (ServiceAccount.namespaceObstacle? w.probe w.fs)

theorem result_accountSteps (w : World) :
    (ServiceAccount.apply w.probe w.fs .default >>= ServiceAccount.applyNamespace w.probe w.fs).result =
      guarded w.accountObstacle? w.accountConfig := by
  rw [Traced.result_bind, ServiceAccount.result_apply]
  exact guarded_bind _ (ServiceAccount.result_applyNamespace _ _ _)

/-- Without documents the service account is asked. -/
theorem result_discover_of_account {w : World} (h : w.documents.result = .ok []) (context : Option String) :
    (w.discover context).result = guarded w.accountObstacle? w.accountConfig := by
  unfold discover
  rw [Traced.result_bind_of_ok h, if_pos (show ([] : List Kubeconfig).isEmpty = true from rfl),
    Stage.result_reach_bind, result_accountSteps]

theorem accountConfig_of_discover {w : World} (h : w.documents.result = .ok []) {context : Option String}
    {d : Config} (discovers : (w.discover context).result = .ok d) : w.accountConfig = d := by
  rw [result_discover_of_account h] at discovers
  exact (guarded_eq_ok.mp discovers).2

theorem findings_of_discover {w : World} (h : w.documents.result = .ok []) {context : Option String}
    {d : Config} (discovers : (w.discover context).result = .ok d) :
    ∃ found : ServiceAccount.Findings, (found.apply .default).DiffersOnly (· == .namespaceName) d := by
  rw [← accountConfig_of_discover h discovers]
  exact ⟨_, ServiceAccount.inNamespace_differsOnly _ _⟩

/-- A service account never leaves the URL empty. -/
theorem masterUrl_of_account {w : World} (h : w.documents.result = .ok []) {context : Option String}
    {d : Config} (discovers : (w.discover context).result = .ok d) : d.masterUrl ≠ "" := by
  obtain ⟨found, named⟩ := findings_of_discover h discovers
  rw [Config.masterUrl, named.value .masterUrl rfl]
  exact found.masterUrl_apply_ne_empty (by decide)

theorem discover_of_no_documents {w : World} (h : w.documents.result = .ok []) {context : Option String}
    {d : Config} (discovers : (w.discover context).result = .ok d) :
    Config.default.DiffersOnly Field.isOfAccount d := by
  rw [← accountConfig_of_discover h discovers]
  refine ((ServiceAccount.offered w.probe w.fs).apply_differsOnly .default).trans
    ((ServiceAccount.inNamespace_differsOnly _ _).mono fun f hf => ?_)
  cases f <;> first | rfl | cases hf

/-- What discovery gives: the defaults but for the fields that it writes, and a current context, if
any, of a candidate. -/
theorem discover_eq_ok {w : World} {context : Option String} {d : Config}
    (h : (w.discover context).result = .ok d) :
    Config.default.DiffersOnly Field.isDiscovered d ∧
      ∀ file, d.file = some file → ∃ name ∈ Discovery.candidates w.probe w.fs w.home,
        w.fs.absolute (Path.ofText name) = file := by
  obtain ⟨docs, hdocs, h'⟩ := Traced.bind_eq_ok.mp h
  by_cases he : docs.isEmpty = true
  · rw [List.isEmpty_iff.mp he] at hdocs
    have hw := discover_of_no_documents hdocs h
    refine ⟨hw.mono fun f hf => Field.isOfAccount_of_not_isDiscovered hf, fun file hfile => ?_⟩
    have hc : d.currentContext = none := hw.value .currentContext rfl
    rw [Config.file, hc] at hfile
    cases hfile
  · rw [if_neg he, Stage.result_reach_bind] at h'
    obtain ⟨hw, hc⟩ := Merge.documents_eq_ok h'
    refine ⟨hw, fun file hfile => ?_⟩
    rcases hc with hc | ⟨selected, hs, hc⟩
    · rw [Config.file, hc] at hfile
      cases hfile
    · obtain ⟨doc, hdoc, hin⟩ := Merge.mem_contexts hs
      obtain ⟨name, hn, hread⟩ := documents_eq_ok hdocs hdoc
      obtain ⟨_, k, _, _, rfl⟩ := Kubeconfig.read_eq_ok hread
      obtain ⟨n, _, rfl⟩ := List.mem_map.mp hin
      rw [Config.file, hc] at hfile
      cases hfile
      exact ⟨name, hn, rfl⟩

/-! ## A configuration made of the surroundings -/

/-- What finishing makes of a discovered configuration. -/
structure Configures (w : World) (found c : Config) : Prop where
  value : ∀ f : Field, f.isSettled = false → f ≠ .autoConfigured →
    c.value f = (Options.overlay w.probe found).value f
  keyAlgorithm : ∃ forced, w.probe.keyAlgorithm? = .ok forced ∧ c.HasKeyAlgorithm w.fs forced
  autoConfigured : c.value .autoConfigured = true
  autoToken : c.autoToken = (w.probe.get? Options.oauthToken).or found.autoToken
  explicit : c.explicit = .none
  wellFormed : Options.fault? w.probe = none

theorem configures_of_autoConfigure {w : World} {context : Option String} {c : Config}
    (h : (w.autoConfigure context).result = .ok c) :
    ∃ found, (w.discover context).result = .ok found ∧ w.Configures found c := by
  obtain ⟨found, finished, hd, hf, rfl⟩ := autoConfigure_eq_ok.mp h
  obtain ⟨forced, hp, hk⟩ := hasKeyAlgorithm_of_finish hf
  refine ⟨found, hd, fun f hf' hc => ?_, ⟨forced, hp, hk⟩, rfl, ?_, ?_, (finish_eq_ok.mp hf).1⟩
  · rw [Config.value_set_of_ne _ hc.symm, value_of_finish hf hf']
  · rw [Config.autoToken_set, autoToken_of_finish hf]
  · rw [Config.explicit_set, explicit_of_finish hf, (discover_eq_ok hd).1.explicit]
    rfl

theorem Configures.currentContext {w : World} {found c : Config} (h : w.Configures found c) :
    c.currentContext = found.currentContext := by
  rw [Config.currentContext, h.value .currentContext rfl (by decide), Options.value_overlay]
  rfl

end World

end ClusterAccess
