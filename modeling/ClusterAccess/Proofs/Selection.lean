import ClusterAccess.Proofs.Discovered

/-!
# What the selected entries give

The selected cluster and user write what they carry into the configuration. The paths among it are
those that the entries spell, taken from the directories of their files. Merging opens a user's key and
token file and no other file, and neither does bringing the result into normal form.
-/
namespace ClusterAccess

namespace Merge

/-! ## The entries that were selected -/

theorem selectUser_eq_ok {fs : FileSystem} {docs : List Kubeconfig} {context : Named Context}
    {c d : Config} (h : (selectUser fs docs context c).result = .ok d) :
    d = c ∨ ∃ u ∈ users docs, (applyUser fs u c).result = .ok d := by
  unfold selectUser at h
  split at h
  · next u hu => exact .inr ⟨u, List.mem_of_find?_eq_some hu, h⟩
  · left
    split at h <;> cases h <;> rfl

theorem select_eq_ok {fs : FileSystem} {docs : List Kubeconfig} {context : Named Context}
    {c d : Config} (h : (select fs docs context c).result = .ok d) :
    d = c ∨ ∃ cluster ∈ clusters docs,
      (selectUser fs docs context (c.evolve (clusterChanges cluster))).result = .ok d := by
  unfold select at h
  split at h
  · next cluster hc =>
    rw [Traced.result_bind_of_ok (result_applyCluster cluster c)] at h
    exact .inr ⟨cluster, List.mem_of_find?_eq_some hc, h⟩
  · cases h
    exact .inl rfl

/-! ## Paths -/

/-- Without a file a path stays as it is spelled. -/
@[simp] theorem resolve_none (path : Option String) : resolve none path = path := by
  cases path <;> rfl

theorem resolve_some (source : Option Path) (path : String) :
    ∃ name, resolve source (some path) = some name := by
  cases source with
  | none => exact ⟨path, rfl⟩
  | some source =>
    unfold resolve
    dsimp only
    split <;> exact ⟨_, rfl⟩

/-- The path is the one from before, or one that an entry spells, as seen from the entry's file. -/
def TakesPath {α : Type} (entries : List (Named α)) (spelled : α → Option String)
    (before after : Option String) : Prop :=
  after = before ∨ ∃ n ∈ entries, after = resolve n.source (spelled n.value)

theorem TakesPath.trans {α : Type} {entries : List (Named α)} {spelled : α → Option String}
    {first second third : Option String} (h : TakesPath entries spelled first second)
    (h' : TakesPath entries spelled second third) : TakesPath entries spelled first third := by
  rcases h' with rfl | h'
  · exact h
  · exact .inr h'

/-- An entry without a file has its paths taken as they are spelled. -/
theorem TakesPath.of_unsourced {α : Type} {entries : List (Named α)} {spelled : α → Option String}
    {before after : Option String} (h : TakesPath entries spelled before after)
    (unsourced : ∀ n ∈ entries, n.source = none) :
    after = before ∨ ∃ n ∈ entries, after = spelled n.value := by
  rcases h with h | ⟨n, hn, h⟩
  · exact .inl h
  · rw [unsourced n hn, resolve_none] at h
    exact .inr ⟨n, hn, h⟩

end Merge

/-- The second configuration has the paths of the first, or paths that entries spell. -/
structure Config.TakesPaths (docs : List Kubeconfig) (c d : Config) : Prop where
  caCertFile : Merge.TakesPath (docs.flatMap (·.clusters)) (·.certificateAuthority)
    c.caCertFile d.caCertFile
  clientCertFile : Merge.TakesPath (docs.flatMap (·.users)) (·.clientCertificate)
    c.clientCertFile d.clientCertFile
  clientKeyFile : Merge.TakesPath (docs.flatMap (·.users)) (·.clientKey) c.clientKeyFile d.clientKeyFile

namespace Config.TakesPaths

variable {docs : List Kubeconfig} {c d e : Config}

theorem refl (docs : List Kubeconfig) (c : Config) : TakesPaths docs c c :=
  ⟨.inl rfl, .inl rfl, .inl rfl⟩

theorem trans (hcd : TakesPaths docs c d) (hde : TakesPaths docs d e) : TakesPaths docs c e :=
  ⟨hcd.caCertFile.trans hde.caCertFile, hcd.clientCertFile.trans hde.clientCertFile,
    hcd.clientKeyFile.trans hde.clientKeyFile⟩

theorem applyCluster {cluster : Named Cluster} (h : cluster ∈ Merge.clusters docs) (c : Config) :
    TakesPaths docs c (c.evolve (Merge.clusterChanges cluster)) :=
  ⟨.inr ⟨cluster, Merge.mem_lastNamed h, rfl⟩, .inl rfl, .inl rfl⟩

theorem applyUser {fs : FileSystem} {u : Named User} (hu : u ∈ Merge.users docs)
    (h : (Merge.applyUser fs u c).result = .ok d) : TakesPaths docs c d := by
  obtain ⟨_, rfl⟩ := Merge.applyUser_eq_ok.mp h
  exact ⟨.inl rfl, .inr ⟨u, Merge.mem_lastNamed hu, rfl⟩, .inr ⟨u, Merge.mem_lastNamed hu, rfl⟩⟩

theorem select {fs : FileSystem} {context : Named Context}
    (h : (Merge.select fs docs context c).result = .ok d) : TakesPaths docs c d := by
  rcases Merge.select_eq_ok h with rfl | ⟨cluster, hc, h⟩
  · exact .refl docs d
  · refine (applyCluster hc c).trans ?_
    rcases Merge.selectUser_eq_ok h with rfl | ⟨u, hu, h⟩
    · exact .refl docs _
    · exact applyUser hu h

theorem documents {fs : FileSystem} {wanted : Option String}
    (h : (Merge.documents fs wanted docs c).result = .ok d) : TakesPaths docs c d := by
  unfold Merge.documents at h
  dsimp only at h
  split at h
  · cases h
    exact ⟨.inl rfl, .inl rfl, .inl rfl⟩
  · split at h
    · cases h
    · rw [Traced.result_debug_bind] at h
      refine trans ?_ (select h)
      exact ⟨.inl rfl, .inl rfl, .inl rfl⟩

end Config.TakesPaths

/-! ## Opened files -/

/-- Both give the same texts, or the same failures, for these names. -/
def FileSystem.SameOn (fs : FileSystem) (names : List String) (other : FileSystem) : Prop :=
  ∀ name ∈ names, fs.readText name = other.readText name

namespace Traced

variable {α β : Type}

theorem bind_congr {x : Traced α} {f g : α → Traced β} (h : ∀ a, x.result = .ok a → f a = g a) :
    x >>= f = x >>= g := by
  show bind x f = bind x g
  unfold bind
  cases hx : x.result with
  | error e => rfl
  | ok a =>
    dsimp only
    rw [h a hx]

end Traced

theorem ClientKey.algorithm_congr {fs other : FileSystem} {file data : Option String}
    (same : fs.SameOn file.toList other) : algorithm fs file data = algorithm other file data := by
  unfold algorithm
  cases data with
  | some data => rfl
  | none =>
    cases file with
    | none => rfl
    | some file =>
      dsimp only
      rw [FileSystem.tryText_congr (same file (by simp))]

theorem Config.normalize_congr {fs other : FileSystem} {c : Config}
    (same : fs.SameOn c.clientKeyFile.toList other) (https : TlsCheck) (probe? : Option Probe) :
    c.normalize https fs probe? = c.normalize https other probe? := by
  unfold normalize keyAlgorithm
  rw [ClientKey.algorithm_congr same]

namespace Merge

/-- The files of a user that merging opens: those of its key and of its token. -/
def openedBy (u : Named User) : List String :=
  (resolve u.source u.value.clientKey).toList ++ (resolve u.source u.value.tokenFile).toList

/-- The files of documents that merging opens. -/
def opened (docs : List Kubeconfig) : List String := (docs.flatMap (·.users)).flatMap openedBy

section

variable {fs other : FileSystem}

theorem ownToken_congr {u : Named User} (same : fs.SameOn (openedBy u) other) :
    ownToken fs u = ownToken other u := by
  unfold ownToken
  split
  · rfl
  · next file _ hf =>
    obtain ⟨name, hn⟩ := resolve_some u.source file
    have hm : name ∈ openedBy u := by
      rw [openedBy, (filled_eq_some_iff.mp hf).1, hn]
      simp
    rw [hn, Option.getD_some, readToken, readToken, FileSystem.tryText_congr (same name hm)]
  · rfl

theorem applyUser_congr {u : Named User} (same : fs.SameOn (openedBy u) other) (c : Config) :
    applyUser fs u c = applyUser other u c := by
  unfold applyUser userToken
  rw [ownToken_congr same, ClientKey.algorithm_congr fun name h => same name (List.mem_append_left _ h)]

variable {docs : List Kubeconfig} (same : fs.SameOn (opened docs) other)
include same

theorem selectUser_congr (context : Named Context) (c : Config) :
    selectUser fs docs context c = selectUser other docs context c := by
  unfold selectUser
  split
  · next u hu =>
    refine applyUser_congr (fun name h => same name ?_) c
    exact List.mem_flatMap.mpr ⟨u, mem_lastNamed (List.mem_of_find?_eq_some hu), h⟩
  · rfl

theorem documents_congr (wanted : Option String) (c : Config) :
    documents fs wanted docs c = documents other wanted docs c := by
  unfold documents select
  simp only [selectUser_congr same]

end

end Merge

/-- The configuration of a document depends on no file but those that its users name. -/
theorem World.ofDocument_congr {w : World} {fs : FileSystem} {doc : Kubeconfig}
    (same : fs.SameOn (Merge.opened [doc]) w.fs) (context : Option String) :
    { w with fs := fs }.ofDocument context doc = w.ofDocument context doc := by
  unfold ofDocument normalize
  rw [Merge.documents_congr same]
  refine Traced.bind_congr fun c hc => ?_
  have hk : fs.SameOn c.clientKeyFile.toList w.fs := by
    intro name hn
    rcases (Config.TakesPaths.documents hc).clientKeyFile with h | ⟨u, hu, h⟩
    · rw [h] at hn
      cases hn
    · rw [h] at hn
      exact same name (List.mem_flatMap.mpr ⟨u, hu, List.mem_append_left _ hn⟩)
  rw [Config.normalize_congr hk]

end ClusterAccess
