import ClusterAccess.Proofs.InferredScheme
import ClusterAccess.Proofs.Route

/-!
# Empty entries for TLS

A cluster and a user have six entries for TLS: three name files, and three hold what would be in these files.
An empty entry that holds material counts as none, but for the key, which is then looked for nowhere else.
An empty entry that names a file does not: it is taken for a path, and leads to the directory of the
kubeconfig.
-/
namespace ClusterAccess

/-- The entries of clusters and users for TLS. -/
inductive TlsEntry where
  | certificateAuthority
  | certificateAuthorityData
  | clientCertificate
  | clientCertificateData
  | clientKey
  | clientKeyData
  deriving DecidableEq

namespace TlsEntry

/-- The entry names a file. -/
def isPath : TlsEntry → Bool
  | .certificateAuthority | .clientCertificate | .clientKey => true
  | .certificateAuthorityData | .clientCertificateData | .clientKeyData => false

/-- The entry is one of users. -/
def isOfUser : TlsEntry → Bool
  | .certificateAuthority | .certificateAuthorityData => false
  | .clientCertificate | .clientCertificateData | .clientKey | .clientKeyData => true

/-- The option that goes before the entry. -/
def option : TlsEntry → String
  | .certificateAuthority => Options.caCertFile
  | .certificateAuthorityData => Options.caCertData
  | .clientCertificate => Options.clientCertFile
  | .clientCertificateData => Options.clientCertData
  | .clientKey => Options.clientKeyFile
  | .clientKeyData => Options.clientKeyData

end TlsEntry

/-- What a configuration has of an entry. -/
def Config.tlsEntry (c : Config) : TlsEntry → Option String
  | .certificateAuthority => c.caCertFile
  | .certificateAuthorityData => c.caCertData
  | .clientCertificate => c.clientCertFile
  | .clientCertificateData => c.value .clientCertData
  | .clientKey => c.clientKeyFile
  | .clientKeyData => c.clientKeyData

/-! ## Writing an entry -/

def Cluster.put (e : TlsEntry) (v : Option String) (c : Cluster) : Cluster :=
  match e with
  | .certificateAuthority => { c with certificateAuthority := v }
  | .certificateAuthorityData => { c with certificateAuthorityData := v }
  | _ => c

def User.put (e : TlsEntry) (v : Option String) (u : User) : User :=
  match e with
  | .clientCertificate => { u with clientCertificate := v }
  | .clientCertificateData => { u with clientCertificateData := v }
  | .clientKey => { u with clientKey := v }
  | .clientKeyData => { u with clientKeyData := v }
  | _ => u

/-- The entry, with what it holds changed. -/
def Named.map {α : Type} (f : α → α) (n : Named α) : Named α := { n with value := f n.value }

namespace Selection

/-- The selection with a value for an entry of the cluster or the user. -/
def put (e : TlsEntry) (v : Option String) (s : Selection) : Selection :=
  { s with cluster := s.cluster.map (.map (.put e v)), user := s.user.map (.map (.put e v)) }

/-- What the selected cluster and user say of an entry, as seen from their files. -/
def tlsEntry (s : Selection) : TlsEntry → Option String
  | .certificateAuthority => s.cluster.bind fun n => Merge.resolve n.source n.value.certificateAuthority
  | .certificateAuthorityData => s.cluster.bind (·.value.certificateAuthorityData)
  | .clientCertificate => s.owner.bind fun u => Merge.resolve u.source u.value.clientCertificate
  | .clientCertificateData => s.owner.bind (·.value.clientCertificateData)
  | .clientKey => s.owner.bind fun u => Merge.resolve u.source u.value.clientKey
  | .clientKeyData => s.owner.bind (·.value.clientKeyData)

/-- The entry's cluster or user is there. -/
def has (e : TlsEntry) (s : Selection) : Bool := if e.isOfUser then s.owner.isSome else s.cluster.isSome

theorem exists_cluster_of_has {e : TlsEntry} {s : Selection} (h : s.has e = true) :
    ∃ n, s.cluster = some n := by
  unfold has owner at h
  cases hn : s.cluster with
  | none =>
    rw [hn] at h
    cases e <;> cases h
  | some n => exact ⟨n, rfl⟩

/-- Other entries of the cluster stay as they are. -/
theorem map_cluster_put {α : Type} {e : TlsEntry} {v : Option String} (view : Cluster → α)
    (kept : ∀ c : Cluster, view (c.put e v) = view c) (s : Selection) :
    (s.put e v).cluster.map (fun n => view n.value) = s.cluster.map fun n => view n.value := by
  unfold put
  cases s.cluster with
  | none => rfl
  | some n => exact congrArg some (kept n.value)

theorem tlsEntry_put_of_ne {e x : TlsEntry} (h : x ≠ e) (v : Option String) (s : Selection) :
    (s.put e v).tlsEntry x = s.tlsEntry x := by
  obtain ⟨contexts, name, context, cluster, user⟩ := s
  cases cluster <;> cases user <;> cases e <;> cases x <;> first | rfl | exact absurd rfl h

theorem tlsEntry_of_onto {k : Kubeconfig} {wanted : Option String} {fs : FileSystem} {c : Config}
    (h : (k.selection wanted).onto fs .default = .ok c) (x : TlsEntry) :
    c.tlsEntry x = (k.selection wanted).tlsEntry x := by
  cases x with
  | certificateAuthority | certificateAuthorityData =>
    refine (value_of_onto h rfl).trans ?_
    rw [changes_of_cluster fun _ _ _ => rfl]
    unfold tlsEntry
    cases (k.selection wanted).cluster <;> rfl
  | clientCertificate | clientCertificateData | clientKey | clientKeyData =>
    refine (value_of_onto h rfl).trans ?_
    rw [changes_of_owner fun _ => rfl]
    unfold tlsEntry
    cases (k.selection wanted).owner <;> rfl

/-- The selected cluster and user were read from the file. -/
structure IsFrom (file : Path) (s : Selection) : Prop where
  cluster : ∀ n, s.cluster = some n → n.source = some file
  user : ∀ u, s.user = some u → u.source = some file

theorem tlsEntry_put_self {file : Path} {s : Selection} (filed : s.IsFrom file) {e : TlsEntry}
    (has : s.has e = true) (v : Option String) :
    (s.put e v).tlsEntry e = if e.isPath then Merge.resolve (some file) v else v := by
  obtain ⟨contexts, name, context, cluster, user⟩ := s
  cases cluster with
  | none => cases e <;> cases has
  | some n =>
    have source : n.source = some file := filed.cluster n rfl
    cases user with
    | none =>
      cases e with
      | certificateAuthority => exact congrArg (Merge.resolve · v) source
      | certificateAuthorityData => rfl
      | clientCertificate | clientCertificateData | clientKey | clientKeyData => cases has
    | some u =>
      have ofUser : u.source = some file := filed.user u rfl
      cases e with
      | certificateAuthority => exact congrArg (Merge.resolve · v) source
      | clientCertificate | clientKey => exact congrArg (Merge.resolve · v) ofUser
      | certificateAuthorityData | clientCertificateData | clientKeyData => rfl

end Selection

/-- Without the inline key, the key is read from a file, and no file can have one of these paths. -/
def KeyFileBlocks (fs : FileSystem) (e : TlsEntry) (paths : List String) (obstacle : Obstacle) : Prop :=
  e = .clientKeyData ∧ ∃ path ∈ paths, fs.readObstacle? path = some obstacle

/-- An empty entry stands in no more ways than none, and in fewer only as an inline key, which hides the
file. -/
theorem Selection.obstacle?_put {e : TlsEntry} (material : e.isPath = false) (fs : FileSystem)
    (s : Selection) : (s.put e none).obstacle? fs = (s.put e (some "")).obstacle? fs ∨
      ∃ obstacle, KeyFileBlocks fs e (s.tlsEntry .clientKey).toList obstacle ∧
        (s.put e none).obstacle? fs = some obstacle := by
  obtain ⟨contexts, name, context, cluster, user⟩ := s
  cases cluster with
  | none => exact .inl rfl
  | some n =>
    cases user with
    | none => exact .inl rfl
    | some u =>
      cases e with
      | certificateAuthority | clientCertificate | clientKey => cases material
      | certificateAuthorityData | clientCertificateData => exact .inl rfl
      | clientKeyData =>
        cases key : ClientKey.obstacle? fs (Merge.resolve u.source u.value.clientKey) none with
        | none => exact .inl (congrArg (Option.or · (Merge.userTokenObstacle? fs u)) key)
        | some obstacle =>
          obtain ⟨_, path, named, reads⟩ := ClientKey.obstacle?_eq_some.mp key
          exact .inr ⟨obstacle, ⟨rfl, path, Option.mem_toList.mpr named, reads⟩,
            congrArg (Option.or · (Merge.userTokenObstacle? fs u)) key⟩

namespace Kubeconfig

/-- The document with a value for an entry of the cluster or the user that is selected. -/
def put (wanted : Option String) (e : TlsEntry) (v : Option String) (k : Kubeconfig) : Kubeconfig :=
  { k with
    clusters := k.clusters.map fun n =>
      if (k.selection wanted).refersToCluster n then n.map (.put e v) else n
    users := k.users.map fun u => if (k.selection wanted).refersToUser u then u.map (.put e v) else u }

variable {wanted : Option String} {k : Kubeconfig}

/-- The selected entries are changed, and nothing else is. -/
theorem selection_put (e : TlsEntry) (v : Option String) :
    (k.put wanted e v).selection wanted = (k.selection wanted).put e v := by
  show Selection.mk _ _ (k.chosenContext? wanted)
      ((k.chosenContext? wanted).bind fun n => Merge.lastOf? (n.value.cluster.getD "") (k.put wanted e v).clusters)
      ((k.chosenContext? wanted).bind fun n => Merge.lastOf? (n.value.user.getD "") (k.put wanted e v).users) = _
  unfold Selection.put
  congr 1
  · rw [selection, Option.map_bind]
    refine Option.bind_congr fun n hn => Merge.lastOf?_map_ite (f := .map (.put e v))
      (fun _ => rfl) (fun c hc => ?_) k.clusters
    rw [Selection.refersToCluster, selection_context, hn, Option.any_some, hc, beq_self_eq_true]
  · rw [selection, Option.map_bind]
    refine Option.bind_congr fun n hn => Merge.lastOf?_map_ite (f := .map (.put e v))
      (fun _ => rfl) (fun u hu => ?_) k.users
    rw [Selection.refersToUser, selection_context, hn, Option.any_some, hu, beq_self_eq_true]

theorem isFrom_selection (file : Path) (wanted : Option String) (k : Kubeconfig) :
    ((k.from file).selection wanted).IsFrom file := by
  refine ⟨fun n hn => ?_, fun u hu => ?_⟩
  · obtain ⟨_, _, last⟩ := Option.bind_eq_some_iff.mp hn
    obtain ⟨_, _, rfl⟩ := List.mem_map.mp (Merge.mem_of_lastOf? last)
    rfl
  · obtain ⟨_, _, last⟩ := Option.bind_eq_some_iff.mp hu
    obtain ⟨_, _, rfl⟩ := List.mem_map.mp (Merge.mem_of_lastOf? last)
    rfl

end Kubeconfig

/-! ## Merging and options -/

theorem Path.text_ne_empty (p : Path) : p.text ≠ "" := by
  unfold text
  dsimp only
  split
  · decide
  · assumption

/-- The empty path leads to the directory of the file. -/
theorem Merge.resolve_empty (file : Path) : resolve (some file) (some "") = some file.parent.text := by
  have here : file.parent.join (Path.ofText "") = file.parent := by
    simp [Path.join, show Path.ofText "" = ⟨.relative, []⟩ by decide, Path.isAbsolute]
  unfold resolve
  dsimp only
  rw [if_neg (by decide), here]

/-- The configurations have the same master URL and the same entries, but for one. -/
structure Config.AlikeBut (e : TlsEntry) (b c : Config) : Prop where
  masterUrl : b.masterUrl = c.masterUrl
  trustCerts : b.trustCerts = c.trustCerts
  passphrase : b.value .clientKeyPassphrase = c.value .clientKeyPassphrase
  others : ∀ x, x ≠ e → b.tlsEntry x = c.tlsEntry x

theorem Selection.trustCerts_of_onto {k : Kubeconfig} {wanted : Option String} {fs : FileSystem}
    {target c : Config} (h : (k.selection wanted).onto fs target = .ok c) : c.trustCerts =
      ((k.selection wanted).cluster.map fun n => n.value.insecureSkipTlsVerify.getD false).getD
        target.trustCerts := by
  rw [Config.trustCerts, value_of_onto h rfl, changes_of_cluster fun _ _ _ => rfl]
  cases (k.selection wanted).cluster <;> rfl

namespace Merge

variable {fs : FileSystem} {wanted : Option String} {file : Path} {k : Kubeconfig} {e : TlsEntry}
  {v v' : Option String} {b c : Config}

theorem onto_of_documents_put {docs : Except Error Config}
    (h : (documents fs wanted [(k.from file).put wanted e v] .default).result = docs) :
    (((k.from file).put wanted e v).selection wanted).onto fs .default = docs := by
  rw [← h, result_documents, Kubeconfig.selection_concat_singleton]

theorem exists_documents_put (has : ((k.from file).selection wanted).has e = true) (fs : FileSystem)
    (v : Option String) : ∃ c, (documents fs wanted [(k.from file).put wanted e v] .default).result =
      guarded ((((k.from file).selection wanted).put e v).obstacle? fs) c := by
  obtain ⟨n, hn⟩ := Selection.exists_cluster_of_has has
  have selected : (((k.from file).put wanted e v).selection wanted).cluster = some (n.map (.put e v)) := by
    rw [Kubeconfig.selection_put, Selection.put, hn]
    rfl
  rw [result_documents, Kubeconfig.selection_concat_singleton, ← Kubeconfig.selection_put]
  exact Kubeconfig.onto_of_cluster selected fs .default

theorem tlsEntry_of_documents_put (has : ((k.from file).selection wanted).has e = true)
    (h : (documents fs wanted [(k.from file).put wanted e v] .default).result = .ok c) :
    c.tlsEntry e = if e.isPath then resolve (some file) v else v := by
  rw [Selection.tlsEntry_of_onto (onto_of_documents_put h), Kubeconfig.selection_put]
  exact Selection.tlsEntry_put_self (Kubeconfig.isFrom_selection file wanted k) has v

theorem alikeBut_of_documents_put
    (hb : (documents fs wanted [(k.from file).put wanted e v] .default).result = .ok b)
    (hc : (documents fs wanted [(k.from file).put wanted e v'] .default).result = .ok c) :
    b.AlikeBut e c := by
  have hb := onto_of_documents_put hb
  have hc := onto_of_documents_put hc
  have server : ∀ v (c : Cluster), (c.put e v).server.getD "" = c.server.getD "" := by
    cases e <;> exact fun _ _ => rfl
  have insecure : ∀ v (c : Cluster),
      (c.put e v).insecureSkipTlsVerify.getD false = c.insecureSkipTlsVerify.getD false := by
    cases e <;> exact fun _ _ => rfl
  refine ⟨?_, ?_, ?_, fun x hx => ?_⟩
  · rw [Selection.masterUrl_of_onto hb, Selection.masterUrl_of_onto hc, Kubeconfig.selection_put,
      Kubeconfig.selection_put, Selection.map_cluster_put (fun c => c.server.getD "") (server v),
      Selection.map_cluster_put (fun c => c.server.getD "") (server v')]
  · rw [Selection.trustCerts_of_onto hb, Selection.trustCerts_of_onto hc, Kubeconfig.selection_put,
      Kubeconfig.selection_put,
      Selection.map_cluster_put (fun c => c.insecureSkipTlsVerify.getD false) (insecure v),
      Selection.map_cluster_put (fun c => c.insecureSkipTlsVerify.getD false) (insecure v')]
  · obtain ⟨_, known, _, carried⟩ := Selection.carry_of_onto hb
    obtain ⟨_, known', _, carried'⟩ := Selection.carry_of_onto hc
    rw [(Selection.carry_differsOnly carried).value .clientKeyPassphrase rfl,
      known.value .clientKeyPassphrase rfl, (Selection.carry_differsOnly carried').value .clientKeyPassphrase rfl,
      known'.value .clientKeyPassphrase rfl]
  · rw [Selection.tlsEntry_of_onto hb, Selection.tlsEntry_of_onto hc, Kubeconfig.selection_put,
      Kubeconfig.selection_put, Selection.tlsEntry_put_of_ne hx, Selection.tlsEntry_put_of_ne hx]

end Merge

/-- The option that goes before an entry, where options count. -/
def Route.option? (p : Probe) (e : TlsEntry) : Route → Option String
  | .given => none
  | .surroundings => p.get? e.option

theorem Route.tlsEntry_overlay (r : Route) (p : Probe) (c : Config) (x : TlsEntry) :
    (r.overlay p c).tlsEntry x = (r.option? p x).or (c.tlsEntry x) := by
  cases r with
  | given => rfl
  | surroundings =>
    have said : ∀ {name : String} {s : Option String}, ((p.get? name).map some).getD s = (p.get? name).or s := by
      intro name s
      cases p.get? name <;> rfl
    cases x <;> exact (Options.value_overlay p c _).trans said

theorem Config.AlikeBut.overlay {e : TlsEntry} {b c : Config} (h : b.AlikeBut e c) (r : Route) (p : Probe) :
    (r.overlay p b).AlikeBut e (r.overlay p c) := by
  refine ⟨?_, ?_, ?_, fun x hx => by rw [r.tlsEntry_overlay, r.tlsEntry_overlay, h.others x hx]⟩
  · cases r with
    | given => exact h.masterUrl
    | surroundings =>
      show (Options.overlay p b).value .masterUrl = (Options.overlay p c).value .masterUrl
      rw [Options.value_overlay, Options.value_overlay]
      exact congrArg ((p.get? Options.masterUrl).getD ·) h.masterUrl
  · cases r with
    | given => exact h.trustCerts
    | surroundings =>
      show (Options.overlay p b).value .trustCerts = (Options.overlay p c).value .trustCerts
      rw [Options.value_overlay, Options.value_overlay]
      exact congrArg (((p.get? Options.trustCertificates).map Probe.isTrue).getD ·) h.trustCerts
  · cases r with
    | given => exact h.passphrase
    | surroundings =>
      show (Options.overlay p b).value .clientKeyPassphrase = (Options.overlay p c).value .clientKeyPassphrase
      rw [Options.value_overlay, Options.value_overlay]
      exact congrArg ((p.get? Options.clientKeyPassphrase).getD ·) h.passphrase

/-! ## The check and the normal form -/

/-- The check of the installed TLS takes an empty entry for none. -/
theorem Tls.available_of_filled {b c : Config} (trust : b.trustCerts = c.trustCerts)
    (phrase : b.value .clientKeyPassphrase = c.value .clientKeyPassphrase)
    (entries : ∀ x, filled (b.tlsEntry x) = filled (c.tlsEntry x)) (l : Library) :
    available l b = available l c := by
  have caFile : filled b.caCertFile = filled c.caCertFile := entries .certificateAuthority
  have caData : filled b.caCertData = filled c.caCertData := entries .certificateAuthorityData
  have cert : filled b.clientCertFile = filled c.clientCertFile := entries .clientCertificate
  have key : filled b.clientKeyFile = filled c.clientKeyFile := entries .clientKey
  unfold available checkBundle checkPair
  rw [trust, caFile, caData, cert, key, phrase]

/-- An empty key shows nothing, and no file is looked at. -/
theorem ClientKey.shown_empty (fs : FileSystem) (file : Option String) : shown fs file (some "") = none := by
  show detect (decodeData "") = none
  decide

namespace Config

/-- What makes settling the algorithm an error. With one that is asked for the key is not looked at. -/
def algorithmObstacle? (c : Config) (fs : FileSystem) (forced : Option KeyAlgorithm) : Option Obstacle :=
  if forced.isSome then none else ClientKey.obstacle? fs c.clientKeyFile c.clientKeyData

theorem result_keyAlgorithm (c : Config) (fs : FileSystem) (probe? : Option Probe) :
    (c.keyAlgorithm fs probe?).result = (forcedAlgorithm probe?).bind fun forced =>
      guarded (c.algorithmObstacle? fs forced)
        (forced.or (ClientKey.shown fs c.clientKeyFile c.clientKeyData)) := by
  unfold keyAlgorithm
  rw [Traced.result_bind]
  cases forcedAlgorithm probe? with
  | error e => rfl
  | ok forced =>
    cases forced with
    | some a => rfl
    | none => exact ClientKey.result_algorithm _ _ _

theorem result_normalUrl_congr {b c : Config} {https : TlsCheck} (url : b.masterUrl = c.masterUrl)
    (answer : (https b).result = (https c).result) : (b.normalUrl https).result = (c.normalUrl https).result := by
  unfold normalUrl
  rw [url]
  split
  · rfl
  · rw [Traced.result_bind, Traced.result_bind, answer]

/-- The URL of the normal form, or why there is none. Of the key only an option that cannot be read counts,
and a path that no file can have. -/
theorem masterUrl_normalize (c : Config) (https : TlsCheck) (fs : FileSystem) (probe? : Option Probe) :
    (c.normalize https fs probe?).result.map masterUrl =
      if c.masterUrl = "" then .error .noMasterUrl
      else (c.normalUrl https).result.bind fun url => (forcedAlgorithm probe?).bind fun forced =>
        guarded (c.algorithmObstacle? fs forced) url := by
  unfold normalize
  split
  · rfl
  · rw [Traced.result_bind]
    cases (c.normalUrl https).result with
    | error e => rfl
    | ok url =>
      show Except.map masterUrl (Traced.result (_ >>= _)) = (forcedAlgorithm probe?).bind _
      rw [Traced.result_bind, result_keyAlgorithm]
      cases forcedAlgorithm probe? with
      | error e => rfl
      | ok forced =>
        show Except.map masterUrl ((guarded _ _).bind _) = guarded (c.algorithmObstacle? fs forced) url
        cases c.algorithmObstacle? fs forced with
        | some obstacle => rfl
        | none => exact congrArg Except.ok (masterUrl_settled c url _)

end Config

namespace World

/-- Settled configurations have the same URL, or the same error, if URL and answer were the same, and the
keys can be looked at in the same way. -/
theorem settle_masterUrl_agrees {blocked : Obstacle → Prop} {w : World} {r : Route} {b c : Config}
    (url : (r.overlay w.probe b).masterUrl = (r.overlay w.probe c).masterUrl)
    (answer : (w.https (r.overlay w.probe b)).result = (w.https (r.overlay w.probe c)).result)
    (keys : ClientKey.obstacle? w.fs (r.overlay w.probe b).clientKeyFile (r.overlay w.probe b).clientKeyData =
        ClientKey.obstacle? w.fs (r.overlay w.probe c).clientKeyFile (r.overlay w.probe c).clientKeyData ∨
      ∃ obstacle, blocked obstacle ∧ ClientKey.obstacle? w.fs (r.overlay w.probe b).clientKeyFile
        (r.overlay w.probe b).clientKeyData = some obstacle) :
    AgreesUnless blocked ((w.settle r b).map Config.masterUrl) ((w.settle r c).map Config.masterUrl) := by
  have marked : ∀ x : Except Error Config, (x.map r.mark).map Config.masterUrl = x.map Config.masterUrl := by
    intro x
    cases x with
    | error e => rfl
    | ok d => exact congrArg Except.ok (Route.value_mark r d (by decide))
  unfold settle
  cases r.fault? w.probe with
  | some e => exact .inl rfl
  | none =>
    dsimp only
    rw [marked, marked, Config.masterUrl_normalize, Config.masterUrl_normalize, url,
      Config.result_normalUrl_congr url answer]
    split
    · exact .inl rfl
    · refine .bind (.inl rfl) fun full _ => .bind (.inl rfl) fun forced _ => .of_guarded ?_ full
      cases forced with
      | some a => exact .inl rfl
      | none => exact keys

theorem Settles.tlsEntry {w : World} {r : Route} {found c : Config} (h : w.Settles r found c) (x : TlsEntry) :
    c.tlsEntry x = (r.overlay w.probe found).tlsEntry x := by
  cases x <;> exact h.value _ rfl (by decide)

/-- Of an empty key the algorithm is not known, unless an option has it. All other entries that hold material
leave the algorithm as it is. -/
theorem Settles.algorithm_eq_iff {w : World} {r : Route} {e : TlsEntry} {b c blank cleared : Config}
    (ofBlank : w.Settles r b blank) (ofCleared : w.Settles r c cleared)
    (alike : (r.overlay w.probe b).AlikeBut e (r.overlay w.probe c)) (material : e.isPath = false)
    (empty : (r.overlay w.probe b).tlsEntry e = some "") :
    blank.value .clientKeyAlgorithm = cleared.value .clientKeyAlgorithm ↔ (e = .clientKeyData →
      cleared.value .clientKeyAlgorithm = none ∨
        ∃ a, Config.forcedAlgorithm (r.probe? w.probe) = .ok (some a)) := by
  obtain ⟨forced, hf, known⟩ := ofBlank.algorithm
  obtain ⟨forced', hf', known'⟩ := ofCleared.algorithm
  cases hf.symm.trans hf'
  rw [hf]
  by_cases key : e = .clientKeyData
  · have shows : blank.value .clientKeyAlgorithm = forced := by
      have data : (r.overlay w.probe b).clientKeyData = some "" := by
        rw [key] at empty
        exact empty
      rw [known, data, ClientKey.shown_empty, Option.or_none]
    rw [shows, forall_prop_of_true key]
    cases forced with
    | none => simp [eq_comm]
    | some a => simp [known']
  · -- The algorithm is read off the key file and the key, and the entry is neither.
    have file : e ≠ .clientKey := by
      rintro rfl
      cases material
    have same : blank.value .clientKeyAlgorithm = cleared.value .clientKeyAlgorithm := by
      rw [known, known']
      exact congrArg₂ (fun file data => forced.or (ClientKey.shown w.fs file data))
        (alike.others .clientKey file.symm) (alike.others .clientKeyData (Ne.symm key))
    exact ⟨fun _ held => absurd held key, fun _ => same⟩

end World

/-- With the entry empty a configuration is as it is without the entry: the same URL, the same algorithm of
the key, the same answer of the check, and nothing in the place of the entry. -/
structure Config.AsWithout (https : TlsCheck) (e : TlsEntry) (blank cleared : Config) : Prop where
  masterUrl : blank.masterUrl = cleared.masterUrl
  algorithm : blank.value .clientKeyAlgorithm = cleared.value .clientKeyAlgorithm
  answer : (https blank).result = (https cleared).result
  absent : filled (blank.tlsEntry e) = none ∧ filled (cleared.tlsEntry e) = none

namespace World

variable {w : World} {r : Route} {context : Option String} {file : Path} {k : Kubeconfig} {e : TlsEntry}

/-- With the options over them, merged documents with the entry empty and without it differ in nothing that
the check looks at, if the entry holds material. -/
theorem filled_tlsEntry_of_blankMaterial (has : ((k.from file).selection context).has e = true)
    (material : e.isPath = false) {b c : Config}
    (hb : (Merge.documents w.fs context [(k.from file).put context e (some "")] .default).result = .ok b)
    (hc : (Merge.documents w.fs context [(k.from file).put context e none] .default).result = .ok c)
    (x : TlsEntry) :
    filled ((r.overlay w.probe b).tlsEntry x) = filled ((r.overlay w.probe c).tlsEntry x) := by
  by_cases hx : x = e
  · rw [hx, r.tlsEntry_overlay, r.tlsEntry_overlay, Merge.tlsEntry_of_documents_put has hb,
      Merge.tlsEntry_of_documents_put has hc, material]
    cases r.option? w.probe e <;> rfl
  · rw [((Merge.alikeBut_of_documents_put hb hc).overlay r w.probe).others x hx]

/-- The paths of files that a key may be read from: that of the selected user and that of an option. -/
def keyPaths (w : World) (r : Route) (context : Option String) (k : Kubeconfig) : List String :=
  ((k.selection context).tlsEntry .clientKey).toList ++ (r.option? w.probe .clientKey).toList

/-- With the options over them, merged documents name a key file that is one of these. -/
theorem mem_keyPaths (other : e ≠ .clientKey) {v : Option String} {c : Config}
    (h : (Merge.documents w.fs context [(k.from file).put context e v] .default).result = .ok c) {name : String}
    (named : (r.overlay w.probe c).clientKeyFile = some name) : name ∈ w.keyPaths r context (k.from file) := by
  have merged : c.tlsEntry .clientKey = ((k.from file).selection context).tlsEntry .clientKey := by
    rw [Selection.tlsEntry_of_onto (Merge.onto_of_documents_put h), Kubeconfig.selection_put,
      Selection.tlsEntry_put_of_ne other.symm]
  have places : (r.option? w.probe .clientKey).or (c.tlsEntry .clientKey) = some name :=
    (r.tlsEntry_overlay w.probe c .clientKey).symm.trans named
  rw [merged] at places
  rcases Option.or_eq_some_iff.mp places with option | ⟨_, entry⟩
  · exact List.mem_append_right _ (Option.mem_toList.mpr option)
  · exact List.mem_append_left _ (Option.mem_toList.mpr entry)

/-- With the options over them, an empty key hides a file and no entry else does. -/
theorem keyObstacle?_of_blankMaterial (has : ((k.from file).selection context).has e = true)
    (material : e.isPath = false) {b c : Config}
    (hb : (Merge.documents w.fs context [(k.from file).put context e (some "")] .default).result = .ok b)
    (hc : (Merge.documents w.fs context [(k.from file).put context e none] .default).result = .ok c) :
    ClientKey.obstacle? w.fs (r.overlay w.probe c).clientKeyFile (r.overlay w.probe c).clientKeyData =
        ClientKey.obstacle? w.fs (r.overlay w.probe b).clientKeyFile (r.overlay w.probe b).clientKeyData ∨
      ∃ obstacle, KeyFileBlocks w.fs e (w.keyPaths r context (k.from file)) obstacle ∧ ClientKey.obstacle? w.fs
        (r.overlay w.probe c).clientKeyFile (r.overlay w.probe c).clientKeyData = some obstacle := by
  have other : e ≠ .clientKey := by
    rintro rfl
    cases material
  by_cases key : e = .clientKeyData
  · cases blocked : ClientKey.obstacle? w.fs (r.overlay w.probe c).clientKeyFile
        (r.overlay w.probe c).clientKeyData with
    | none =>
      left
      have held : (r.overlay w.probe b).tlsEntry e = (r.option? w.probe e).or (some "") := by
        rw [r.tlsEntry_overlay, Merge.tlsEntry_of_documents_put has hb, material]
        rfl
      rw [key] at held
      have inline : (r.overlay w.probe b).clientKeyData = (r.option? w.probe .clientKeyData).or (some "") := held
      rw [inline]
      cases r.option? w.probe .clientKeyData <;> rfl
    | some obstacle =>
      obtain ⟨_, name, named, reads⟩ := ClientKey.obstacle?_eq_some.mp blocked
      exact .inr ⟨obstacle, ⟨key, name, mem_keyPaths other hc named, reads⟩, rfl⟩
  · left
    have alike := (Merge.alikeBut_of_documents_put hb hc).overlay r w.probe
    have path : (r.overlay w.probe b).clientKeyFile = (r.overlay w.probe c).clientKeyFile :=
      alike.others .clientKey other.symm
    have data : (r.overlay w.probe b).clientKeyData = (r.overlay w.probe c).clientKeyData :=
      alike.others .clientKeyData (Ne.symm key)
    rw [path, data]

/-- Merged documents with the entry empty and without it settle for the same URL. -/
theorem settle_blankMaterial_agrees {l : Tls.Library} (installed : w.https = Tls.available l)
    (has : ((k.from file).selection context).has e = true) (material : e.isPath = false) {b c : Config}
    (hb : (Merge.documents w.fs context [(k.from file).put context e (some "")] .default).result = .ok b)
    (hc : (Merge.documents w.fs context [(k.from file).put context e none] .default).result = .ok c) :
    AgreesUnless (KeyFileBlocks w.fs e (w.keyPaths r context (k.from file)))
      ((w.settle r c).map Config.masterUrl) ((w.settle r b).map Config.masterUrl) := by
  have alike := (Merge.alikeBut_of_documents_put hb hc).overlay r w.probe
  -- The check is asked before the normal form, about the merged documents with the options over them.
  have answer : w.https (r.overlay w.probe b) = w.https (r.overlay w.probe c) := by
    rw [installed]
    exact Tls.available_of_filled alike.trustCerts alike.passphrase
      (filled_tlsEntry_of_blankMaterial has material hb hc) l
  exact settle_masterUrl_agrees alike.masterUrl.symm (congrArg Traced.result answer.symm)
    (keyObstacle?_of_blankMaterial has material hb hc)

/-- Of settled configurations the check says the same: settling leaves alone what it looks at. -/
theorem available_of_blankMaterial (has : ((k.from file).selection context).has e = true)
    (material : e.isPath = false) {b c blank cleared : Config}
    (hb : (Merge.documents w.fs context [(k.from file).put context e (some "")] .default).result = .ok b)
    (hc : (Merge.documents w.fs context [(k.from file).put context e none] .default).result = .ok c)
    (ofBlank : w.Settles r b blank) (ofCleared : w.Settles r c cleared) (l : Tls.Library) :
    Tls.available l blank = Tls.available l cleared := by
  have alike := (Merge.alikeBut_of_documents_put hb hc).overlay r w.probe
  have trust : blank.trustCerts = cleared.trustCerts := by
    rw [Config.trustCerts, Config.trustCerts, ofBlank.value .trustCerts rfl (by decide),
      ofCleared.value .trustCerts rfl (by decide)]
    exact alike.trustCerts
  have phrase : blank.value .clientKeyPassphrase = cleared.value .clientKeyPassphrase := by
    rw [ofBlank.value .clientKeyPassphrase rfl (by decide),
      ofCleared.value .clientKeyPassphrase rfl (by decide)]
    exact alike.passphrase
  refine Tls.available_of_filled trust phrase (fun x => ?_) l
  rw [ofBlank.tlsEntry, ofCleared.tlsEntry]
  exact filled_tlsEntry_of_blankMaterial has material hb hc x

/-- Without an empty entry that holds material the URL is as it is with it, and so is every failure, but that
an inline key is then looked for in a file. -/
theorem masterUrl_of_blankMaterial {l : Tls.Library} (installed : w.https = Tls.available l)
    (has : ((k.from file).selection context).has e = true) (material : e.isPath = false) :
    AgreesUnless (KeyFileBlocks w.fs e (w.keyPaths r context (k.from file)))
      ((w.resolveDocuments r context [(k.from file).put context e none]).map Config.masterUrl)
      ((w.resolveDocuments r context [(k.from file).put context e (some "")]).map Config.masterUrl) := by
  obtain ⟨b, hb⟩ := Merge.exists_documents_put has w.fs (some "")
  obtain ⟨c, hc⟩ := Merge.exists_documents_put has w.fs none
  rw [map_resolveDocuments, map_resolveDocuments, hb, hc]
  refine .guarded_bind ?_ fun cleared blank => ?_
  · rcases ((k.from file).selection context).obstacle?_put material w.fs with
      same | ⟨obstacle, ⟨key, path, named, reads⟩, stuck⟩
    · exact .inl same
    · exact .inr ⟨obstacle, ⟨key, path, List.mem_append_left _ named, reads⟩, stuck⟩
  · rw [blank, guarded_none] at hb
    rw [cleared, guarded_none] at hc
    exact settle_blankMaterial_agrees installed has material hb hc

/-- With an entry empty and without it, a document from a file gives the same configuration for all purposes
of TLS exactly if the entry holds material, and, if it is that of the key, the key is not looked for in a file
that shows an algorithm, because there is none or an option has it. An entry that names a file becomes the
directory of the kubeconfig. Failures are the same, but that without an inline key it may be looked for at a
path that no file can have. -/
theorem blankEntry_of_resolveDocuments {l : Tls.Library} (installed : w.https = Tls.available l)
    (unset : r.option? w.probe e = none) (has : ((k.from file).selection context).has e = true) :
    (e.isPath = false → AgreesUnless (KeyFileBlocks w.fs e (w.keyPaths r context (k.from file)))
      ((w.resolveDocuments r context [(k.from file).put context e none]).map Config.masterUrl)
      ((w.resolveDocuments r context [(k.from file).put context e (some "")]).map Config.masterUrl)) ∧
    ∀ blank cleared,
      w.resolveDocuments r context [(k.from file).put context e (some "")] = .ok blank →
      w.resolveDocuments r context [(k.from file).put context e none] = .ok cleared →
      cleared.tlsEntry e = none ∧ blank.tlsEntry e = some (if e.isPath then file.parent.text else "") ∧
      (blank.AsWithout w.https e cleared ↔ e.isPath = false ∧ (e = .clientKeyData →
        cleared.value .clientKeyAlgorithm = none ∨
          ∃ a, Config.forcedAlgorithm (r.probe? w.probe) = .ok (some a))) := by
  refine ⟨masterUrl_of_blankMaterial installed has, fun blank cleared resolvesBlank resolvesCleared => ?_⟩
  obtain ⟨b, hb, settledBlank⟩ := except_bind_eq_ok.mp resolvesBlank
  obtain ⟨c, hc, settledCleared⟩ := except_bind_eq_ok.mp resolvesCleared
  have ofBlank := settles_of_settle settledBlank
  have ofCleared := settles_of_settle settledCleared
  have none : cleared.tlsEntry e = .none := by
    rw [ofCleared.tlsEntry, r.tlsEntry_overlay, unset, Option.none_or, Merge.tlsEntry_of_documents_put has hc]
    cases e.isPath <;> rfl
  have held : blank.tlsEntry e = some (if e.isPath then file.parent.text else "") := by
    rw [ofBlank.tlsEntry, r.tlsEntry_overlay, unset, Option.none_or, Merge.tlsEntry_of_documents_put has hb,
      Merge.resolve_empty, apply_ite some]
  have alike := (Merge.alikeBut_of_documents_put hb hc).overlay r w.probe
  have algorithm : e.isPath = false → _ := fun material => ofBlank.algorithm_eq_iff ofCleared alike material (by
    rw [← ofBlank.tlsEntry, held, material]
    rfl)
  refine ⟨none, held, ⟨fun same => ?_, fun ⟨material, known⟩ => ⟨?_, (algorithm material).mpr known, ?_, ?_⟩⟩⟩
  · have material : e.isPath = false := by
      cases path : e.isPath with
      | false => rfl
      | true =>
        -- A directory is never spelled by the empty text, so the field is not absent.
        have directory := same.absent.1
        rw [held, path, if_pos rfl, filled_of_ne file.parent.text_ne_empty] at directory
        cases directory
    exact ⟨material, (algorithm material).mp same.algorithm⟩
  · have url := masterUrl_of_blankMaterial (r := r) installed has material
    rw [resolvesBlank, resolvesCleared] at url
    exact Except.ok.inj url.eq_of_ok
  · rw [installed, available_of_blankMaterial has material hb hc ofBlank ofCleared]
  · rw [held, none, material]
    exact ⟨rfl, rfl⟩

/-- Files, and the check of the installed TLS. -/
def checked (files : List (String × String)) : World :=
  { sample [] files with https := Tls.available (sample [] files).fs }

/-- A cluster without a scheme. -/
def bareCluster : Kubeconfig :=
  ⟨none, none, [⟨"c", { Cluster.empty with server := some "c:6443" }, none⟩], [],
    [⟨"a", ⟨some "c", none, none⟩, none⟩], some "a", none⟩

/-- An empty bundle counts as none. -/
theorem blankEntry_of_resolveDocuments_sample : ∃ blank cleared,
    (checked []).resolveDocuments .given none [(bareCluster.from (Path.ofText "/etc/k")).put none
      .certificateAuthorityData (some "")] = .ok blank ∧
    (checked []).resolveDocuments .given none [(bareCluster.from (Path.ofText "/etc/k")).put none
      .certificateAuthorityData none] = .ok cleared ∧
    cleared.masterUrl = "https://c:6443/" ∧
    blank.AsWithout (checked []).https .certificateAuthorityData cleared := by
  obtain ⟨blank, hb, _⟩ := except_ok_of_map (show ((checked []).resolveDocuments .given none
    [(bareCluster.from (Path.ofText "/etc/k")).put none .certificateAuthorityData (some "")]).toOption.map
      (fun _ => ()) = some () by decide +kernel)
  obtain ⟨cleared, hc, url⟩ := except_ok_of_map (show ((checked []).resolveDocuments .given none
    [(bareCluster.from (Path.ofText "/etc/k")).put none .certificateAuthorityData none]).toOption.map
      Config.masterUrl = some "https://c:6443/" by decide +kernel)
  have has : ((bareCluster.from (Path.ofText "/etc/k")).selection none).has .certificateAuthorityData = true := by
    decide +kernel
  obtain ⟨_, _, same⟩ := (blankEntry_of_resolveDocuments (w := checked []) (r := .given) rfl rfl has).2
    blank cleared hb hc
  exact ⟨blank, cleared, hb, hc, url, same.mpr ⟨rfl, nofun⟩⟩

/-- A kubeconfig with a cluster that has more entries. -/
def clusterText (entries : String) : String :=
  "clusters:\n- name: c\n  cluster:\n    server: c:6443\n" ++ entries ++
    "contexts:\n- name: a\n  context:\n    cluster: c\ncurrent-context: a\n"

def authorityFiles : List (String × String) :=
  [("/etc/blank", clusterText "    certificate-authority: \"\"\n"), ("/etc/cleared", clusterText "")]

/-- An empty path is the directory, which is no bundle, so that the scheme is another one. -/
theorem blank_path_is_directory : ∃ blank cleared,
    ((checked authorityFiles).ofKubeconfig none (.path (Path.ofText "/etc/blank"))).result = .ok blank ∧
    ((checked authorityFiles).ofKubeconfig none (.path (Path.ofText "/etc/cleared"))).result = .ok cleared ∧
    blank.caCertFile = some "/etc" ∧ cleared.caCertFile = none ∧
    blank.masterUrl = "http://c:6443/" ∧ cleared.masterUrl = "https://c:6443/" := by
  obtain ⟨blank, hb, vb⟩ := except_ok_of_map (show ((checked authorityFiles).ofKubeconfig none
    (.path (Path.ofText "/etc/blank"))).result.toOption.map (fun c => (c.caCertFile, c.masterUrl)) =
      some (some "/etc", "http://c:6443/") by decide +kernel)
  obtain ⟨cleared, hc, vc⟩ := except_ok_of_map (show ((checked authorityFiles).ofKubeconfig none
    (.path (Path.ofText "/etc/cleared"))).result.toOption.map (fun c => (c.caCertFile, c.masterUrl)) =
      some (none, "https://c:6443/") by decide +kernel)
  obtain ⟨directory, http⟩ := Prod.mk.inj vb
  obtain ⟨nothing, https⟩ := Prod.mk.inj vc
  exact ⟨blank, cleared, hb, hc, directory, nothing, http, https⟩

end World

end ClusterAccess
