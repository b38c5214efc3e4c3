import ClusterAccess.Proofs.Explicit
import ClusterAccess.Proofs.LastEntry
import ClusterAccess.Proofs.Selection

/-!
# Merging as selecting from one document

Documents that are merged count as one document with all their entries in order. Of its entries three
matter beside the list of contexts: the selected context, its cluster and its user, each the last one of
its name. What these make of a configuration is said by `Selection.onto`.
-/
namespace ClusterAccess

/-- One document with the entries of all in their order, and the last current context declared. -/
def Kubeconfig.concat (docs : List Kubeconfig) : Kubeconfig where
  apiVersion := none
  kind := none
  clusters := docs.flatMap (·.clusters)
  users := docs.flatMap (·.users)
  contexts := docs.flatMap (·.contexts)
  currentContext := (docs.filterMap fun doc => filled doc.currentContext).getLast?
  source := none

/-- The document with another current context. -/
def Kubeconfig.withCurrent (name : String) (k : Kubeconfig) : Kubeconfig :=
  { k with currentContext := some name }

/-- What is selected from a document. -/
structure Selection where
  contexts : List (Named Context)
  name : Option String
  context : Option (Named Context)
  cluster : Option (Named Cluster)
  user : Option (Named User)

namespace Kubeconfig

/-- The context asked for, or else the current one. -/
def chosenName (wanted : Option String) (k : Kubeconfig) : Option String :=
  (filled wanted).or (filled k.currentContext)

/-- The last context of the chosen name. -/
def chosenContext? (wanted : Option String) (k : Kubeconfig) : Option (Named Context) :=
  (k.chosenName wanted).bind (Merge.lastOf? · k.contexts)

/-- The last entries of the names that are referred to. A context that leaves out a name refers to the
empty one. -/
def selection (wanted : Option String) (k : Kubeconfig) : Selection where
  contexts := Merge.lastOfEach k.contexts
  name := k.chosenName wanted
  context := k.chosenContext? wanted
  cluster := (k.chosenContext? wanted).bind fun n => Merge.lastOf? (n.value.cluster.getD "") k.clusters
  user := (k.chosenContext? wanted).bind fun n => Merge.lastOf? (n.value.user.getD "") k.users

theorem chosenName_of_ne {name : String} (h : name ≠ "") (k : Kubeconfig) :
    k.chosenName (some name) = some name := by
  rw [chosenName, filled_of_ne h, Option.some_or]

theorem chosenContext?_of_ne {name : String} (h : name ≠ "") (k : Kubeconfig) :
    k.chosenContext? (some name) = Merge.lastOf? name k.contexts := by
  rw [chosenContext?, chosenName_of_ne h, Option.bind_some]

@[simp] theorem selection_contexts (wanted : Option String) (k : Kubeconfig) :
    (k.selection wanted).contexts = Merge.lastOfEach k.contexts := rfl

@[simp] theorem selection_name (wanted : Option String) (k : Kubeconfig) :
    (k.selection wanted).name = k.chosenName wanted := rfl

@[simp] theorem selection_context (wanted : Option String) (k : Kubeconfig) :
    (k.selection wanted).context = k.chosenContext? wanted := rfl

end Kubeconfig

namespace Selection

/-- A context over a configuration. -/
def withContext (context : Named Context) (c : Config) : Config :=
  (c.set .currentContext (some context)).set .namespaceName context.value.namespaceName

/-- The selected cluster and user over a configuration. Without the cluster the user has no say. -/
def carry (fs : FileSystem) (s : Selection) (c : Config) : Except Error Config :=
  match s.cluster, s.user with
  | none, _ => .ok c
  | some cluster, none => .ok (c.evolve (Merge.clusterChanges cluster))
  | some cluster, some user => (Merge.applyUser fs user (c.evolve (Merge.clusterChanges cluster))).result

/-- The selected user that has a say. -/
def owner (s : Selection) : Option (Named User) := s.cluster.bind fun _ => s.user

/-- What the selected entries say of the configuration. -/
def changes (fs : FileSystem) (s : Selection) : Changes where
  value? f :=
    (s.owner.bind fun u => (Merge.userChanges u (ClientKey.shown fs
        (Merge.resolve u.source u.value.clientKey) u.value.clientKeyData) (Merge.plugin fs u)).value? f).or
      (s.cluster.bind fun n => (Merge.clusterChanges n).value? f)

/-- What makes it an error to look at the key and the token of the user that has a say. -/
def obstacle? (fs : FileSystem) (s : Selection) : Option Obstacle := s.owner.bind (Merge.userObstacle? fs)

/-- A configuration with what the selected entries say. -/
def carried (fs : FileSystem) (s : Selection) (c : Config) : Config :=
  (c.evolve (s.changes fs)).withAutoToken ((s.owner.map (Merge.token fs)).getD c.autoToken)

/-- What is selected, over a configuration. -/
def onto (fs : FileSystem) (s : Selection) (target : Config) : Except Error Config :=
  let merged := (target.set .contexts s.contexts).set .source Source.kubeconfig
  match s.name, s.context with
  | none, _ => .ok merged
  | some name, none => .error (.unknownContext name (s.contexts.map (·.name)))
  | some _, some context => s.carry fs (withContext context merged)

/-! ## What comes out -/

theorem carry_eq (fs : FileSystem) (s : Selection) (c : Config) :
    s.carry fs c = guarded (s.obstacle? fs) (s.carried fs c) := by
  unfold carry obstacle? carried changes owner
  cases s.cluster with
  | none => rfl
  | some cluster =>
    cases s.user with
    | none => rfl
    | some u =>
      dsimp only
      rw [Merge.result_applyUser]
      refine congrArg (guarded _) (Config.ext (fun f => ?_) rfl rfl)
      simp only [Merge.withUser, Config.value_evolve, Config.withAutoToken, Option.bind_some, Option.getD_or]

theorem carry_eq_ok {fs : FileSystem} {s : Selection} {c d : Config} :
    s.carry fs c = .ok d ↔ s.obstacle? fs = none ∧ s.carried fs c = d := by
  rw [carry_eq, guarded_eq_ok]

theorem changes_areOnly (fs : FileSystem) (s : Selection) : (s.changes fs).AreOnly Field.isCarried := by
  intro f hf
  refine Option.or_eq_none_iff.mpr ⟨?_, ?_⟩
  · exact Option.bind_eq_none_iff.mpr fun u _ => Merge.userChanges_areOnly u _ _ f hf
  · exact Option.bind_eq_none_iff.mpr fun n _ => Merge.clusterChanges_areOnly n f hf

/-- Of a field that no user writes, the cluster says what it is. -/
theorem changes_of_cluster {f : Field} (unowned : ∀ u a p, (Merge.userChanges u a p).value? f = none)
    (fs : FileSystem) (s : Selection) :
    (s.changes fs).value? f = s.cluster.bind fun n => (Merge.clusterChanges n).value? f := by
  unfold changes
  dsimp only
  rw [Option.bind_eq_none_iff.mpr fun u _ => unowned u _ _, Option.none_or]

/-- Of a field that no cluster writes, the user says what it is. -/
theorem changes_of_owner {f : Field} (unowned : ∀ n, (Merge.clusterChanges n).value? f = none)
    (fs : FileSystem) (s : Selection) : (s.changes fs).value? f = s.owner.bind fun u =>
      (Merge.userChanges u (ClientKey.shown fs (Merge.resolve u.source u.value.clientKey)
        u.value.clientKeyData) (Merge.plugin fs u)).value? f := by
  unfold changes
  dsimp only
  rw [Option.bind_eq_none_iff.mpr fun n _ => unowned n, Option.or_none]

theorem carry_differsOnly {fs : FileSystem} {s : Selection} {c d : Config} (h : s.carry fs c = .ok d) :
    c.DiffersOnly Field.isCarried d := by
  obtain ⟨_, rfl⟩ := carry_eq_ok.mp h
  exact (Config.DiffersOnly.evolve c (s.changes_areOnly fs)).withAutoToken _

/-- The contexts are those of the selection, and a chosen one is the current one. -/
theorem contexts_of_onto {fs : FileSystem} {s : Selection} {target c : Config}
    (h : s.onto fs target = .ok c) : c.contexts = s.contexts ∧
      (s.name = none ∨ ∃ context, s.context = some context ∧ c.currentContext = some context) := by
  unfold onto at h
  dsimp only at h
  split at h
  · next hn =>
    cases h
    exact ⟨rfl, .inl hn⟩
  · cases h
  · next name context _ hc =>
    have hw := carry_differsOnly h
    exact ⟨hw.value .contexts rfl, .inr ⟨context, hc, hw.value .currentContext rfl⟩⟩

/-- What a document selects is carried into a configuration that differs from the target only in what is
known of the contexts. -/
theorem carry_of_onto {k : Kubeconfig} {wanted : Option String} {fs : FileSystem} {target c : Config}
    (h : (k.selection wanted).onto fs target = .ok c) : ∃ base : Config,
      target.DiffersOnly (fun f => f.isDiscovered && !f.isCarried) base ∧
        base.autoToken = target.autoToken ∧ (k.selection wanted).carry fs base = .ok c := by
  have listed : target.DiffersOnly (fun f => f.isDiscovered && !f.isCarried)
      ((target.set .contexts (k.selection wanted).contexts).set .source Source.kubeconfig) :=
    (Config.DiffersOnly.set target rfl _).trans (.set _ rfl _)
  unfold onto at h
  dsimp only at h
  split at h
  · next unnamed =>
    have unnamed : k.chosenName wanted = none := unnamed
    have cluster : (k.selection wanted).cluster = none := by
      simp [Kubeconfig.selection, Kubeconfig.chosenContext?, unnamed]
    refine ⟨_, listed, rfl, ?_⟩
    rw [carry, cluster]
    exact h
  · cases h
  · next context _ _ => exact ⟨_, (listed.trans (.set _ rfl _)).trans (.set _ rfl _), rfl, h⟩

/-- What the entries of a document say is what the configuration has, and where they say nothing, the
target. -/
theorem value_of_onto {k : Kubeconfig} {wanted : Option String} {fs : FileSystem} {target c : Config}
    (h : (k.selection wanted).onto fs target = .ok c) {f : Field} (carried : f.isCarried = true) :
    c.value f = (((k.selection wanted).changes fs).value? f).getD (target.value f) := by
  obtain ⟨base, known, _, h⟩ := carry_of_onto h
  obtain ⟨_, rfl⟩ := carry_eq_ok.mp h
  rw [← known.value f (by rw [carried, Bool.not_true, Bool.and_false])]
  rfl

/-- Of a field that no user writes, a selected cluster says what the configuration has. -/
theorem value_of_cluster {k : Kubeconfig} {wanted : Option String} {fs : FileSystem} {target c : Config}
    (h : (k.selection wanted).onto fs target = .ok c) {n : Named Cluster}
    (selected : (k.selection wanted).cluster = some n) {f : Field} (carried : f.isCarried = true)
    (unowned : ∀ u a p, (Merge.userChanges u a p).value? f = none) :
    c.value f = ((Merge.clusterChanges n).value? f).getD (target.value f) := by
  rw [value_of_onto h carried, changes_of_cluster unowned, selected, Option.bind_some]

/-- The URL is the server of the selected cluster. -/
theorem masterUrl_of_onto {k : Kubeconfig} {wanted : Option String} {fs : FileSystem}
    {target c : Config} (h : (k.selection wanted).onto fs target = .ok c) : c.masterUrl =
      ((k.selection wanted).cluster.map fun n => n.value.server.getD "").getD target.masterUrl := by
  rw [Config.masterUrl, value_of_onto h rfl, changes_of_cluster fun _ _ _ => rfl]
  cases (k.selection wanted).cluster <;> rfl

theorem autoToken_of_onto {k : Kubeconfig} {wanted : Option String} {fs : FileSystem} {target c : Config}
    (h : (k.selection wanted).onto fs target = .ok c) :
    c.autoToken = ((k.selection wanted).owner.map (Merge.token fs)).getD target.autoToken := by
  obtain ⟨base, _, blank, h⟩ := carry_of_onto h
  obtain ⟨_, rfl⟩ := carry_eq_ok.mp h
  rw [← blank]
  rfl

end Selection

namespace Selection

variable {k : Kubeconfig} {wanted : Option String} {fs : FileSystem} {target c : Config}

/-- What a document selects has no obstacles if it comes out. -/
theorem obstacle?_of_onto (h : (k.selection wanted).onto fs target = .ok c) :
    (k.selection wanted).obstacle? fs = none := by
  obtain ⟨_, _, _, h⟩ := carry_of_onto h
  exact (carry_eq_ok.mp h).1

/-- A key that comes from the selected user has been looked at already. -/
theorem keyObstacle?_of_onto (h : (k.selection wanted).onto fs .default = .ok c) :
    ClientKey.obstacle? fs c.clientKeyFile c.clientKeyData = none := by
  have clear := obstacle?_of_onto h
  rw [Config.clientKeyFile, Config.clientKeyData, value_of_onto h rfl, value_of_onto h rfl,
    changes_of_owner fun _ => rfl, changes_of_owner fun _ => rfl]
  unfold obstacle? at clear
  cases owned : (k.selection wanted).owner with
  | none => rfl
  | some u =>
    rw [owned] at clear
    exact (Option.or_eq_none_iff.mp clear).1

end Selection

/-- A document in which a cluster is selected has the context that was chosen, and fails for its user only. -/
theorem Kubeconfig.onto_of_cluster {k : Kubeconfig} {wanted : Option String} {cluster : Named Cluster}
    (h : (k.selection wanted).cluster = some cluster) (fs : FileSystem) (target : Config) :
    ∃ c, (k.selection wanted).onto fs target = guarded ((k.selection wanted).obstacle? fs) c := by
  obtain ⟨context, chosen, _⟩ := Option.bind_eq_some_iff.mp h
  obtain ⟨name, named, _⟩ := Option.bind_eq_some_iff.mp chosen
  unfold Selection.onto
  rw [selection_name, selection_context, named, chosen]
  exact ⟨_, Selection.carry_eq _ _ _⟩

namespace Merge

/-! ## Merged documents and their concatenation -/

theorem selectedName_eq (wanted : Option String) (docs : List Kubeconfig) :
    selectedName wanted docs = (Kubeconfig.concat docs).chosenName wanted := by
  have hd : (Kubeconfig.concat docs).currentContext = declaredContext docs :=
    (declaredContext_eq_getLast? docs).symm
  rw [selectedName, Kubeconfig.chosenName, hd, filled_declaredContext]

theorem selectedName_singleton (wanted : Option String) (k : Kubeconfig) :
    selectedName wanted [k] = k.chosenName wanted := by
  rw [selectedName, Kubeconfig.chosenName, declaredContext, List.foldl_cons, List.foldl_nil, Option.or_none]

/-- Documents with the same entries and the same selected name are merged alike, log included. -/
theorem documents_eq_singleton {docs : List Kubeconfig} {wanted : Option String} {k : Kubeconfig}
    {other : Option String} (hc : k.clusters = (Kubeconfig.concat docs).clusters)
    (hu : k.users = (Kubeconfig.concat docs).users) (hx : k.contexts = (Kubeconfig.concat docs).contexts)
    (hn : k.chosenName other = (Kubeconfig.concat docs).chosenName wanted) (fs : FileSystem)
    (target : Config) : documents fs wanted docs target = documents fs other [k] target := by
  have clusters_eq : clusters docs = clusters [k] := by rw [clusters, clusters, List.flatMap_singleton, hc]; rfl
  have users_eq : users docs = users [k] := by rw [users, users, List.flatMap_singleton, hu]; rfl
  have contexts_eq : contexts docs = contexts [k] := by
    rw [contexts, contexts, List.flatMap_singleton, hx]; rfl
  unfold documents select selectUser
  rw [clusters_eq, users_eq, contexts_eq, selectedName_eq, selectedName_singleton, hn]

/-! ## What merging gives -/

theorem contexts_eq_lastOfEach (docs : List Kubeconfig) :
    contexts docs = lastOfEach (Kubeconfig.concat docs).contexts := lastNamed_eq_lastOfEach _

theorem findNamed?_contexts (name : String) (docs : List Kubeconfig) :
    findNamed? name (contexts docs) = lastOf? name (Kubeconfig.concat docs).contexts :=
  findNamed?_lastNamed _ _

theorem result_selectUser (fs : FileSystem) (docs : List Kubeconfig) (context : Named Context)
    (c : Config) : (selectUser fs docs context c).result =
      match lastOf? (context.value.user.getD "") (Kubeconfig.concat docs).users with
      | some u => (applyUser fs u c).result
      | none => .ok c := by
  have hu : findNamed? (context.value.user.getD "") (users docs) =
      lastOf? (context.value.user.getD "") (Kubeconfig.concat docs).users := findNamed?_lastNamed _ _
  unfold selectUser
  rw [hu]
  cases lastOf? (context.value.user.getD "") (Kubeconfig.concat docs).users with
  | some u => rfl
  | none =>
    dsimp only
    split <;> rfl

theorem result_select {docs : List Kubeconfig} {context : Named Context} {s : Selection}
    (hc : s.cluster = lastOf? (context.value.cluster.getD "") (Kubeconfig.concat docs).clusters)
    (hu : s.user = lastOf? (context.value.user.getD "") (Kubeconfig.concat docs).users)
    (fs : FileSystem) (c : Config) : (select fs docs context c).result = s.carry fs c := by
  have hf : findNamed? (context.value.cluster.getD "") (clusters docs) =
      lastOf? (context.value.cluster.getD "") (Kubeconfig.concat docs).clusters := findNamed?_lastNamed _ _
  unfold select Selection.carry
  rw [hf, ← hc]
  cases s.cluster with
  | none => rfl
  | some cluster =>
    dsimp only
    rw [Traced.result_bind_of_ok (result_applyCluster cluster c), result_selectUser, ← hu]
    cases s.user <;> rfl

/-- Merging gives what the selection from the concatenated documents gives. -/
theorem result_documents (fs : FileSystem) (wanted : Option String) (docs : List Kubeconfig)
    (target : Config) : (documents fs wanted docs target).result =
      ((Kubeconfig.concat docs).selection wanted).onto fs target := by
  unfold documents Selection.onto Kubeconfig.selection Kubeconfig.chosenContext?
  rw [selectedName_eq]
  cases hn : (Kubeconfig.concat docs).chosenName wanted with
  | none =>
    rw [contexts_eq_lastOfEach]
    rfl
  | some name =>
    dsimp only [Option.bind_some]
    rw [findNamed?_contexts, contexts_eq_lastOfEach]
    cases lastOf? name (Kubeconfig.concat docs).contexts with
    | none => rfl
    | some context =>
      dsimp only [Option.bind_some]
      rw [Traced.result_debug_bind]
      exact result_select rfl rfl fs _

/-- Merging documents is merging the one document with all their entries, in every surrounding and with
every outcome. A context that is asked for counts as the declared one. Context, cluster and user are the
last ones of their names; the contexts stand in the order of their first appearance, each name once. -/
theorem documents_eq_concat (fs : FileSystem) (wanted : Option String) (docs : List Kubeconfig)
    (target : Config) :
    documents fs wanted docs target = documents fs wanted [Kubeconfig.concat docs] target ∧
    (∀ name, name ≠ "" → documents fs (some name) docs target =
      documents fs none [(Kubeconfig.concat docs).withCurrent name] target) ∧
    (documents fs wanted docs target).result =
      ((Kubeconfig.concat docs).selection wanted).onto fs target ∧
    ∀ c, (documents fs wanted docs target).result = .ok c →
      c.contexts.map (·.name) = ((Kubeconfig.concat docs).contexts.map (·.name)).eraseDups ∧
      (c.contexts.map (·.name)).Nodup ∧
      ∀ n ∈ c.contexts, lastOf? n.name (Kubeconfig.concat docs).contexts = some n := by
  refine ⟨documents_eq_singleton rfl rfl rfl rfl fs target, fun name hne => ?_,
    result_documents fs wanted docs target, fun c hc => ?_⟩
  · have hn : ((Kubeconfig.concat docs).withCurrent name).chosenName none =
        (Kubeconfig.concat docs).chosenName (some name) := by
      rw [Kubeconfig.chosenName_of_ne hne]
      exact filled_of_ne hne
    exact documents_eq_singleton (k := (Kubeconfig.concat docs).withCurrent name) rfl rfl rfl hn fs target
  · rw [result_documents] at hc
    have hx : c.contexts = lastNamed (Kubeconfig.concat docs).contexts :=
      (Selection.contexts_of_onto hc).1.trans (contexts_eq_lastOfEach docs).symm
    rw [hx]
    exact ⟨names_lastNamed _, nodup_names_lastNamed _, fun n hn => lastOf?_of_mem_lastNamed hn⟩

/-- Two contexts, and a later document that changes one of them and the cluster. -/
def sampleDocuments : List Kubeconfig :=
  [⟨none, none, [⟨"c", { Cluster.empty with server := some "https://old" }, none⟩], [],
      [⟨"a", ⟨some "c", none, none⟩, none⟩, ⟨"b", .empty, none⟩], some "a", none⟩,
    ⟨none, none, [⟨"c", { Cluster.empty with server := some "https://new" }, none⟩], [],
      [⟨"a", ⟨some "c", none, some "later"⟩, none⟩], some "", none⟩]

/-- The later cluster and context count, in the place of the earlier ones; the empty name declares none. -/
theorem documents_eq_concat_sample : ∃ c,
    (documents (World.sample [] []).fs none sampleDocuments .default).result = .ok c ∧
      c.masterUrl = "https://new" ∧ c.contexts.map (·.name) = ["a", "b"] ∧
      documents (World.sample [] []).fs (some "b") sampleDocuments .default =
        documents (World.sample [] []).fs none [(Kubeconfig.concat sampleDocuments).withCurrent "b"]
          .default := by
  obtain ⟨c, hc, hm⟩ := except_ok_of_map (show (documents (World.sample [] []).fs none sampleDocuments
    .default).result.toOption.map Config.masterUrl = some "https://new" by decide +kernel)
  obtain ⟨_, chosen, _, listed⟩ :=
    documents_eq_concat (World.sample [] []).fs none sampleDocuments .default
  refine ⟨c, hc, hm, ?_, chosen "b" (by decide)⟩
  rw [(listed c hc).1]
  decide +kernel

end Merge

end ClusterAccess
