import ClusterAccess.Proofs.Concatenation

/-!
# What is not selected does not count

Of all clusters and users one cluster and one user reach a configuration, and of all files those of that
user. So two lists of documents in which the same is selected are merged alike, whatever else they hold,
and all other clusters and users can as well be taken out.
-/
namespace ClusterAccess

/-- The same is selected from the documents: contexts and declared context are the same, and the entries
that the chosen context refers to. The file systems agree on the files of its user. -/
structure Merge.SameSelected (wanted : Option String) (docs other : List Kubeconfig)
    (fs later : FileSystem) : Prop where
  contexts : contexts docs = contexts other
  declared : declaredContext docs = declaredContext other
  cluster : ∀ context, (Kubeconfig.concat docs).chosenContext? wanted = some context →
    lastOf? (context.value.cluster.getD "") (docs.flatMap (·.clusters)) =
      lastOf? (context.value.cluster.getD "") (other.flatMap (·.clusters))
  user : ∀ context, (Kubeconfig.concat docs).chosenContext? wanted = some context →
    lastOf? (context.value.user.getD "") (docs.flatMap (·.users)) =
      lastOf? (context.value.user.getD "") (other.flatMap (·.users))
  files : ∀ context, (Kubeconfig.concat docs).chosenContext? wanted = some context →
    ∀ u, lastOf? (context.value.user.getD "") (docs.flatMap (·.users)) = some u →
      fs.SameOn (openedBy u) later

/-! ## Selecting -/

namespace Kubeconfig

variable {wanted : Option String} {k other : Kubeconfig}

/-- A selection is known from the contexts, the chosen context and the entries that it refers to. -/
theorem selection_congr (contexts : Merge.lastOfEach k.contexts = Merge.lastOfEach other.contexts)
    (name : k.chosenName wanted = other.chosenName wanted)
    (context : k.chosenContext? wanted = other.chosenContext? wanted)
    (cluster : ∀ n, k.chosenContext? wanted = some n →
      Merge.lastOf? (n.value.cluster.getD "") k.clusters =
        Merge.lastOf? (n.value.cluster.getD "") other.clusters)
    (user : ∀ n, k.chosenContext? wanted = some n →
      Merge.lastOf? (n.value.user.getD "") k.users = Merge.lastOf? (n.value.user.getD "") other.users) :
    k.selection wanted = other.selection wanted := by
  unfold selection
  rw [contexts, name, ← context]
  cases h : k.chosenContext? wanted with
  | none => rfl
  | some n =>
    dsimp only [Option.bind_some]
    rw [cluster n h, user n h]

/-- From one document the same is selected as from all of one. -/
theorem selection_concat_singleton (wanted : Option String) (k : Kubeconfig) :
    (concat [k]).selection wanted = k.selection wanted := by
  have clusters : (concat [k]).clusters = k.clusters := List.flatMap_singleton _ _
  have users : (concat [k]).users = k.users := List.flatMap_singleton _ _
  have contexts : (concat [k]).contexts = k.contexts := List.flatMap_singleton _ _
  have name : (concat [k]).chosenName wanted = k.chosenName wanted := by
    rw [← Merge.selectedName_eq, Merge.selectedName_singleton]
  refine selection_congr ?_ name ?_ (fun n _ => ?_) fun n _ => ?_
  · rw [contexts]
  · rw [chosenContext?, chosenContext?, name, contexts]
  · rw [clusters]
  · rw [users]

end Kubeconfig

namespace Selection

/-- The files of the selected user. -/
def opened (s : Selection) : List String := (s.user.map Merge.openedBy).getD []

theorem mem_opened {wanted : Option String} {k : Kubeconfig} {name : String}
    (h : name ∈ (k.selection wanted).opened) : name ∈ k.users.flatMap Merge.openedBy := by
  unfold opened at h
  cases hu : (k.selection wanted).user with
  | none =>
    rw [hu] at h
    cases h
  | some u =>
    rw [hu] at h
    obtain ⟨_, _, hl⟩ := Option.bind_eq_some_iff.mp hu
    exact List.mem_flatMap.mpr ⟨u, Merge.mem_of_lastOf? hl, h⟩

/-- A selection asks for no other files than those of its user. -/
theorem onto_congr {s : Selection} {fs later : FileSystem} (same : fs.SameOn s.opened later)
    (target : Config) : s.onto fs target = s.onto later target := by
  have hcarry : ∀ c, s.carry fs c = s.carry later c := by
    intro c
    unfold carry
    cases s.cluster with
    | none => rfl
    | some cluster =>
      cases hu : s.user with
      | none => rfl
      | some u =>
        have same : fs.SameOn (Merge.openedBy u) later := by
          rw [opened, hu] at same
          exact same
        dsimp only
        rw [Merge.applyUser_congr same]
  unfold onto
  simp only [hcarry]

/-- The key file is the one from before, or the selected user's. -/
theorem clientKeyFile_of_onto {k : Kubeconfig} {wanted : Option String} {fs : FileSystem}
    {target c : Config} (h : (k.selection wanted).onto fs target = .ok c) :
    c.clientKeyFile = target.clientKeyFile ∨ ∃ u, (k.selection wanted).user = some u ∧
      c.clientKeyFile = Merge.resolve u.source u.value.clientKey := by
  have key := value_of_onto h (f := .clientKeyFile) rfl
  rw [changes_of_owner fun _ => rfl] at key
  cases hu : (k.selection wanted).owner with
  | none =>
    rw [hu] at key
    exact .inl key
  | some u =>
    rw [hu] at key
    obtain ⟨_, _, selected⟩ := Option.bind_eq_some_iff.mp hu
    exact .inr ⟨u, selected, key⟩

end Selection

namespace Merge.SameSelected

variable {wanted : Option String} {docs other : List Kubeconfig} {fs later : FileSystem}

theorem selection_eq (same : SameSelected wanted docs other fs later) :
    (Kubeconfig.concat docs).selection wanted = (Kubeconfig.concat other).selection wanted := by
  have name : (Kubeconfig.concat docs).chosenName wanted = (Kubeconfig.concat other).chosenName wanted := by
    rw [← selectedName_eq, ← selectedName_eq, selectedName, selectedName, same.declared]
  have found : ∀ name, lastOf? name (Kubeconfig.concat docs).contexts =
      lastOf? name (Kubeconfig.concat other).contexts := by
    intro name
    rw [← findNamed?_contexts, ← findNamed?_contexts, same.contexts]
  refine Kubeconfig.selection_congr ?_ name ?_ same.cluster same.user
  · rw [← contexts_eq_lastOfEach, ← contexts_eq_lastOfEach, same.contexts]
  · simp only [Kubeconfig.chosenContext?, name, found]

theorem opened (same : SameSelected wanted docs other fs later) :
    fs.SameOn ((Kubeconfig.concat docs).selection wanted).opened later := by
  intro file hf
  unfold Selection.opened Kubeconfig.selection at hf
  cases hx : (Kubeconfig.concat docs).chosenContext? wanted with
  | none =>
    rw [hx] at hf
    cases hf
  | some context =>
    rw [hx] at hf
    dsimp only [Option.bind_some] at hf
    cases hu : lastOf? (context.value.user.getD "") (Kubeconfig.concat docs).users with
    | none =>
      rw [hu] at hf
      cases hf
    | some u =>
      rw [hu] at hf
      exact same.files context hx u hu file hf

end Merge.SameSelected

/-! ## Taking out what is not selected -/

namespace Selection

def refersToCluster (s : Selection) (n : Named Cluster) : Bool :=
  s.context.any fun context => context.value.cluster.getD "" == n.name

def refersToUser (s : Selection) (n : Named User) : Bool :=
  s.context.any fun context => context.value.user.getD "" == n.name

end Selection

/-- The document without the clusters and users that the selected context does not refer to. -/
def Kubeconfig.strip (s : Selection) (k : Kubeconfig) : Kubeconfig :=
  { k with clusters := k.clusters.filter s.refersToCluster, users := k.users.filter s.refersToUser }

theorem Kubeconfig.concat_map_strip (s : Selection) (docs : List Kubeconfig) :
    concat (docs.map (strip s)) = (concat docs).strip s := by
  simp only [concat, strip, List.flatMap_map, List.filterMap_map, List.filter_flatMap]
  rfl

@[simp] theorem Kubeconfig.chosenContext?_strip (wanted : Option String) (s : Selection)
    (k : Kubeconfig) : (k.strip s).chosenContext? wanted = k.chosenContext? wanted := rfl

/-- What is selected stays selected. -/
theorem Kubeconfig.selection_strip (wanted : Option String) (k : Kubeconfig) :
    (k.strip (k.selection wanted)).selection wanted = k.selection wanted := by
  refine selection_congr rfl rfl rfl (fun n hn => ?_) fun n hn => ?_
  · rw [chosenContext?_strip] at hn
    refine Merge.lastOf?_filter (fun e he => ?_) k.clusters
    rw [Selection.refersToCluster, selection_context, hn, Option.any_some, he, beq_self_eq_true]
  · rw [chosenContext?_strip] at hn
    refine Merge.lastOf?_filter (fun e he => ?_) k.users
    rw [Selection.refersToUser, selection_context, hn, Option.any_some, he, beq_self_eq_true]

/-- Documents in which the same is selected give the same configuration, or the same error. And so do the
documents without all clusters and users that are not selected. -/
theorem Merge.documents_of_sameSelected {wanted : Option String} {docs other : List Kubeconfig}
    {fs later : FileSystem} (same : SameSelected wanted docs other fs later) (target : Config) :
    (documents fs wanted docs target).result = (documents later wanted other target).result ∧
    (documents fs wanted docs target).result =
      (documents fs wanted (docs.map (.strip ((Kubeconfig.concat docs).selection wanted))) target).result := by
  constructor
  · rw [result_documents, result_documents, ← same.selection_eq, Selection.onto_congr same.opened]
  · rw [result_documents, result_documents, Kubeconfig.concat_map_strip, Kubeconfig.selection_strip]

/-- A context whose user has a token file, beside a user that no context refers to. -/
def Merge.sampleBeside (idle : User) : List Kubeconfig :=
  [⟨none, none, [⟨"c", .empty, none⟩],
    [⟨"u", { User.empty with tokenFile := some "/token" }, none⟩, ⟨"idle", idle, none⟩],
    [⟨"a", ⟨some "c", some "u", none⟩, none⟩], some "a", none⟩]

/-- The token of the idle user and the file that only one of the disks has make no difference. -/
theorem Merge.documents_of_sameSelected_sample : ∃ c,
    (documents (World.sample [] [("/token", "t")]).fs none (sampleBeside .empty) .default).result = .ok c ∧
      c.autoToken = some "t" ∧
      (documents (World.sample [] [("/idle", "s"), ("/token", "t")]).fs none
        (sampleBeside { User.empty with token := some "secret" }) .default).result = .ok c := by
  obtain ⟨c, hc, ht⟩ := except_ok_of_map (show (documents (World.sample [] [("/token", "t")]).fs none
    (sampleBeside .empty) .default).result.toOption.map Config.autoToken = some (some "t") by decide +kernel)
  have chosen : (Kubeconfig.concat (sampleBeside .empty)).chosenContext? none =
      some ⟨"a", ⟨some "c", some "u", none⟩, none⟩ := by decide +kernel
  have same : SameSelected none (sampleBeside .empty) (sampleBeside { User.empty with token := some "secret" })
      (World.sample [] [("/token", "t")]).fs (World.sample [] [("/idle", "s"), ("/token", "t")]).fs := by
    refine ⟨rfl, rfl, fun _ _ => rfl, fun context hx => ?_, fun context hx u hu => ?_⟩
    · rw [chosen] at hx
      cases hx
      rfl
    · rw [chosen] at hx
      cases hx
      have hu : some (⟨"u", { User.empty with tokenFile := some "/token" }, none⟩ : Named User) = some u := hu
      cases hu
      intro file hf
      rw [List.mem_singleton.mp hf]
      rfl
  exact ⟨c, hc, ht, (documents_of_sameSelected same .default).1.symm.trans hc⟩

end ClusterAccess
