import ClusterAccess.Proofs.TokenChoice

/-!
# Paths that entries declare

A cluster and a user name files. A path that starts at the root stands for itself; any other path starts
in the directory of the file that the entry was read from, whatever files the context and the replaced
entries of the same name are from. What is written into a configuration is the spelling of that path, and
reading it gives the path again.
-/
namespace ClusterAccess

namespace Text

theorem splitFrom_eq_modifyHead (sep : Char) (part cs : List Char) :
    splitFrom sep part cs = (cs.splitOn sep).modifyHead (part.reverse ++ ·) := by
  induction cs generalizing part with
  | nil => simp [splitFrom]
  | cons c rest ih =>
    rw [splitFrom, List.splitOn_cons_eq_if_modifyHead]
    -- What has been collected belongs before the first piece of the rest, so it is kept general.
    split
    · rw [ih, List.modifyHead_cons, List.append_nil]
      exact congrArg (part.reverse :: ·) (congrFun List.modifyHead_id _)
    · rw [ih, List.modifyHead_modifyHead]
      congr 1
      funext first
      simp

theorem splitChars_eq_splitOn (sep : Char) (cs : List Char) : splitChars sep cs = cs.splitOn sep := by
  rw [splitChars, splitFrom_eq_modifyHead]
  exact congrFun List.modifyHead_id _

theorem sep_not_mem_of_mem_splitFrom {sep : Char} {part cs : List Char} (clean : sep ∉ part)
    {piece : List Char} (h : piece ∈ splitFrom sep part cs) : sep ∉ piece := by
  induction cs generalizing part with
  | nil =>
    rw [splitFrom, List.mem_singleton] at h
    rw [h, List.mem_reverse]
    exact clean
  | cons c rest ih =>
    unfold splitFrom at h
    split at h
    · rcases List.mem_cons.mp h with rfl | hr
      · rw [List.mem_reverse]
        exact clean
      · exact ih List.not_mem_nil hr
    · next other =>
      refine ih (fun hm => ?_) h
      rcases List.mem_cons.mp hm with rfl | hp
      · exact other (beq_self_eq_true _)
      · exact clean hp

/-- No part of a text has the separator in it. -/
theorem sep_not_mem_of_mem_split {sep : Char} {s part : String} (h : part ∈ split sep s) :
    sep ∉ part.toList := by
  obtain ⟨cs, hc, rfl⟩ := List.mem_map.mp h
  rw [String.toList_ofList]
  exact sep_not_mem_of_mem_splitFrom List.not_mem_nil hc

/-- A separator at the start comes after an empty part. -/
theorem split_of_toList_cons {sep : Char} {s t : String} (h : s.toList = sep :: t.toList) :
    split sep s = "" :: split sep t := by
  rw [split, h, splitChars, splitFrom, if_pos (beq_self_eq_true sep)]
  rfl

/-- Parts without a separator that are joined by one are found again. -/
theorem split_intercalate {sep : Char} {parts : List String} (clean : ∀ part ∈ parts, sep ∉ part.toList)
    (some : parts ≠ []) : split sep ((String.singleton sep).intercalate parts) = parts := by
  have chars : ∀ cs ∈ parts.map String.toList, sep ∉ cs := by
    intro cs hc
    obtain ⟨part, hp, rfl⟩ := List.mem_map.mp hc
    exact clean part hp
  rw [split, splitChars_eq_splitOn, String.toList_intercalate, String.toList_singleton,
    List.splitOn_intercalate sep chars (by simpa using some), List.map_map]
  simp

end Text

/-! ## Paths and their spelling -/

namespace Path

/-- A path as texts spell it: no name is empty, the dot, or several names at once. -/
def IsNormal (p : Path) : Prop := ∀ name ∈ p.names, name ≠ "" ∧ name ≠ "." ∧ '/' ∉ name.toList

theorem isNormal_ofText (s : String) : (ofText s).IsNormal := by
  intro name hn
  obtain ⟨hs, kept⟩ := List.mem_filter.mp hn
  obtain ⟨filled, dotless⟩ := of_decide_eq_true kept
  exact ⟨filled, dotless, Text.sep_not_mem_of_mem_split hs⟩

theorem IsNormal.parent {p : Path} (h : p.IsNormal) : p.parent.IsNormal :=
  fun name hn => h name (List.dropLast_subset _ hn)

theorem IsNormal.join {p q : Path} (hp : p.IsNormal) (hq : q.IsNormal) : (p.join q).IsNormal := by
  unfold Path.join
  split
  · exact hq
  · exact fun name hn => (List.mem_append.mp hn).elim (hp name) (hq name)

theorem rootOf_eq_relative_iff {cs : List Char} : rootOf cs = .relative ↔ cs.head? ≠ some '/' := by
  unfold rootOf
  split
  · simp
  · simp
  · simp
  · next rooted =>
    cases cs with
    | nil => simp
    | cons c rest =>
      have other : c ≠ '/' := by
        rintro rfl
        exact rooted rest rfl
      simpa using other

theorem isAbsoluteText_iff {s : String} : isAbsoluteText s = true ↔ s.toList.head? = some '/' := by
  show ['/'].isPrefixOf s.toList = true ↔ _
  cases s.toList with
  | nil => simp
  | cons c rest =>
    rw [List.isPrefixOf_cons_cons, List.isPrefixOf_nil_left, Bool.and_true, beq_iff_eq, List.head?_cons,
      Option.some_inj]
    exact eq_comm

/-- The root of a spelling, and what follows it, which is not another slash. -/
theorem rootOf_text (root : Root) {c : Char} (other : c ≠ '/') (rest : List Char) :
    rootOf (root.text.toList ++ c :: rest) = root := by
  cases root with
  | relative => exact rootOf_eq_relative_iff.mpr (by simpa [Root.text] using other)
  | slash =>
    show rootOf ('/' :: c :: rest) = .slash
    simp [rootOf, other]
  | doubleSlash =>
    show rootOf ('/' :: '/' :: c :: rest) = .doubleSlash
    simp [rootOf, other]

/-- The names of a path as one text, which does not start with a slash. -/
theorem toList_intercalate_names {p : Path} (normal : p.IsNormal) (some : p.names ≠ []) :
    ∃ c rest, ("/".intercalate p.names).toList = c :: rest ∧ c ≠ '/' := by
  obtain ⟨first, others, hp⟩ := List.exists_cons_of_ne_nil some
  obtain ⟨filled, _, clean⟩ := normal first (hp ▸ List.mem_cons_self)
  cases hf : first.toList with
  | nil => exact absurd (String.toList_eq_nil_iff.mp hf) filled
  | cons c rest =>
    have other : c ≠ '/' := by
      rintro rfl
      exact clean (hf ▸ List.mem_cons_self)
    rw [hp]
    cases others with
    | nil => exact ⟨c, rest, by rw [String.intercalate_singleton, hf], other⟩
    | cons second more =>
      refine ⟨c, rest ++ ("/" ++ "/".intercalate (second :: more)).toList, ?_, other⟩
      rw [String.intercalate_cons_cons, String.append_assoc, String.toList_append, hf, List.cons_append]

/-- A path is what its spelling spells. -/
theorem ofText_text {p : Path} (normal : p.IsNormal) : ofText p.text = p := by
  rcases p with ⟨root, names⟩
  by_cases empty : names = []
  · rw [empty]
    cases root <;> decide
  · obtain ⟨c, rest, hc, other⟩ := toList_intercalate_names normal empty
    have spelled : (root.text ++ "/".intercalate names).toList = root.text.toList ++ c :: rest := by
      rw [String.toList_append, hc]
    have text : (Path.mk root names).text = root.text ++ "/".intercalate names := by
      refine if_neg fun none => ?_
      rw [none] at spelled
      simp at spelled
    have parts : Text.split '/' ("/".intercalate names) = names :=
      Text.split_intercalate (fun name hn => (normal name hn).2.2) empty
    have kept : names.filter (fun name => name ≠ "" ∧ name ≠ ".") = names :=
      List.filter_eq_self.mpr fun name hn => decide_eq_true ⟨(normal name hn).1, (normal name hn).2.1⟩
    rw [text, ofText, spelled, rootOf_text root other]
    congr 1
    -- Each slash of the root splits off an empty part, which is no name.
    cases root with
    | relative =>
      rw [show Root.relative.text ++ "/".intercalate names = "/".intercalate names from String.empty_append,
        parts, kept]
    | slash =>
      rw [Text.split_of_toList_cons (t := "/".intercalate names) (by rw [String.toList_append]; rfl), parts]
      exact kept
    | doubleSlash =>
      rw [Text.split_of_toList_cons (t := "/" ++ "/".intercalate names)
          (by rw [String.toList_append, String.toList_append]; rfl),
        Text.split_of_toList_cons (t := "/".intercalate names) (by rw [String.toList_append]; rfl), parts]
      exact kept

theorem isAbsolute_iff {p : Path} : p.isAbsolute = true ↔ p.root ≠ .relative := decide_eq_true_iff

theorem isAbsolute_ofText (s : String) : (ofText s).isAbsolute = isAbsoluteText s := by
  rw [Bool.eq_iff_iff, isAbsolute_iff, isAbsoluteText_iff]
  exact (not_congr rootOf_eq_relative_iff).trans not_not

/-! ## From a file to what it declares -/

/-- From a file that declares a path one gets to the path found: to the declared one if that starts at the
root, and else to the names of the declared one below the directory of the file. -/
structure Leads (file : Path) (declared found : String) : Prop where
  absolute : isAbsoluteText found = true
  kept : isAbsoluteText declared = true → found = declared
  joined : isAbsoluteText declared = false →
    ofText found = ⟨file.root, file.names.dropLast ++ (ofText declared).names⟩ ∧
      found = (Path.mk file.root (file.names.dropLast ++ (ofText declared).names)).text

theorem join_ofText_of_relative (p : Path) {s : String} (relative : isAbsoluteText s = false) :
    p.join (ofText s) = ⟨p.root, p.names ++ (ofText s).names⟩ := by
  rw [join, isAbsolute_ofText, relative]
  exact if_neg Bool.false_ne_true

theorem leads_of_isNormal {file : Path} (absolute : file.isAbsolute = true) (normal : file.IsNormal)
    (declared : String) :
    file.Leads declared
      (if isAbsoluteText declared then declared else (file.parent.join (ofText declared)).text) := by
  cases h : isAbsoluteText declared with
  | true => exact ⟨h, fun _ => rfl, fun no => by cases h.symm.trans no⟩
  | false =>
    have spelled : ofText (file.parent.join (ofText declared)).text = file.parent.join (ofText declared) :=
      ofText_text (normal.parent.join (isNormal_ofText declared))
    refine ⟨?_, fun yes => (by cases h.symm.trans yes), fun _ => ⟨?_, ?_⟩⟩
    · rw [if_neg Bool.false_ne_true, ← isAbsolute_ofText, spelled, join_ofText_of_relative _ h]
      exact absolute
    · rw [if_neg Bool.false_ne_true, spelled, join_ofText_of_relative _ h]
      rfl
    · rw [if_neg Bool.false_ne_true, join_ofText_of_relative _ h]
      rfl

end Path

/-- The entry was read from a file that is known by its full path. -/
def Named.IsFiled {α : Type} (n : Named α) : Prop :=
  ∃ file, Path.isAbsoluteText file = true ∧ n.source = some (Path.ofText file)

/-- The path found is the one that the entry declares, seen from the entry's own file. Without a declared
path none is found. -/
def Named.LeadsTo {α : Type} (n : Named α) (declared found : Option String) : Prop :=
  ∃ file, n.source = some file ∧ Option.Rel file.Leads declared found

theorem Named.IsFiled.leadsTo {α : Type} {n : Named α} (filed : n.IsFiled) (declared : Option String) :
    n.LeadsTo declared (Merge.resolve n.source declared) := by
  obtain ⟨file, absolute, source⟩ := filed
  refine ⟨Path.ofText file, source, ?_⟩
  rw [source]
  cases declared with
  | none => exact .none
  | some path =>
    have leads := Path.leads_of_isNormal ((Path.isAbsolute_ofText file).trans absolute)
      (Path.isNormal_ofText file) path
    have found : Merge.resolve (some (Path.ofText file)) (some path) = some (if Path.isAbsoluteText path
        then path else ((Path.ofText file).parent.join (Path.ofText path)).text) := by
      unfold Merge.resolve
      exact (apply_ite some _ _ _).symm
    rw [found]
    exact .some leads

theorem Named.LeadsTo.exists_leads {α : Type} {n : Named α} {file : Path} {declared : String}
    {found : Option String} (h : n.LeadsTo (some declared) found) (source : n.source = some file) :
    ∃ path, found = some path ∧ file.Leads declared path := by
  obtain ⟨_, hs, rel⟩ := h
  cases source.symm.trans hs
  cases rel with
  | some leads => exact ⟨_, rfl, leads⟩

/-- All clusters and users were read from files that are known by their full paths. -/
structure Kubeconfig.IsFiled (k : Kubeconfig) : Prop where
  clusters : ∀ n ∈ k.clusters, n.IsFiled
  users : ∀ n ∈ k.users, n.IsFiled

/-- A document read from a file is so. -/
theorem Kubeconfig.isFiled_from {file : String} (absolute : Path.isAbsoluteText file = true)
    (k : Kubeconfig) : (k.from (Path.ofText file)).IsFiled := by
  refine ⟨fun n hn => ?_, fun n hn => ?_⟩ <;>
  · obtain ⟨_, _, rfl⟩ := List.mem_map.mp hn
    exact ⟨file, absolute, rfl⟩

theorem Kubeconfig.isFiled_concat {docs : List Kubeconfig} (filed : ∀ k ∈ docs, k.IsFiled) :
    (concat docs).IsFiled := by
  refine ⟨fun n hn => ?_, fun n hn => ?_⟩ <;> obtain ⟨k, hk, hn⟩ := List.mem_flatMap.mp hn
  · exact (filed k hk).clusters n hn
  · exact (filed k hk).users n hn

/-! ## Merged documents -/

namespace Kubeconfig

variable {k : Kubeconfig} {wanted : Option String}

theorem IsFiled.cluster (filed : k.IsFiled) {n : Named Cluster} (h : (k.selection wanted).cluster = some n) :
    n.IsFiled := by
  obtain ⟨_, _, last⟩ := Option.bind_eq_some_iff.mp h
  exact filed.clusters n (Merge.mem_of_lastOf? last)

theorem IsFiled.user (filed : k.IsFiled) {n : Named User} (h : (k.selection wanted).user = some n) :
    n.IsFiled := by
  obtain ⟨_, _, last⟩ := Option.bind_eq_some_iff.mp h
  exact filed.users n (Merge.mem_of_lastOf? last)

end Kubeconfig

theorem ClientKey.shown_congr {fs other : FileSystem} {file data : Option String}
    (same : fs.SameOn file.toList other) : shown fs file data = shown other file data := by
  unfold shown
  cases data with
  | some data => rfl
  | none =>
    cases file with
    | none => rfl
    | some file =>
      rw [Option.bind_some, Option.bind_some, same file (by simp)]

theorem ClientKey.obstacle?_congr {fs other : FileSystem} {file data : Option String}
    (same : fs.SameOn file.toList other) : obstacle? fs file data = obstacle? other file data := by
  unfold obstacle?
  cases data with
  | some data => rfl
  | none => exact Option.bind_congr fun path hp => FileSystem.readObstacle?_congr (same path (by simp [hp]))

namespace Merge

/-- The file that a user's token is read from. -/
def tokenPath (u : Named User) : Option String := resolve u.source (filled u.value.tokenFile)

/-- The files that are read for a user: those of the key and of the token. -/
def readFor (u : Named User) : List String :=
  (resolve u.source u.value.clientKey).toList ++ (tokenPath u).toList

theorem fileToken_eq (fs : FileSystem) (u : Named User) :
    fileToken fs u = (tokenPath u).bind fun path => (fs.readText path).toOption.map Text.trim := by
  unfold fileToken tokenPath
  cases filled u.value.tokenFile with
  | none => cases u.source <;> rfl
  | some file =>
    obtain ⟨path, hp⟩ := resolve_some u.source file
    rw [Option.bind_some, hp]
    rfl

theorem tokenObstacle?_eq (fs : FileSystem) (u : Named User) : tokenObstacle? fs u =
    if (filled u.value.token).isSome then none else (tokenPath u).bind fs.readObstacle? := by
  unfold tokenObstacle? tokenPath
  cases filled u.value.token with
  | some token => rfl
  | none =>
    cases filled u.value.tokenFile with
    | none => cases u.source <;> rfl
    | some file =>
      obtain ⟨path, hp⟩ := resolve_some u.source file
      dsimp only
      rw [Option.bind_some, hp]
      rfl

/-- The text of the token file is the token, unless there is one inline. -/
theorem token_of_file {fs : FileSystem} {u : Named User} {path text : String}
    (inline : filled u.value.token = none) (read : tokenPath u = some path)
    (readable : fs.readText path = .ok text) (some : Text.trim text ≠ "") :
    token fs u = .some (Text.trim text) := by
  have file : fileToken fs u = .some (Text.trim text) := by
    rw [fileToken_eq, read, Option.bind_some, readable]
    rfl
  have plain : filled (plainToken fs u) = .some (Text.trim text) := by
    rw [filled_plainToken, inline, Option.none_or, file, filled_of_ne some]
  rw [token, plain, Option.some_or]

section

variable {fs other : FileSystem} {u : Named User} (same : fs.SameOn (readFor u) other)
include same

theorem shown_of_sameOn : ClientKey.shown fs (resolve u.source u.value.clientKey) u.value.clientKeyData =
    ClientKey.shown other (resolve u.source u.value.clientKey) u.value.clientKeyData :=
  ClientKey.shown_congr fun path hp => same path (List.mem_append_left _ hp)

theorem plainToken_of_sameOn : plainToken fs u = plainToken other u := by
  have file : fileToken fs u = fileToken other u := by
    rw [fileToken_eq, fileToken_eq]
    refine Option.bind_congr fun path hp => ?_
    rw [same path (List.mem_append_right _ (Option.mem_toList.mpr hp))]
  rw [plainToken, plainToken, file]

theorem userObstacle?_of_sameOn : userObstacle? fs u = userObstacle? other u := by
  have key : ClientKey.obstacle? fs (resolve u.source u.value.clientKey) u.value.clientKeyData =
      ClientKey.obstacle? other (resolve u.source u.value.clientKey) u.value.clientKeyData :=
    ClientKey.obstacle?_congr fun path hp => same path (List.mem_append_left _ hp)
  have file : tokenObstacle? fs u = tokenObstacle? other u := by
    rw [tokenObstacle?_eq, tokenObstacle?_eq]
    split
    · rfl
    · refine Option.bind_congr fun path hp => FileSystem.readObstacle?_congr (same path ?_)
      exact List.mem_append_right _ (Option.mem_toList.mpr hp)
  rw [userObstacle?, userObstacle?, userTokenObstacle?, userTokenObstacle?, key, file, plugin, plugin,
    plainToken_of_sameOn same]

end

end Merge

/-- Of a selection no other files are read than those of the user that has a say. -/
theorem Selection.onto_of_sameOn {s : Selection} {fs other : FileSystem}
    (same : ∀ u, s.owner = some u → fs.SameOn (Merge.readFor u) other) (target : Config) :
    s.onto fs target = s.onto other target := by
  have carried : ∀ c, s.carry fs c = s.carry other c := by
    intro c
    rw [carry_eq, carry_eq]
    unfold obstacle? Selection.carried changes
    cases hu : s.owner with
    | none => rfl
    | some u =>
      have plain := Merge.plainToken_of_sameOn (same u hu)
      simp only [Option.bind_some, Option.map_some, Option.getD_some, Merge.shown_of_sameOn (same u hu),
        Merge.userObstacle?_of_sameOn (same u hu), Merge.plugin, Merge.token, plain]
  unfold onto
  simp only [carried]

/-- Every path in merged documents is taken from the file of the entry that declares it. With entries from
files that are known by their full paths, one gets to the certificate authority from the file of the
selected cluster, and to the certificate, the key and the token file from that of the selected user; these
are the last entries of their names, and it makes no difference which files the context and the replaced
entries are from. Read are the files of the key and of the token, at the paths found, and no others. What
is not selected leaves the paths of the target. -/
theorem Merge.documents_paths {docs : List Kubeconfig} (filed : ∀ k ∈ docs, k.IsFiled) {fs : FileSystem}
    {wanted : Option String} {target c : Config}
    (made : (documents fs wanted docs target).result = .ok c) :
    (∀ n, ((Kubeconfig.concat docs).selection wanted).cluster = some n →
      n.LeadsTo n.value.certificateAuthority c.caCertFile) ∧
    (((Kubeconfig.concat docs).selection wanted).cluster = none → c.caCertFile = target.caCertFile) ∧
    (∀ u, ((Kubeconfig.concat docs).selection wanted).owner = some u →
      u.LeadsTo u.value.clientCertificate c.clientCertFile ∧
      u.LeadsTo u.value.clientKey c.clientKeyFile ∧
      ∃ read, u.LeadsTo (filled u.value.tokenFile) read ∧
        (∀ path text, read = some path → filled u.value.token = none → fs.readText path = .ok text →
          Text.trim text ≠ "" → c.autoToken = some (Text.trim text)) ∧
        ∀ other, fs.SameOn (c.clientKeyFile.toList ++ read.toList) other →
          (documents other wanted docs target).result = .ok c) ∧
    (((Kubeconfig.concat docs).selection wanted).owner = none →
      c.clientCertFile = target.clientCertFile ∧ c.clientKeyFile = target.clientKeyFile ∧
      ∀ other, (documents other wanted docs target).result = .ok c) := by
  have filed := Kubeconfig.isFiled_concat filed
  simp only [result_documents] at made ⊢
  -- The source stands in the entry that was selected, so neither the context nor other documents matter.
  have ca := Selection.value_of_onto made (f := .caCertFile) rfl
  have cert := Selection.value_of_onto made (f := .clientCertFile) rfl
  have key := Selection.value_of_onto made (f := .clientKeyFile) rfl
  have token := Selection.autoToken_of_onto made
  rw [Selection.changes_of_cluster fun _ _ _ => rfl] at ca
  rw [Selection.changes_of_owner fun _ => rfl] at cert key
  refine ⟨fun n hn => ?_, fun hn => ?_, fun u hu => ?_, fun hu => ?_⟩
  · rw [hn] at ca
    rw [Config.caCertFile, ca]
    exact (filed.cluster hn).leadsTo _
  · rw [hn] at ca
    exact ca
  · rw [hu] at cert key token
    obtain ⟨_, _, selected⟩ := Option.bind_eq_some_iff.mp hu
    refine ⟨?_, ?_, tokenPath u, (filed.user selected).leadsTo _, fun path text read inline readable some => ?_,
      fun other same => ?_⟩
    · rw [Config.clientCertFile, cert]
      exact (filed.user selected).leadsTo _
    · rw [Config.clientKeyFile, key]
      exact (filed.user selected).leadsTo _
    · exact token.trans (token_of_file inline read readable some)
    · rw [Config.clientKeyFile, key] at same
      rw [← made]
      refine (Selection.onto_of_sameOn (fun v hv => ?_) target).symm
      rw [hu] at hv
      cases hv
      exact same
  · rw [hu] at cert key
    refine ⟨cert, key, fun other => ?_⟩
    rw [← made]
    refine (Selection.onto_of_sameOn (fun v hv => ?_) target).symm
    rw [hu] at hv
    cases hv

namespace Merge

def sampleFiledUser : User :=
  { User.empty with
    clientCertificate := some "/cert.pem", clientKey := some "keys/key.pem", tokenFile := some "./token" }

/-- Of two files, the second redefines the cluster of the first. -/
def sampleFiled : List Kubeconfig :=
  [Kubeconfig.from (Path.ofText "/first/config")
    ⟨none, none, [⟨"c", { Cluster.empty with certificateAuthority := some "old.pem" }, none⟩],
      [⟨"u", sampleFiledUser, none⟩], [⟨"a", ⟨some "c", some "u", none⟩, none⟩], none, none⟩,
   Kubeconfig.from (Path.ofText "/second/config")
    ⟨none, none, [⟨"c", { Cluster.empty with certificateAuthority := some "ca.pem" }, none⟩], [], [], some "a",
      none⟩]

theorem sampleFiled_isFiled : ∀ k ∈ sampleFiled, k.IsFiled := by
  intro k hk
  rcases List.mem_cons.mp hk with rfl | hk
  · exact Kubeconfig.isFiled_from (by decide) _
  · rw [List.mem_singleton.mp hk]
    exact Kubeconfig.isFiled_from (by decide) _

/-- The authority is from the second directory, the key and the token are from the first. -/
theorem documents_paths_sample : ∃ c, (documents (World.sample [] [("/first/token", "t\n")]).fs none
    sampleFiled .default).result = .ok c ∧ c.caCertFile = some "/second/ca.pem" ∧
      c.clientCertFile = some "/cert.pem" ∧ c.clientKeyFile = some "/first/keys/key.pem" ∧
      c.autoToken = some "t" := by
  have cluster : ((Kubeconfig.concat sampleFiled).selection none).cluster =
      some ⟨"c", { Cluster.empty with certificateAuthority := some "ca.pem" },
        some (Path.ofText "/second/config")⟩ := by decide +kernel
  obtain ⟨c, hc⟩ := Kubeconfig.onto_of_cluster cluster (World.sample [] [("/first/token", "t\n")]).fs .default
  have clear : ((Kubeconfig.concat sampleFiled).selection none).obstacle?
      (World.sample [] [("/first/token", "t\n")]).fs = none := by decide +kernel
  rw [← result_documents, clear, guarded_none] at hc
  obtain ⟨ca, _, user, _⟩ := documents_paths sampleFiled_isFiled hc
  obtain ⟨cert, key, read, named, holds, _⟩ :=
    user ⟨"u", sampleFiledUser, some (Path.ofText "/first/config")⟩ rfl
  obtain ⟨caPath, found, leads⟩ := (ca _ cluster).exists_leads rfl
  obtain ⟨certPath, certFound, kept⟩ := cert.exists_leads rfl
  obtain ⟨keyPath, keyFound, joined⟩ := key.exists_leads rfl
  obtain ⟨tokenPath, rfl, token⟩ := named.exists_leads rfl
  refine ⟨c, hc, ?_, ?_, ?_, ?_⟩
  · rw [found, (leads.joined (by decide)).2]
    decide +kernel
  · rw [certFound, kept.kept (by decide)]
  · rw [keyFound, (joined.joined (by decide)).2]
    decide +kernel
  · have path : tokenPath = "/first/token" := (token.joined (by decide)).2.trans (by decide +kernel)
    exact holds tokenPath "t\n" rfl (by decide) (by rw [path]; rfl) (by decide)

end Merge

end ClusterAccess
