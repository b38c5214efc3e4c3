import ClusterAccess.FileSystem.FileTree
import ClusterAccess.Proofs.ShutOut
import ClusterAccess.Proofs.Upkeep

/-!
# Files that cannot be read

Of the disk only texts count. A file that cannot be read is no kubeconfig, gives no token, no namespace and
no key, just as a file that is not there; and a refresh from it leaves the configuration as it is. The one
file that is not opened is the CA bundle of the service account: it counts as soon as it is there. All this
takes that one can tell whether a path names a file. Where one cannot, a run that asks for the path fails.
-/
namespace ClusterAccess

/-! ## Disks with the same texts -/

namespace FileSystem

/-- There is no text to be had from this path, for a reason that has to do with the disk. -/
def GivesNoText (fs : FileSystem) (name : String) : Prop :=
  ∃ fault : ReadFault, fs.readText name = .error fault ∧ fault.isOfFile = true

theorem GivesNoText.toOption {fs : FileSystem} {name : String} (h : fs.GivesNoText name) :
    (fs.readText name).toOption = none := by
  obtain ⟨fault, reads, _⟩ := h
  rw [reads]
  rfl

theorem GivesNoText.readObstacle? {fs : FileSystem} {name : String} (h : fs.GivesNoText name) :
    fs.readObstacle? name = none := by
  obtain ⟨fault, reads, soft⟩ := h
  exact readObstacle?_of_isOfFile reads soft

/-- Both give the same texts. Why a name has no text does not count, unless no file can have it, nor whether
it names a file then. -/
structure SameTexts (fs later : FileSystem) : Prop where
  directory : fs.directory = later.directory
  text : ∀ name, (fs.readText name).toOption = (later.readText name).toOption
  readObstacle : ∀ name, fs.readObstacle? name = later.readObstacle? name
  isFile : ∀ name, (fs.readText name).toOption ≠ none → fs.isFile name = later.isFile name

/-- Both are alike but for some names. These give no text in either, whether they name a file or not; in the
second one it can be told which, and in the first one perhaps not even that. -/
structure AlikeBut (unread : String → Prop) (fs later : FileSystem) : Prop where
  directory : fs.directory = later.directory
  testFile : ∀ name, ¬ unread name → fs.testFile name = later.testFile name
  readText : ∀ name, ¬ unread name → fs.readText name = later.readText name
  here : ∀ name, unread name → fs.GivesNoText name
  there : ∀ name, unread name → later.GivesNoText name
  answers : ∀ name, unread name → later.testObstacle? name = none

/-- One of these names keeps one from telling whether it names a file. -/
def Blocks (unread : String → Prop) (fs : FileSystem) (obstacle : Obstacle) : Prop :=
  ∃ name, unread name ∧ fs.testObstacle? name = some obstacle

section

variable {unread : String → Prop} {fs later : FileSystem} (alike : fs.AlikeBut unread later)
include alike

theorem AlikeBut.isFile {name : String} (hn : ¬ unread name) : fs.isFile name = later.isFile name := by
  rw [FileSystem.isFile, FileSystem.isFile, alike.testFile name hn]

theorem AlikeBut.testObstacle? {name : String} (hn : ¬ unread name) :
    fs.testObstacle? name = later.testObstacle? name := by
  rw [FileSystem.testObstacle?, FileSystem.testObstacle?, alike.testFile name hn]

theorem AlikeBut.sameTexts : fs.SameTexts later := by
  refine ⟨alike.directory, fun name => ?_, fun name => ?_, fun name there => ?_⟩
  · by_cases hn : unread name
    · rw [(alike.here name hn).toOption, (alike.there name hn).toOption]
    · rw [alike.readText name hn]
  · by_cases hn : unread name
    · rw [(alike.here name hn).readObstacle?, (alike.there name hn).readObstacle?]
    · exact readObstacle?_congr (alike.readText name hn)
  · by_cases hn : unread name
    · exact absurd (alike.here name hn).toOption there
    · exact alike.isFile hn

/-- Looking for a file stops where it did, or at a name of which nothing can be told. -/
theorem AlikeBut.fileObstacle? (name : String) : fs.fileObstacle? name = later.fileObstacle? name ∨
    ∃ fault, fs.Blocks unread fault ∧ fs.fileObstacle? name = some fault := by
  unfold FileSystem.fileObstacle?
  by_cases hn : unread name
  · rw [(alike.here name hn).readObstacle?, (alike.there name hn).readObstacle?, alike.answers name hn,
      ite_self, ite_self, Option.or_none]
    cases stuck : fs.testObstacle? name with
    | none => exact .inl rfl
    | some fault => exact .inr ⟨fault, ⟨name, hn, stuck⟩, rfl⟩
  · left
    rw [alike.testObstacle? hn, alike.isFile hn, readObstacle?_congr (alike.readText name hn)]

theorem AlikeBut.findSome?_fileObstacle? (names : List String) :
    names.findSome? fs.fileObstacle? = names.findSome? later.fileObstacle? ∨
      ∃ fault, fs.Blocks unread fault ∧ names.findSome? fs.fileObstacle? = some fault := by
  induction names with
  | nil => exact .inl rfl
  | cons name rest ih =>
    rw [List.findSome?_cons, List.findSome?_cons]
    rcases alike.fileObstacle? name with same | ⟨fault, hb, stuck⟩
    · rw [same]
      cases later.fileObstacle? name with
      | none => exact ih
      | some fault => exact .inl rfl
    · rw [stuck]
      exact .inr ⟨fault, hb, rfl⟩

end

theorem SameTexts.fileText {fs later : FileSystem} (same : fs.SameTexts later) (name : String) :
    fs.fileText name = later.fileText name := by
  unfold FileSystem.fileText
  rw [← same.text name]
  cases h : (fs.readText name).toOption with
  | none => rw [ite_self, ite_self]
  | some text =>
    rw [same.isFile name]
    rw [h]
    exact Option.some_ne_none text

end FileSystem

/-- In memory a file that is denied differs from one that is removed at its own name only. -/
theorem FileTree.deny_alikeBut_remove {t : FileTree} {path : String} (readable : path ∉ t.denied)
    (directory : List String) :
    ((t.deny path).fileSystem directory).AlikeBut (· = path) ((t.remove path).fileSystem directory) := by
  have kept : ∀ name, name ≠ path → (t.remove path).contents? name = t.contents? name := by
    intro name hn
    unfold contents? remove
    rw [List.find?_filter]
    congr 2
    funext entry
    by_cases he : entry.1 = name
    · simp [he, hn]
    · simp [he]
  have denied : ∀ name, name ≠ path → (t.deny path).denied.contains name = t.denied.contains name := by
    intro name hn
    simp [deny, hn]
  refine ⟨rfl, fun name hn => ?_, fun name hn => ?_, ?_, ?_, fun _ _ => rfl⟩
  · show Except.ok ((t.deny path).isFile name) = Except.ok ((t.remove path).isFile name)
    unfold isFile
    rw [kept name hn, denied name hn]
    rfl
  · show (t.deny path).readText name = (t.remove path).readText name
    unfold readText
    rw [kept name hn, denied name hn]
    rfl
  · intro name hn
    exact ⟨.denied name, by simp [fileSystem, readText, deny, hn], rfl⟩
  · intro name hn
    have gone : (t.remove path).contents? name = none := by
      simp [contents?, remove, List.find?_filter, hn]
    have listed : (t.remove path).denied.contains name = false := by
      simpa [remove, hn] using readable
    refine ⟨.missing name, ?_, rfl⟩
    show (t.remove path).readText name = .error (.missing name)
    rw [readText, listed, gone]
    rfl

/-! ## What each stage takes from the disk -/

namespace Discovery

theorem holdsText_eq (fs : FileSystem) (name : String) :
    holdsText fs name = ((fs.fileText name).map fun text => !Text.isBlankText text).getD false := by
  unfold holdsText FileSystem.fileText
  by_cases hf : fs.isFile name = true
  · rw [hf, if_pos rfl, Bool.true_and]
    cases (fs.readText name).toOption <;> rfl
  · rw [Bool.eq_false_iff.mpr hf, if_neg Bool.false_ne_true]
    rfl

/-- With a given home directory the candidates are a matter of options alone. -/
theorem names_of_given {h : Home} (given : h.given.isSome = true) (p : Probe)
    (fs later : FileSystem) : names p fs h = names p later h := by
  obtain ⟨home, hh⟩ := Option.isSome_iff_exists.mp given
  unfold names Home.path
  rw [hh]

end Discovery

/-! ## The same texts give the same results -/

section

variable {fs later : FileSystem} (same : fs.SameTexts later)
include same

theorem ClientKey.shown_of_sameTexts (file data : Option String) : shown fs file data = shown later file data := by
  unfold shown
  simp only [same.text]

theorem ClientKey.result_algorithm_of_sameTexts (file data : Option String) :
    (algorithm fs file data).result = (algorithm later file data).result := by
  have obstacle : obstacle? fs file data = obstacle? later file data := by
    unfold obstacle?
    rw [show fs.readObstacle? = later.readObstacle? from funext same.readObstacle]
  rw [result_algorithm, result_algorithm, shown_of_sameTexts same, obstacle]

theorem Config.result_normalize_of_sameTexts (c : Config) (https : TlsCheck) (probe? : Option Probe) :
    (c.normalize https fs probe?).result = (c.normalize https later probe?).result := by
  unfold normalize
  split
  · rfl
  · refine Traced.result_bind_congr rfl fun url _ => Traced.result_bind_congr ?_ fun _ _ => rfl
    unfold keyAlgorithm
    refine Traced.result_bind_congr rfl fun forced _ => ?_
    cases forced with
    | some algorithm => rfl
    | none => exact ClientKey.result_algorithm_of_sameTexts same _ _

theorem Overrides.result_apply_of_sameTexts (o : Overrides) (https : TlsCheck) (probe? : Option Probe)
    (c : Config) : (o.apply https fs probe? c).result = (o.apply https later probe? c).result := by
  unfold apply
  split
  · rfl
  · exact Traced.result_bind_congr (Config.result_normalize_of_sameTexts same _ https probe?) fun _ _ => rfl

namespace Merge

theorem result_ownToken_of_sameTexts (u : Named User) :
    (ownToken fs u).result = (ownToken later u).result := by
  unfold ownToken
  split
  · rfl
  · rw [result_readToken, result_readToken, same.text, same.readObstacle]
  · rfl

theorem result_applyUser_of_sameTexts (u : Named User) (c : Config) :
    (applyUser fs u c).result = (applyUser later u c).result := by
  refine Traced.result_bind_congr ?_ fun _ _ => Traced.result_bind_congr ?_ fun _ _ => rfl
  · exact ClientKey.result_algorithm_of_sameTexts same _ _
  · exact Traced.result_bind_congr (result_ownToken_of_sameTexts same u) fun _ _ => rfl

theorem result_documents_of_sameTexts (wanted : Option String) (docs : List Kubeconfig) (target : Config) :
    (documents fs wanted docs target).result = (documents later wanted docs target).result := by
  rw [result_documents, result_documents]
  unfold Selection.onto Selection.carry
  simp only [result_applyUser_of_sameTexts same]

end Merge

theorem Discovery.holdsText_of_sameTexts : holdsText fs = holdsText later := by
  funext name
  rw [holdsText_eq, holdsText_eq, same.fileText]

end

/-! ## Looking for files -/

section

variable {unread : String → Prop} {fs later : FileSystem} (alike : fs.AlikeBut unread later)
include alike

theorem Discovery.find_agrees (p : Probe) {h : Home} (given : h.given.isSome = true) :
    AgreesUnless (fs.Blocks unread) (find p fs h).result (find p later h).result := by
  rw [result_find, result_find, candidates, candidates, names_of_given given p fs later,
    holdsText_of_sameTexts alike.sameTexts]
  refine .of_guarded ?_ _
  unfold obstacle?
  rw [names_of_given given p fs later]
  split
  · cases names p later h with
    | error fault => exact .inl rfl
    | ok names => exact alike.findSome?_fileObstacle? names
  · exact .inl rfl

namespace ServiceAccount

variable {p : Probe}

/-- The CA bundle is not opened: whether it is there counts. -/
theorem offered_of_alike (bundle : ¬ unread (p.getD Options.caCertFile caPath)) :
    offered p fs = offered p later := by
  have same := alike.sameTexts
  have ca : caFile p fs = caFile p later := by rw [caFile, caFile, alike.isFile bundle]
  have text : tokenText p fs = tokenText p later := by
    unfold tokenText
    rw [same.fileText]
    simp only [same.text]
  rw [offered, offered, ca, token, token, text]

theorem tokenObstacle?_of_alike : tokenObstacle? p fs = tokenObstacle? p later ∨
    ∃ fault, fs.Blocks unread fault ∧ tokenObstacle? p fs = some fault := by
  unfold tokenObstacle?
  cases p.get? Options.serviceAccountTokenFile with
  | some path => exact .inl (alike.sameTexts.readObstacle path)
  | none => exact alike.fileObstacle? tokenPath

theorem apply_agrees (bundle : ¬ unread (p.getD Options.caCertFile caPath)) (c : Config) :
    AgreesUnless (fs.Blocks unread) (apply p fs c).result (apply p later c).result := by
  rw [result_apply, result_apply, offered_of_alike alike bundle]
  refine .of_guarded ?_ _
  unfold offeredObstacle?
  rw [alike.testObstacle? bundle]
  split
  · cases later.testObstacle? (p.getD Options.caCertFile caPath) with
    | some fault => exact .inl rfl
    | none => exact tokenObstacle?_of_alike alike
  · exact .inl rfl

theorem applyNamespace_agrees (c : Config) : AgreesUnless (fs.Blocks unread)
    (applyNamespace p fs c).result (applyNamespace p later c).result := by
  rw [result_applyNamespace, result_applyNamespace, namespaceText, namespaceText,
    alike.sameTexts.fileText]
  refine .of_guarded ?_ _
  unfold namespaceObstacle?
  split
  · exact alike.fileObstacle? _
  · exact .inl rfl

end ServiceAccount

end

/-! ## Configurations made of the surroundings -/

namespace World

/-- The file that the service account takes for its CA bundle, if it is there. -/
def bundlePath (w : World) : String := w.probe.getD Options.caCertFile ServiceAccount.caPath

section

variable {w : World} {later : FileSystem} (same : w.fs.SameTexts later)
include same

theorem result_normalize_of_sameTexts (c : Config) (useProbe : Bool) :
    (w.normalize c useProbe).result = ({ w with fs := later }.normalize c useProbe).result := by
  rw [result_normalize, result_normalize]
  exact Config.result_normalize_of_sameTexts same c _ _

theorem result_finish_of_sameTexts (c : Config) :
    (w.finish c).result = ({ w with fs := later }.finish c).result := by
  rw [result_finish, result_finish]
  exact except_bind_congr fun d _ => Config.result_normalize_of_sameTexts same d _ _

theorem result_readDocument_of_sameTexts (path : Path) :
    (w.readDocument path).result = ({ w with fs := later }.readDocument path).result := by
  refine Traced.result_bind_congr ?_ fun text? _ => ?_
  · rw [Discovery.result_load, Discovery.result_load, same.text, same.readObstacle]
  · unfold FileSystem.absolute
    rw [same.directory]

theorem result_renew_of_sameTexts (c : Config) (failure : String) {make make' : Traced Config}
    (made : make.result = make'.result) (probe? : Option Probe) {finish finish' : Config → Traced Config}
    (finished : ∀ d, (finish d).result = (finish' d).result) :
    (w.renew c failure make probe? finish).result =
      ({ w with fs := later }.renew c failure make' probe? finish').result := by
  rw [result_renew, result_renew, ← made]
  cases make.result with
  | error e => rfl
  | ok d =>
    dsimp only
    rw [Traced.result_bind_congr (finished d) fun e _ =>
      Overrides.result_apply_of_sameTexts same c.explicit w.https probe? e]

theorem result_refreshFile_of_sameTexts (c : Config) (source : Path) :
    (w.refreshFile c source).result = ({ w with fs := later }.refreshFile c source).result := by
  refine Traced.result_bind_congr ?_ fun text? _ => ?_
  · rw [Discovery.result_load, Discovery.result_load, same.text, same.readObstacle]
  · cases text? with
    | none => rfl
    | some text =>
      refine Traced.result_bind_congr rfl fun doc _ => ?_
      have merged := Merge.result_documents_of_sameTexts same c.currentContextName [doc.from source] .default
      dsimp only
      split
      · exact result_renew_of_sameTexts same c _ merged _ fun d => result_normalize_of_sameTexts same d false
      · exact result_renew_of_sameTexts same c _ merged _ fun d => result_finish_of_sameTexts same d

end

section

variable {w : World} {unread : String → Prop} {later : FileSystem} (alike : w.fs.AlikeBut unread later)
  (given : w.home.given.isSome = true)
include alike given

theorem documents_agree : AgreesUnless (w.fs.Blocks unread) w.documents.result
    ({ w with fs := later }.documents).result := by
  unfold documents
  rw [Traced.result_bind, Traced.result_bind]
  refine (Discovery.find_agrees alike w.probe given).bind_eq fun paths _ => ?_
  exact Traced.result_bind_congr
    (Traced.result_mapM_congr (result_readDocument_of_sameTexts alike.sameTexts) paths) fun _ _ => rfl

variable (bundle : ¬ unread w.bundlePath)
include bundle

theorem discover_agrees (context : Option String) : AgreesUnless (w.fs.Blocks unread)
    (w.discover context).result ({ w with fs := later }.discover context).result := by
  unfold discover
  rw [Traced.result_bind, Traced.result_bind]
  refine (documents_agree alike given).bind fun docs _ => ?_
  split
  · rw [Stage.result_reach_bind, Stage.result_reach_bind, Traced.result_bind, Traced.result_bind]
    exact (ServiceAccount.apply_agrees alike bundle .default).bind fun c _ =>
      ServiceAccount.applyNamespace_agrees alike c
  · rw [Stage.result_reach_bind, Stage.result_reach_bind]
    exact .inl (Merge.result_documents_of_sameTexts alike.sameTexts context docs .default)

theorem autoConfigure_agrees (context : Option String) : AgreesUnless (w.fs.Blocks unread)
    (w.autoConfigure context).result ({ w with fs := later }.autoConfigure context).result := by
  rw [result_autoConfigure, result_autoConfigure]
  refine (discover_agrees alike given bundle context).bind_eq fun c _ => ?_
  rw [result_finish_of_sameTexts alike.sameTexts]

theorem refreshAuto_agrees (c : Config) : AgreesUnless (w.fs.Blocks unread)
    (w.refreshAuto c).result ({ w with fs := later }.refreshAuto c).result := by
  rcases autoConfigure_agrees alike given bundle c.currentContextName with same | ⟨obstacle, hb, stuck⟩
  · exact .inl (result_renew_of_sameTexts alike.sameTexts c _ same _ fun _ => rfl)
  · refine .inr ⟨obstacle, hb, ?_⟩
    rw [refreshAuto, result_renew, stuck]
    dsimp only
    rw [obstacle.isUnknownContext_error]
    rfl

theorem refresh_agrees (c : Config) : AgreesUnless (w.fs.Blocks unread) (w.refresh c).result
    ({ w with fs := later }.refresh c).result := by
  unfold refresh
  split
  · exact .inl rfl
  · split
    · exact refreshAuto_agrees alike given bundle c
    · left
      split
      · exact result_refreshFile_of_sameTexts alike.sameTexts c _
      · rfl

end

/-- A kubeconfig with a token file, which holds a token. -/
def tokenTree : FileTree :=
  ⟨[("/home/user/.kube/config", tokenFileText.toUTF8.toList), ("/t", "mine".toUTF8.toList)], []⟩

/-- The token file may not be read. -/
def tokenDenied : World := { sample [] [] with fs := (tokenTree.deny "/t").fileSystem ["work"] }

end World

end ClusterAccess
