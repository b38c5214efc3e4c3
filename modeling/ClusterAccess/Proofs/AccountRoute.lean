import ClusterAccess.FileSystem.FileTree
import ClusterAccess.Proofs.RefusedOption
import ClusterAccess.Proofs.StageLog

/-!
# Configurations of the service account

Without a usable kubeconfig the service account is asked, and in memory it never fails, whatever is the matter
with its files. So there is a configuration with a master URL unless an option is refused, as long as the
check for TLS answers.
-/
namespace ClusterAccess

/-! ## Files that cost nothing but what they hold -/

/-- One can always tell whether a path names a file, and reading fails for reasons of the disk only. -/
structure FileSystem.Answers (fs : FileSystem) : Prop where
  tests : ∀ path, fs.testObstacle? path = none
  reads : ∀ path, fs.readObstacle? path = none

theorem FileTree.answers (t : FileTree) (directory : List String) : (t.fileSystem directory).Answers where
  tests _ := rfl
  reads path := by
    show (FileSystem.readObstacle? (t.fileSystem directory) path) = none
    unfold FileSystem.readObstacle? fileSystem readText readOctets
    dsimp only
    split
    · rfl
    · next fault fails =>
      split at fails
      · cases fails
        rfl
      · split at fails
        · next octets _ =>
          cases decoded : Utf8.decode octets with
          | ok text =>
            rw [decoded] at fails
            cases fails
          | error malformed =>
            rw [decoded] at fails
            cases fails
            rfl
        · cases fails
          rfl

namespace FileSystem.Answers

variable {fs : FileSystem} (gentle : fs.Answers)
include gentle

theorem fileObstacle? (path : String) : fs.fileObstacle? path = none := by
  rw [FileSystem.fileObstacle?, gentle.tests, gentle.reads, ite_self, Option.or_none]

theorem keyObstacle? (file data : Option String) : ClientKey.obstacle? fs file data = none := by
  cases data with
  | some data => rfl
  | none => exact Option.bind_eq_none_iff.mpr fun path _ => gentle.reads path

theorem tokenObstacle? (p : Probe) : ServiceAccount.tokenObstacle? p fs = none := by
  unfold ServiceAccount.tokenObstacle?
  cases p.get? Options.serviceAccountTokenFile with
  | none => exact gentle.fileObstacle? _
  | some path => exact gentle.reads path

end FileSystem.Answers

theorem World.accountObstacle?_of_answers {w : World} (gentle : w.fs.Answers) :
    w.accountObstacle? = none := by
  unfold accountObstacle? ServiceAccount.offeredObstacle? ServiceAccount.namespaceObstacle?
  rw [gentle.tests, gentle.tokenObstacle?, gentle.fileObstacle?, Option.or_none, ite_self, ite_self,
    Option.or_none]

namespace World

variable {w : World} {context : Option String}

theorem masterUrl_of_finish {c d : Config} (h : (w.finish c).result = .ok d) : d.masterUrl ≠ "" := by
  obtain ⟨_, url, algorithm, settles, _, rfl⟩ := Config.normalize_eq_ok.mp (finish_eq_ok.mp h).2
  obtain ⟨available, rfl⟩ := Config.normalUrl_eq_ok settles
  rw [Config.masterUrl_settled]
  simp [MasterUrl.ensureTrailingSlash]

/-- A run that gives a configuration has read all options. -/
theorem not_refuses_of_autoConfigure {c : Config} (h : (w.autoConfigure context).result = .ok c)
    (e : Error) : ¬ w.probe.Refuses e := by
  obtain ⟨found, _, configures⟩ := configures_of_autoConfigure h
  obtain ⟨forced, reads, _⟩ := configures.keyAlgorithm
  exact Probe.not_refuses configures.wellFormed reads e

/-- With a service account no step fails but those that read options. -/
theorem refuses_of_autoConfigure (gentle : w.fs.Answers) (account : w.documents.result = .ok [])
    (answers : ∀ c, ∃ available, (w.https c).result = .ok available) {e : Error}
    (h : (w.autoConfigure context).result = .error e) : w.probe.Refuses e := by
  obtain ⟨stages, course⟩ := w.exists_course context
  rw [h] at course
  cases course with
  | unasked documents | unparsed documents =>
    rw [account] at documents
    cases documents
  | podFile _ blocked =>
    rw [accountObstacle?_of_answers gentle] at blocked
    cases blocked
  | userEntry documents found =>
    rw [account] at documents
    cases documents
    exact absurd rfl found
  | contextless documents found _ =>
    rw [account] at documents
    cases documents
    exact absurd rfl found
  | illFormed _ fault => exact Options.refuses_of_fault fault
  | @unsettled found _ discovers _ unsettled =>
    cases unsettled with
    | noMasterUrl empty =>
      exact absurd (Options.masterUrl_overlay_eq_empty_iff.mp empty).2 (masterUrl_of_account account discovers)
    | check _ _ fails =>
      obtain ⟨available, ha⟩ := answers (Options.overlay w.probe found)
      rw [ha] at fails
      cases fails
    | keyAlgorithm _ _ invalid => exact Probe.refuses_of_keyAlgorithm invalid
    | keyFile _ _ _ blocked =>
      rw [gentle.keyObstacle?] at blocked
      cases blocked

/-- Without a usable kubeconfig a run fails exactly if an option is refused, and says which. Otherwise there
is a configuration with a master URL. No file of the pod makes a difference as long as one can ask for it, as
is always so in memory. -/
theorem autoConfigure_of_account (gentle : w.fs.Answers) (account : w.documents.result = .ok [])
    (answers : ∀ c, ∃ available, (w.https c).result = .ok available) (context : Option String) :
    ((∃ e, (w.autoConfigure context).result = .error e) ↔ ∃ e, w.probe.Refuses e) ∧
    (∀ e, (w.autoConfigure context).result = .error e →
      w.probe.Refuses e ∧ e.name = "InvalidPropertyError") ∧
    ((∀ e, ¬ w.probe.Refuses e) →
      ∃ c, (w.autoConfigure context).result = .ok c ∧ c.masterUrl ≠ "") := by
  have refused : ∀ e, (w.autoConfigure context).result = .error e → w.probe.Refuses e :=
    fun e h => refuses_of_autoConfigure gentle account answers h
  refine ⟨⟨fun ⟨e, h⟩ => ⟨e, refused e h⟩, ?_⟩, fun e h => ⟨refused e h, (refused e h).name_eq⟩,
    fun none => ?_⟩
  · rintro ⟨e, refuses⟩
    cases run : (w.autoConfigure context).result with
    | error e' => exact ⟨e', rfl⟩
    | ok c => exact absurd refuses (not_refuses_of_autoConfigure run e)
  · cases run : (w.autoConfigure context).result with
    | error e => exact absurd (refused e run) (none e)
    | ok c =>
      refine ⟨c, rfl, ?_⟩
      obtain ⟨_, finished, _, hf, rfl⟩ := autoConfigure_eq_ok.mp run
      rw [Config.masterUrl, Config.value_set_of_ne _ (by decide)]
      exact masterUrl_of_finish hf

/-- A pod with nothing in memory but options, one of which names a token file. -/
def withTimeout (timeout : String) : World :=
  { sample [(Options.requestTimeout, timeout), (Options.serviceAccountTokenFile, "/run/token")] [] with
    fs := FileTree.empty.fileSystem [] }

/-- A timeout in another notation is refused, one with a sign and an underscore is not. The token file that
an option names is not there. -/
theorem autoConfigure_of_account_sample :
    (∃ e, ((withTimeout "1e3").autoConfigure none).result = .error e) ∧
    ∃ c, ((withTimeout " +1_000 ").autoConfigure none).result = .ok c ∧ c.masterUrl ≠ "" := by
  have gentle : ∀ timeout, (withTimeout timeout).fs.Answers := fun _ => FileTree.empty.answers []
  constructor
  · have account := documents_of_unreadable (w := withTimeout "1e3") (by decide +kernel)
    refine (autoConfigure_of_account (gentle "1e3") account (fun c => ⟨true, rfl⟩) none).1.mpr
      ⟨.invalidOption Options.requestTimeout "1e3" "an integer", ?_⟩
    exact .integer (by decide +kernel) (by decide +kernel)
      (Numeral.readDecimal?_eq_none_iff.mp (by decide +kernel))
  · have account := documents_of_unreadable (w := withTimeout " +1_000 ") (by decide +kernel)
    exact (autoConfigure_of_account (gentle " +1_000 ") account (fun c => ⟨true, rfl⟩) none).2.2
      (Probe.not_refuses (by decide +kernel) rfl)

end World

end ClusterAccess
