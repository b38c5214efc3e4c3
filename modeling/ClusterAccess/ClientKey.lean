import ClusterAccess.Config.Vocabulary
import ClusterAccess.FileSystem.Access
import ClusterAccess.Text.Base64
import ClusterAccess.Text.Lines

/-!
# The algorithm of a client key

A private key in PEM names its algorithm in its header. Of several headers the last one decides. Key
material given inline may be PEM or PEM in base64; text that is not base64 of UTF-8 text is taken as it
is. Inline material is looked at before a file.
-/
namespace ClusterAccess.ClientKey

def ecHeader : List Char := "BEGIN EC PRIVATE KEY".toList

def rsaHeader : List Char := "BEGIN RSA PRIVATE KEY".toList

def ofLine? (line : List Char) : Option KeyAlgorithm :=
  if Text.containsWord ecHeader line then some .ec
  else if Text.containsWord rsaHeader line then some .rsa
  else none

/-- The algorithm that the last header names. -/
def detect (pem : String) : Option KeyAlgorithm :=
  (Text.lines pem).foldl (fun found line => (ofLine? line).or found) none

/-- The text of inline material. -/
def decodeData (data : String) : String :=
  match (Base64.decode data.toList).map Utf8.decode with
  | some (.ok s) => s
  | _ => data

/-- The algorithm of a key given inline or as a file; none if it shows none or cannot be read. -/
def algorithm (fs : FileSystem) (file data : Option String) : Traced (Option KeyAlgorithm) :=
  match data, file with
  | some data, _ => pure (detect (decodeData data))
  | none, none => pure none
  | none, some file => do
    let pem? ← fs.tryText file .debug .normalForm fun trouble =>
      s!"Failure in determining private key algorithm type: {trouble}"
    return pem?.bind detect

/-- The algorithm that a key shows, without a record of what goes wrong. -/
def shown (fs : FileSystem) (file data : Option String) : Option KeyAlgorithm :=
  match data with
  | some data => detect (decodeData data)
  | none => (file.bind fun file => (fs.readText file).toOption).bind detect

/-- What makes looking at a key an error. A key that is given inline is not looked for in a file. -/
def obstacle? (fs : FileSystem) (file data : Option String) : Option Obstacle :=
  match data with
  | some _ => none
  | none => file.bind fs.readObstacle?

theorem obstacle?_eq_some {fs : FileSystem} {file data : Option String} {obstacle : Obstacle} :
    obstacle? fs file data = some obstacle ↔
      data = none ∧ ∃ name, file = some name ∧ fs.readObstacle? name = some obstacle := by
  cases data with
  | some text => simp [obstacle?]
  | none => simp [obstacle?, Option.bind_eq_some_iff]

/-- It is a file that stands in the way of a key. -/
theorem exists_of_obstacle? {fs : FileSystem} {file data : Option String} {obstacle : Obstacle}
    (h : obstacle? fs file data = some obstacle) : ∃ fault, obstacle = .file fault := by
  obtain ⟨_, _, _, reads⟩ := obstacle?_eq_some.mp h
  obtain ⟨fault, _, _, same⟩ := FileSystem.readObstacle?_eq_some.mp reads
  exact ⟨fault, same⟩

@[simp] theorem result_algorithm (fs : FileSystem) (file data : Option String) :
    (algorithm fs file data).result = guarded (obstacle? fs file data) (shown fs file data) := by
  unfold algorithm shown obstacle?
  split
  · rfl
  · rfl
  · rw [Traced.result_bind, FileSystem.result_tryText]
    exact guarded_map _

end ClusterAccess.ClientKey
