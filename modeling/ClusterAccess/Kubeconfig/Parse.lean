import ClusterAccess.Kubeconfig.Shape
import ClusterAccess.Text.Blank
import ClusterAccess.Traced
import ClusterAccess.Yaml.Load

/-!
# Reading kubeconfig documents

A text is a kubeconfig document when it is not blank, is YAML, holds a mapping, and the mapping has the
shape of a kubeconfig. Nothing is saved from a text that is not.
-/
namespace ClusterAccess.Kubeconfig

/-- The document in a value read from `source`. -/
def ofValue (source : Option String) : Value → Except Error Kubeconfig
  | .map entries =>
    match ofEntries entries with
    | .ok k => .ok k
    | .faults first rest => .error (.document source (.misshapen first rest))
    | .stop kind => .error (.noEntries kind)
  | v => .error (.document source (.notMapping v.kind))

/-- The document in a text read from `source`. -/
def parse (text : String) (source : Option String) : Except Error Kubeconfig :=
  if Text.isBlankText text then .error (.document source .blank)
  else match Yaml.load depth text with
    | .error .malformed => .error (.document source .notYaml)
    | .error fault => .error (.scalar fault)
    | .ok v => ofValue source v

/-- The document in a file, and in it the file's absolute path. -/
def read (fs : FileSystem) (path : Path) : Except Error Kubeconfig :=
  match fs.readText path.text with
  | .error fault => .error (.unreadable fault)
  | .ok text => (parse text (some path.text)).map (·.from (fs.absolute path))

theorem read_of_text {fs : FileSystem} {path : Path} {text : String} (h : fs.readText path.text = .ok text) :
    read fs path = (parse text (some path.text)).map (·.from (fs.absolute path)) := by
  rw [read, h]

/-- A file that is read holds the text of a document. -/
theorem read_eq_ok {fs : FileSystem} {path : Path} {doc : Kubeconfig} (h : read fs path = .ok doc) :
    ∃ text k, fs.readText path.text = .ok text ∧ parse text (some path.text) = .ok k ∧
      doc = k.from (fs.absolute path) := by
  unfold read at h
  split at h
  · cases h
  · next text ht =>
    cases hk : parse text (some path.text) with
    | error e =>
      rw [hk] at h
      cases h
    | ok k =>
      rw [hk] at h
      cases h
      exact ⟨text, k, ht, hk, rfl⟩

/-- The same, with a record of the reading. -/
def readTraced (fs : FileSystem) (path : Path) : Traced Kubeconfig := do
  Traced.debug .parsing s!"Parsing kubeconfig file: {path.text}"
  Traced.ofExcept (read fs path)

end ClusterAccess.Kubeconfig
