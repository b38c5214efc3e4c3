import ClusterAccess.Config.Vocabulary
import ClusterAccess.Error
import ClusterAccess.Number.Numeral
import ClusterAccess.Options.Name
import ClusterAccess.Text.Split

/-!
# Looking options up

An option is looked up by its name among the properties, and then by its variable in the environment. An
empty value counts as none. What is read from a value follows from the option's type: texts as they are,
truth values from the word `true`, decimal integers, comma lists.
-/
namespace ClusterAccess

structure Probe where
  property : String → Option String
  variableValue : String → Option String

namespace Probe

/-- A probe of finitely many properties and variables; the first of a name counts. -/
def ofLists (environment properties : List (String × String)) : Probe :=
  let look (entries : List (String × String)) (name : String) : Option String :=
    (entries.find? (·.1 == name)).map (·.2)
  ⟨look properties, look environment⟩

/-- The value of an option, if it is present. -/
def get? (p : Probe) (name : String) : Option String :=
  ((p.property name).filter (· ≠ "")).or
    ((p.variableValue (Options.variableName name)).filter (· ≠ ""))

def getD (p : Probe) (name default : String) : String := (p.get? name).getD default

/-- Whether a value is the word `true`. -/
def isTrue (value : String) : Bool := Text.asciiLower (Text.trim value) == "true"

def getTruth (p : Probe) (name : String) (default : Bool) : Bool :=
  ((p.get? name).map isTrue).getD default

def getInteger? (p : Probe) (name : String) : Except Error (Option Int) :=
  match p.get? name with
  | none => .ok none
  | some value =>
    match Numeral.readDecimal? value with
    | some i => .ok (some i)
    | none => .error (.invalidOption name value "an integer")

def getList? (p : Probe) (name : String) : Option (List String) := (p.get? name).map Text.commaList

def autoConfigDisabled (p : Probe) : Bool := p.getTruth Options.disableAutoConfig false

/-- The key algorithm that an option asks for. -/
def keyAlgorithm? (p : Probe) : Except Error (Option KeyAlgorithm) :=
  match p.get? Options.clientKeyAlgorithm with
  | none => .ok none
  | some value =>
    match KeyAlgorithm.all.find? (·.name == Text.upperCase (Text.trim value)) with
    | some a => .ok (some a)
    | none => .error (.invalidOption Options.clientKeyAlgorithm value "RSA or EC")

/-- The protocol versions that an option lists; an empty list counts as none. -/
def tlsVersions? (p : Probe) : Except Error (Option (List TlsVersion)) :=
  match p.getList? Options.tlsVersions with
  | none | some [] => .ok none
  | some names =>
    match names.mapM fun name => TlsVersion.all.find? (·.name == name) with
    | some versions => .ok (some versions)
    | none =>
      .error (.invalidOption Options.tlsVersions (",".intercalate names) "a list of TLS protocol names")

theorem get?_ne_empty {p : Probe} {name value : String} (h : p.get? name = some value) : value ≠ "" := by
  unfold get? at h
  rcases Option.or_eq_some_iff.1 h with h | ⟨_, h⟩ <;>
    · have := (Option.filter_eq_some_iff.1 h).2
      simpa using this

end Probe

end ClusterAccess
