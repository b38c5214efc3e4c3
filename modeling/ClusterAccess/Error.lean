import ClusterAccess.Check.Basic
import ClusterAccess.FileSystem.Basic
import ClusterAccess.Json.Form
import ClusterAccess.Value.Entries
import ClusterAccess.Yaml.Token

/-!
# Why a configuration cannot be made

Most trouble met on the way to a configuration is soft: it is logged and a field stays unset. The causes
below are those where what was asked for cannot be honoured. Each has a name and a message.
-/
namespace ClusterAccess

/-- What is wrong with a kubeconfig text as a whole. -/
inductive DocumentFault where
  | blank
  | notYaml
  | notMapping (kind : String)
  | misshapen (first : Issue) (rest : List Issue)
  deriving DecidableEq, Repr

inductive Error where
  | document (source : Option String) (fault : DocumentFault)
  | scalar (fault : Yaml.Fault)
  | noEntries (kind : String)
  | unknownContext (name : String) (available : List String)
  | invalidOption (name : String) (value : String) (expected : String)
  | noMasterUrl
  | unreadable (fault : ReadFault)
  /-- A text is to be written that cannot be encoded. -/
  | unwritable (fault : Text.Unencodable)
  | nonAsciiCertificate
  /-- An integer is to be written that is too long for that. -/
  | longNumber
  /-- A value without a JSON form is to be shown. -/
  | formless (fault : Json.Formless)
  | unknownField (name : String)
  | misshapen (record : String) (first : Issue) (rest : List Issue)
  | notEntries (fault : EntriesFault)
  deriving DecidableEq, Repr

def DocumentFault.message : DocumentFault → String
  | .blank => "kubeconfig is empty"
  | .notYaml => "invalid YAML"
  | .notMapping kind => s!"expected a mapping at the top level, got {kind}"
  | .misshapen _ _ => "invalid kubeconfig"

namespace Error

/-- A message about a text from a source that has a name. -/
def fromSource (source : Option String) (message : String) : String :=
  match source with
  | some s => if s = "" then message else s!"{s}: {message}"
  | none => message

def message : Error → String
  | .document source fault => fromSource source fault.message
  | .scalar fault => fault.message
  | .noEntries kind => s!"'{kind}' object has no attribute 'items'"
  | .unknownContext name available =>
    let names := ", ".intercalate available
    let known := if available.isEmpty then "" else s!" (available: {names})"
    s!"Context '{name}' not found in kubeconfig{known}"
  | .invalidOption name value expected =>
    s!"Invalid value for {name}: {Text.quoted value} (expected {expected})"
  | .noMasterUrl => "No master URL configured"
  | .unreadable fault => fault.message
  | .unwritable fault => fault.message
  | .longNumber => Numeral.longMessage
  | .formless fault => fault.message
  | .nonAsciiCertificate => "cadata should be an ASCII string or a bytes-like object"
  | .unknownField name => s!"Unknown configuration field: {name}"
  | .misshapen record _ _ => record
  | .notEntries fault => fault.message

def name : Error → String
  | .document _ _ => "KubeConfigParseError"
  | .scalar fault => fault.name
  | .noEntries _ => "AttributeError"
  | .unknownContext _ _ => "ContextNotFoundError"
  | .invalidOption _ _ _ => "InvalidPropertyError"
  | .noMasterUrl => "KubeConfigError"
  | .unreadable fault => fault.name
  | .unwritable _ => "UnicodeEncodeError"
  | .nonAsciiCertificate => "TypeError"
  | .longNumber => "ValueError"
  | .formless fault => fault.name
  | .unknownField _ => "ValueError"
  | .misshapen _ _ _ => "ValidationError"
  | .notEntries (.wrongLength _ _) => "ValueError"
  | .notEntries _ => "TypeError"

/-- The issues that an error lists. -/
def issues : Error → List Issue
  | .document _ (.misshapen first rest) => first :: rest
  | .misshapen _ first rest => first :: rest
  | _ => []

end Error

end ClusterAccess
