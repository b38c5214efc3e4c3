import ClusterAccess.Check.Shape
import ClusterAccess.Config.Basic
import ClusterAccess.Error
import ClusterAccess.Kubeconfig.Shape

/-!
# The shape of field values

What may be given for a field. Callers pass values under the names of fields, and for two of the fields what
the field holds: a supplier of tokens, and the settings of a plugin. A value is taken to the field's own type:
texts that spell a number or a truth value count as one. Every name must be a field's; a field that is not
named stays unset.
-/
namespace ClusterAccess

/-- What a caller passes for a field. -/
inductive Argument where
  | value (v : Value)
  | provider (p : TokenProvider)
  | plugin (p : AuthProvider)

namespace Shape

/-- One of the choices, by its exact name. -/
def choice {α : Type} (choices : List α) (name : α → String) (v : Value) : Checked α :=
  let found := match v with
    | .str s => choices.find? (name · == s)
    | _ => none
  match found with
  | some a => .ok a
  | none => .fault (.notAmong (choices.map name))

/-- Entries under names that are not known are not permitted. -/
def onlyKnown (isKnown : String → Bool) (keys : List Value) : List (Checked Unit) :=
  keys.filterMap fun key =>
    let known := match key with
      | .str s => isKnown s
      | _ => false
    if known then none else some ((Checked.fault .unknownKey).under (stepTo key))

end Shape

/-! ## The request policy -/

namespace RequestChanges

def reading (es : Entries) (f : RequestField) : Checked (Option Int) :=
  Shape.field (Shape.plain f.name) .none (fun v => (Shape.integer v).map some) es

/-- The settings that entries give. -/
def ofEntries (es : Entries) : Checked RequestChanges :=
  let readings := RequestField.all.map fun f => (reading es f).map fun _ => ()
  let strangers := Shape.onlyKnown (fun name => (RequestField.ofName? name).isSome) (es.map (·.1))
  (Checked.all (readings ++ strangers)).map fun _ =>
    ⟨fun f => match reading es f with
      | .ok i? => i?
      | _ => .none⟩

end RequestChanges

def RequestPolicy.recordName : String := "RequestConfig"

/-- The policy that entries describe; what they leave out is as by default. -/
def RequestPolicy.ofEntries (es : Entries) : Checked RequestPolicy :=
  (RequestChanges.ofEntries es).map RequestPolicy.default.change

/-! ## Fields -/

/-- The issue of an argument that is nothing of the kind. -/
def FieldKind.refusal : FieldKind → IssueKind
  | .text | .maybeText => .notText
  | .truth => .notTruth
  | .integer => .notInteger
  | .texts | .tlsVersions | .contexts => .notList
  | .textLists | .textMap => .notMapping
  | .keyAlgorithm => .notAmong (KeyAlgorithm.all.map KeyAlgorithm.name)
  | .source => .notAmong (Source.all.map Source.name)
  | .tokenProvider => .notInstance "TokenProvider"
  | .authProvider => .notRecord "AuthProviderConfig"
  | .request => .notRecord RequestPolicy.recordName
  | .currentContext => .notRecord "NamedContext"

/-- A supplier of tokens is no value: only its absence is. -/
def noProvider : Value → Checked (Option TokenProvider)
  | .null => .ok none
  | _ => .fault FieldKind.tokenProvider.refusal

def Shape.ofKind : (k : FieldKind) → Value → Checked k.Value
  | .text => text
  | .maybeText => optional text
  | .truth => truth
  | .integer => integer
  | .texts => list text
  | .textLists => mapping (list text)
  | .textMap => mapping text
  | .keyAlgorithm => optional (choice KeyAlgorithm.all KeyAlgorithm.name)
  | .tlsVersions => list (choice TlsVersion.all TlsVersion.name)
  | .tokenProvider => noProvider
  | .authProvider => optional Kubeconfig.authProvider
  | .request => record RequestPolicy.recordName RequestPolicy.ofEntries
  | .contexts => list Kubeconfig.namedContext
  | .currentContext => optional Kubeconfig.namedContext
  | .source => choice Source.all Source.name

/-- What an argument says about a field of the kind. -/
def FieldKind.ofArgument : (k : FieldKind) → Argument → Checked k.Value
  | k, .value v => Shape.ofKind k v
  | .tokenProvider, .provider p => .ok (some p)
  | .authProvider, .plugin p => .ok (some p)
  | k, .provider _ => .fault k.refusal
  | k, .plugin _ => .fault k.refusal

/-- Arguments under names. -/
abbrev Arguments := List (String × Argument)

namespace Changes

def reading (args : Arguments) (f : Field) : Checked (Option f.Value) :=
  match args.lookup f.name with
  | .none => .ok .none
  | some a => ((f.kind.ofArgument a).map some).under (.key f.name)

/-- What arguments say about the fields that they name. -/
def ofArguments (args : Arguments) : Checked Changes :=
  let readings := Field.all.map fun f => (reading args f).map fun _ => ()
  let strangers :=
    Shape.onlyKnown (fun name => (Field.ofName? name).isSome) (args.map fun (name, _) => .str name)
  (Checked.all (readings ++ strangers)).map fun _ =>
    ⟨fun f => match reading args f with
      | .ok v? => v?
      | _ => .none⟩

end Changes

/-! ## Records -/

/-- A record read as a whole: one issue refuses it. -/
def Checked.whole {α : Type} (record : String) : Checked α → Except Error α
  | .ok a => .ok a
  | .faults first rest => .error (.misshapen record first rest)
  | .stop kind => .error (.noEntries kind)

def Config.recordName : String := "ResolvedConfig"

/-- The configuration that arguments describe, over the defaults. -/
def Config.ofArguments (args : Arguments) : Except Error Config :=
  ((Changes.ofArguments args).whole recordName).map Config.default.evolve

def RequestPolicy.ofArguments (es : Entries) : Except Error RequestPolicy :=
  (RequestPolicy.ofEntries es).whole recordName

/-- A record is never changed in place. -/
def Error.frozen (record name : String) : Error := .misshapen record ⟨[.key name], .frozen⟩ []

end ClusterAccess
