import ClusterAccess.Config.Basic
import ClusterAccess.Error
import ClusterAccess.Json.Form

/-!
# Configurations on display

The fields of a configuration in their order, without those that are null, and last the token that
discovery found. Contexts are shown by name, a supplier of tokens not at all. Unless asked for, secrets
are masked; whether a secret is there can still be seen. A configuration whose plugin has settings without
a JSON form cannot be shown, masked or not.
-/
namespace ClusterAccess

def textEntries {α : Type} (shown : α → Value) (es : List (String × α)) : Value :=
  .map (es.map fun (name, a) => (.str name, shown a))

def textList (texts : List String) : Value := .list (texts.map Value.str)

def RequestPolicy.shown (p : RequestPolicy) : Value :=
  .map (RequestField.all.map fun f => (.str f.name, .int (p.value f)))

/-- What is shown of a value, none if nothing is. Plugins are left to `AuthProvider.shown`. -/
def FieldKind.shown? : (k : FieldKind) → k.Value → Option ClusterAccess.Value
  | .text, s => some (.str s)
  | .maybeText, s => s.map .str
  | .truth, b => some (.bool b)
  | .integer, i => some (.int i)
  | .texts, ss => some (textList ss)
  | .textLists, es => some (textEntries textList es)
  | .textMap, es => some (textEntries .str es)
  | .keyAlgorithm, a => a.map fun a => .str a.name
  | .tlsVersions, versions => some (textList (versions.map TlsVersion.name))
  | .tokenProvider, _ => none
  | .authProvider, _ => none
  | .request, p => some p.shown
  | .contexts, cs => some (textList (cs.map (·.name)))
  | .currentContext, c => c.map fun c => .str c.name
  | .source, o => some (.str o.name)

/-- What stands for a secret. -/
def mask : Value := .str "***"

def masked (v : Value) : Value := if v.isEmpty then v else mask

/-- The forms of settings. -/
def AuthProvider.settings (p : AuthProvider) : Json.Formed (List (String × Value)) :=
  p.config.mapM fun (key, v) => return (key, ← Json.form v)

/-- A plugin, its settings all masked where secrets are. -/
def AuthProvider.shown (redact : Bool) (p : AuthProvider) : Json.Formed Value := do
  let settings ← p.settings
  let shown := textEntries (fun v => if redact then mask else v) settings
  return .map [(.str "name", .str p.name), (.str "config", shown)]

def Field.isSecret : Field → Bool
  | .oauthToken | .password | .proxyPassword | .clientKeyData | .clientKeyPassphrase
  | .trustStorePassphrase | .keyStorePassphrase => true
  | _ => false

namespace Config

def autoTokenName : String := "auto_oauth_token"

/-- What is shown of a field, given what is shown of the plugin. -/
def shownField? (c : Config) (redact : Bool) (plugin? : Option Value) (f : Field) : Option Value :=
  match f with
  | .authProvider => plugin?
  | f => (f.kind.shown? (c.value f)).map fun v => if redact && f.isSecret then masked v else v

/-- The configuration as entries to be shown. -/
def display (c : Config) (redact : Bool) : Except Error (List (String × Value)) := do
  let plugin? ← (c.authProvider.mapM (AuthProvider.shown redact)).mapError Error.formless
  let fields := Field.all.filterMap fun f => (c.shownField? redact plugin? f).map (f.name, ·)
  let token := c.autoToken.map fun t => (autoTokenName, if redact then masked (.str t) else .str t)
  return fields ++ token.toList

end Config

end ClusterAccess
