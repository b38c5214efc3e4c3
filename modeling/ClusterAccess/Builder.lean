import ClusterAccess.Config.Shape
import ClusterAccess.Resolve

/-!
# Building a configuration

A builder collects explicit values, each checked when it is set, and lays them over a configuration that
discovery finds, or over the defaults. A call that is refused says why; what it had set before it was
refused stays set, and later calls go on from there.
-/
namespace ClusterAccess

structure Builder where
  /-- Start from what discovery finds. -/
  auto : Bool
  context : Option String
  fields : Changes
  request : RequestChanges

/-- The argument in a message. -/
def Argument.text : Argument → String
  | .value v => v.text
  | .provider _ => "TokenProvider"
  | .plugin p =>
    let config := Value.map (p.config.map fun (key, v) => (.str key, v))
    s!"name={Text.quoted p.name} config={config.literal}"

/-- The list of some arguments. Null stands in it for what is no value: no item of a list may be either. -/
def Argument.ofArguments (args : List Argument) : Value :=
  .list (args.map fun
    | .value v => v
    | .provider _ | .plugin _ => .null)

/-- The fields that a caller may set; the others are results of discovery. -/
def Field.isSettable : Field → Bool
  | .request | .contexts | .currentContext | .autoConfigured | .source | .defaultNamespace => false
  | _ => true

/-- A call of a builder. -/
inductive Builder.Call where
  | context (name : Option String)
  | autoConfigure (enabled : Bool)
  | set (args : Arguments)
  /-- A field of entries is set to the entries of a value. -/
  | setEntries (f : Field) (v : Value)
  /-- The whole request policy, which entries describe. -/
  | setRequest (es : Entries)

namespace Builder.Call

def setField (f : Field) (a : Argument) : Call := .set [(f.name, a)]

def setRequestField (f : RequestField) (a : Argument) : Call := .set [(f.name, a)]

/-- The call that is meant for one field alone: the arguments are the items of a list, a truth value is
true without an argument, and entries are copied. -/
def forField (f : Field) (args : List Argument) : Call :=
  match f.kind with
  | .texts | .tlsVersions => setField f (.value (Argument.ofArguments args))
  | .truth => setField f (args.headD (.value (.bool true)))
  | .textLists | .textMap =>
    match args with
    | .value v :: _ => .setEntries f v
    | _ => setField f (args.headD (.value .null))
  | _ => setField f (args.headD (.value .null))

def proxyCredentials (username password : Argument) : Call :=
  .set [(Field.proxyUsername.name, username), (Field.proxyPassword.name, password)]

/-- How many requests run at once; without a number for each host that one stays as it is. -/
def concurrency (total : Argument) : Argument → Call
  | .value .null => setField .maxConcurrentRequests total
  | perHost =>
    .set [(Field.maxConcurrentRequests.name, total), (Field.maxConcurrentRequestsPerHost.name, perHost)]

/-- How a watch reconnects; without a limit, for ever. -/
def watchReconnect (interval : Argument) (limit? : Option Argument) : Call :=
  .set [(RequestField.watchReconnectInterval.name, interval),
    (RequestField.watchReconnectLimit.name, limit?.getD (.value (.int (-1))))]

end Builder.Call

namespace Builder

def start (auto : Bool) (context : Option String) : Builder := ⟨auto, context, .none, .none⟩

/-- The explicit values set so far. -/
def overrides (b : Builder) : Overrides :=
  ⟨b.fields, if b.request.isEmpty then none else some b.request, none⟩

/-- A checked reading of an argument, or why it is not valid for the field of that name. -/
def accept {α : Type} (name : String) (a : Argument) : Checked α → Except Error α
  | .ok v => .ok v
  | .faults first _ => .error (.invalidOption name a.text first.kind.expectation)
  | .stop kind => .error (.noEntries kind)

def setOne (b : Builder) (name : String) (a : Argument) : Except Error Builder :=
  match RequestField.ofName? name with
  | some f => do
    let i ← accept name a (FieldKind.integer.ofArgument a)
    return { b with request := b.request.set f i }
  | none =>
    match (Field.ofName? name).filter Field.isSettable with
    | some f => do
      let v ← accept name a (f.kind.ofArgument a)
      return { b with fields := b.fields.set f v }
    | none => .error (.unknownField name)

/-- All arguments in order, up to the first that is refused. -/
def set (b : Builder) : Arguments → Builder × Option Error
  | [] => (b, none)
  | (name, a) :: rest =>
    match b.setOne name a with
    | .ok b => b.set rest
    | .error e => (b, some e)

/-- The builder after a call, and why the call was refused if it was. -/
def call (b : Builder) : Call → Builder × Option Error
  | .context name => ({ b with context := name }, none)
  | .autoConfigure enabled => ({ b with auto := enabled }, none)
  | .set args => b.set args
  | .setEntries f v =>
    match v.entries with
    | .ok es => b.set [(f.name, .value (.map es))]
    | .error fault => (b, some (.notEntries fault))
  | .setRequest es =>
    match RequestPolicy.ofArguments es with
    | .ok p => b.set (RequestField.all.map fun f => (f.name, .value (.int (p.value f))))
    | .error e => (b, some e)

/-- The configuration that explicit values are laid over, and the options that count for it. -/
def base (b : Builder) (w : World) : Traced (Config × Option Probe) := do
  if !b.auto then return (← w.empty, none)
  else if w.probe.autoConfigDisabled then
    .debug .builder "Auto-configuration disabled, building from defaults"
    return (← w.empty, none)
  else return (← w.autoConfigure b.context, some w.probe)

/-- The configuration. -/
def build (b : Builder) (w : World) : Traced Config := do
  let (c, probe?) ← b.base w
  b.overrides.apply w.https w.fs probe? c

end Builder

end ClusterAccess
