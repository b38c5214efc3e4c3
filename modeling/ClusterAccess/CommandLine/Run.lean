import ClusterAccess.CommandLine.Arguments
import ClusterAccess.Config.Display
import ClusterAccess.Json.Print
import ClusterAccess.Resolve
import ClusterAccess.Tls.Availability
import ClusterAccess.Yaml.Print

/-!
# Running commands

A command resolves a configuration, from one file alone if one is given and else from the surroundings,
and writes what it is asked for, row by row. A row that cannot be encoded is not written, and the run fails
there. Log records go to the error stream, details only for debugging. A failure is written to the error
stream, or as JSON where JSON is asked for, and ends the run with a status of its own.
-/
namespace ClusterAccess.CommandLine

/-- Where a command runs. TLS is set up with what is in `certificates`. -/
structure Surroundings where
  variableValue : String → Option String
  fs : FileSystem
  certificates : Tls.Library
  /-- The platform's home directory. -/
  home : Option String
  isDirectory : String → Bool

/-- What a run leaves behind. -/
structure Outcome where
  status : Nat
  output : String
  errors : String
  deriving DecidableEq, Repr

def Surroundings.world (s : Surroundings) : World :=
  ⟨⟨fun _ => none, s.variableValue⟩, s.fs, Tls.available s.certificates, ⟨none, s.home⟩⟩

/-- A switch in a variable: on for a few words, as by default when it is empty. -/
def switch (value : Option String) (default : Bool) : Bool :=
  match filled value with
  | none => default
  | some word => ["1", "true", "yes"].contains (Text.asciiLower word)

def debugVariable : String := "KUBECFG_DEBUG"

/-- Details are wanted. -/
def wantsDetails (s : Surroundings) (settings : Settings) : Bool :=
  settings.debug || switch (s.variableValue debugVariable) false

def resolve (s : Surroundings) (settings : Settings) : Traced Config :=
  match filled settings.kubeconfig with
  | some path => s.world.ofFile (Path.ofText path) settings.context
  | none => s.world.autoConfigure settings.context

/-! ## Results -/

def object (es : List (String × Value)) : Value := .map (es.map fun (k, v) => (.str k, v))

def optionalText (s : Option String) : Value := (s.map Value.str).getD .null

/-- The context is the configuration's current one, by name. -/
def isCurrent (c : Config) (context : Named Context) : Bool := c.currentContextName == some context.name

def contextEntry (c : Config) (context : Named Context) : Value :=
  object [("name", .str context.name), ("cluster", optionalText context.value.cluster),
    ("user", optionalText context.value.user), ("namespace", optionalText context.value.namespaceName),
    ("current", .bool (isCurrent c context)), ("file", optionalText (context.source.map Path.text))]

def contextRow (c : Config) (context : Named Context) : String :=
  (if isCurrent c context then "* " else "  ") ++ context.name

/-- The contexts of a configuration, sorted by name. -/
def contextRows (c : Config) : List String :=
  (c.contexts.mergeSort fun a b => Text.isInOrder a.name.toList b.name.toList).map (contextRow c)

/-- What is shown of a configuration, if all integers in it can be written. -/
def shown (settings : Settings) (c : Config) : Except Error (List (String × Value)) := do
  let entries ← c.display (!settings.showSecrets)
  if (object entries).hasLongNumber then throw .longNumber
  return entries

/-- The result of a command as JSON. -/
def Command.result (command : Command) (settings : Settings) (c : Config) : Except Error Value :=
  match command with
  | .contexts => .ok (.list (c.contexts.map (contextEntry c)))
  | .view => (shown settings c).map object

/-- The result of a command as text. -/
def Command.lines (command : Command) (settings : Settings) (c : Config) : Except Error (List String) :=
  match command with
  | .contexts => .ok (if c.contexts.isEmpty then ["No contexts found"] else contextRows c)
  | .view => do
    let entries := (← shown settings c).map fun (k, v) => (Value.str k, v)
    return [String.ofList (Text.trimEnd (Yaml.print entries).toList)]

def jsonPage (es : List (String × Value)) : String := Json.render (.indented 0) (object es) ++ "\n"

/-- What is written for a result, one text after the other. -/
def resultPages (command : Command) (settings : Settings) (c : Config) : Except Error (List String) := do
  if settings.jsonOutput then
    return [jsonPage [("status", .str "ok"), ("result", ← command.result settings c)]]
  else return (← command.lines settings c).map written

/-- The texts that are written before the first one that cannot be encoded, and why that one cannot. -/
def write : List String → String × Option Text.Unencodable
  | [] => ("", none)
  | page :: rest =>
    match Text.unencodable? page with
    | some fault => ("", some fault)
    | none => (page ++ (write rest).1, (write rest).2)

/-! ## Failures -/

def errorPage (settings : Settings) (e : Error) : String :=
  let details := if settings.debug then [("traceback", .str "..."), ("type", .str e.name)] else []
  jsonPage ([("status", .str "error"), ("error", .str e.message)] ++ details)

/-- The place of a trace is left open. -/
def errorReport (settings : Settings) (e : Error) : String :=
  written s!"Error: {e.message}" ++ (if settings.debug then "\nTraceback:" else "Aborted!\n")

def logText (details : Bool) (log : List Log.Record) : String :=
  let shown := log.filter fun r => details || r.level != .debug
  String.join (shown.map fun r => r.line (programName ++ ".") ++ "\n")

/-- A run that fails when some output is written already. -/
def failure (settings : Settings) (output log : String) (e : Error) : Outcome :=
  if settings.jsonOutput then ⟨1, output ++ errorPage settings e, Text.escaped (log ++ "Aborted!\n")⟩
  else ⟨1, output, Text.escaped (log ++ errorReport settings e)⟩

/-- A run with texts to be written. -/
def deliver (settings : Settings) (log : String) (pages : List String) : Outcome :=
  match write pages with
  | (output, none) => ⟨0, output, Text.escaped log⟩
  | (output, some fault) => failure settings output log (.unwritable fault)

/-- A command in its surroundings. -/
def perform (s : Surroundings) (command : Command) (settings : Settings) : Outcome :=
  let pages := resolve s settings >>= fun c => .ofExcept (resultPages command settings c)
  let log := logText (wantsDetails s settings) pages.log
  match pages.result with
  | .error e => failure settings "" log e
  | .ok pages => deliver settings log pages

/-- The program with its arguments. -/
def run (s : Surroundings) (args : List String) : Outcome :=
  match request s.isDirectory args with
  | .error mistake => ⟨2, "", Text.escaped mistake.report⟩
  | .ok (.help scope) => ⟨0, helpPage scope, ""⟩
  | .ok .version => ⟨0, versionPage, ""⟩
  | .ok (.run command settings) => perform s command settings

end ClusterAccess.CommandLine
