import ClusterAccess.Text.ControlSequence
import ClusterAccess.Text.Quoted

/-!
# Commands and their options

The program has two commands. Before the command stand options of the program, after it options of the
command. Each set of options has a help page, which a mistake in the arguments refers to.
-/
namespace ClusterAccess.CommandLine

def programName : String := "kubecfg"

def programVersion : String := "0.1.0"

/-- A line that is written to a stream, which is taken to be no terminal. -/
def written (line : String) : String := Text.plain line ++ "\n"

inductive Command where
  | contexts
  | view
  deriving DecidableEq, Repr

def Command.all : List Command := [.contexts, .view]

def Command.name : Command → String
  | .contexts => "contexts"
  | .view => "view"

inductive Flag where
  | version
  | context
  | kubeconfig
  | showSecrets
  | jsonOutput
  | debug
  | help
  deriving DecidableEq, Repr

namespace Flag

def name : Flag → String
  | version => "--version"
  | context => "--context"
  | kubeconfig => "--kubeconfig"
  | showSecrets => "--show-secrets"
  | jsonOutput => "--json-output"
  | debug => "--debug"
  | help => "--help"

/-- What follows an option that takes a value. -/
def valueName? : Flag → Option String
  | context => some "TEXT"
  | kubeconfig => some "FILE"
  | _ => none

/-- What the help page says, line by line. -/
def description : Flag → List String
  | version => ["Show the version and exit."]
  | context => ["Kubeconfig context to select"]
  | kubeconfig => ["Read only this kubeconfig file, without environment", "overrides"]
  | showSecrets => ["Do not mask tokens, passwords and keys"]
  | jsonOutput => ["Output in JSON format"]
  | debug => ["Show detailed debug information"]
  | help => ["Show this message and exit."]

/-- The option as the help page writes it. -/
def usage (f : Flag) : String := f.name ++ (f.valueName?.map (" " ++ ·)).getD ""

end Flag

/-- Where options stand: of the program, or of a command. -/
abbrev Scope := Option Command

/-- The options of a scope, in the order of its help page. -/
def flags : Scope → List Flag
  | none => [.version, .help]
  | some .contexts => [.kubeconfig, .jsonOutput, .debug, .help]
  | some .view => [.context, .kubeconfig, .showSecrets, .jsonOutput, .debug, .help]

/-! ## Help pages -/

def invocation : Scope → String
  | none => programName
  | some command => programName ++ " " ++ command.name

def arguments : Scope → String
  | none => "[OPTIONS] [COMMAND] [ARGS]..."
  | some _ => "[OPTIONS]"

def usageLine (s : Scope) : String := s!"Usage: {invocation s} {arguments s}"

/-- What a scope is for; the first line is its summary. -/
def about : Scope → List String
  | none => ["Kubernetes client configuration resolver"]
  | some .contexts =>
    ["List the contexts defined in the kubeconfig.",
     "",
     "The current context is marked with an asterisk.",
     "",
     "Examples:",
     "    kubecfg contexts                # Contexts from the default kubeconfig",
     "    kubecfg contexts --json-output  # Output in JSON format"]
  | some .view =>
    ["Show the resolved client configuration.",
     "",
     "Credentials are masked unless --show-secrets is given.",
     "",
     "Examples:",
     "    kubecfg view                        # Resolve from the environment",
     "    kubecfg view --context staging      # Select a kubeconfig context",
     "    kubecfg view --kubeconfig ./config  # Read a single kubeconfig file",
     "    kubecfg view --json-output          # Output in JSON format"]

def spaces (n : Nat) : String := String.ofList (List.replicate n ' ')

def indented (line : String) : String := if line = "" then "" else "  " ++ line

/-- Terms with their descriptions in a column of its own. -/
def columns (rows : List (String × List String)) : List String :=
  let width := (rows.map (·.1.length)).foldl max 0
  rows.flatMap fun (term, lines) => (lines.zipIdx).map fun (line, i) =>
    let left := if i = 0 then term else ""
    indented (left ++ spaces (width - left.length) ++ "  " ++ line)

def commandRows : Scope → List String
  | none =>
    let rows := Command.all.map fun c => (c.name, (about (some c)).take 1)
    ["", "Commands:"] ++ columns rows
  | some _ => []

def helpPage (s : Scope) : String :=
  let lines := [usageLine s, ""] ++ (about s).map indented ++ ["", "Options:"] ++
    columns ((flags s).map fun f => (f.usage, f.description)) ++ commandRows s
  String.join (lines.map (· ++ "\n"))

def versionPage : String := s!"{programName}, version {programVersion}\n"

/-! ## Mistakes -/

/-- A mistake in the arguments. -/
inductive Mistake where
  | unknownOption (scope : Scope) (name : String) (near : List String)
  | unknownCommand (name : String) (near : List String)
  | missingValue (option : String)
  | needlessValue (option : String)
  | isDirectory (command : Command) (path : String)
  | extraArguments (command : Command) (args : List String)
  deriving DecidableEq, Repr

/-- The scope whose help page can help. -/
def Mistake.scope? : Mistake → Option Scope
  | .unknownOption scope _ _ => some scope
  | .unknownCommand _ _ => some none
  | .missingValue _ | .needlessValue _ => none
  | .isDirectory command _ | .extraArguments command _ => some (some command)

def suggestion : List String → String
  | [] => ""
  | [word] => s!" Did you mean {Text.quoted word}?"
  | words =>
    let list := ", ".intercalate (words.map Text.quoted)
    s!" (Did you mean one of: {list}?)"

def Mistake.message : Mistake → String
  | .unknownOption _ name near => s!"No such option {Text.quoted name}.{suggestion near}"
  | .unknownCommand name near => s!"No such command {Text.quoted name}.{suggestion near}"
  | .missingValue option => s!"Option {Text.quoted option} requires an argument."
  | .needlessValue option => s!"Option {Text.quoted option} does not take a value."
  | .isDirectory _ path =>
    s!"Invalid value for {Text.quoted Flag.kubeconfig.name}: File {Text.quoted path} is a directory."
  | .extraArguments _ args =>
    let plural := if args.length = 1 then "" else "s"
    let list := " ".intercalate args
    s!"Got unexpected extra argument{plural} ({list})"

/-- The report of a mistake. -/
def Mistake.report (m : Mistake) : String :=
  let hint := match m.scope? with
    | some s => s!"{usageLine s}\nTry '{invocation s} --help' for help.\n\n"
    | none => ""
  hint ++ written s!"Error: {m.message}"

end ClusterAccess.CommandLine
