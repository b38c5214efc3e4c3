import ClusterAccess.CommandLine.Usage
import ClusterAccess.Path
import ClusterAccess.Text.Similar

/-!
# Reading arguments

An argument that starts with a dash is an option, up to an argument `--`. An option's value is the next
argument, whatever it looks like, or follows after `=`. Options of the program end with the command's
name; options of a command may stand between other arguments. Asking for help or for the version comes
before everything else, and of a repeated option the last value counts.
-/
namespace ClusterAccess.CommandLine

/-- Options as given, with their values, and the arguments that are no options. -/
structure Reading where
  given : List (Flag × String)
  others : List String

def Reading.add (f : Flag) (value : String) (r : Reading) : Reading := { r with given := (f, value) :: r.given }

def Reading.addOther (arg : String) (r : Reading) : Reading := { r with others := arg :: r.others }

/-- The name in an argument, and the value after its first `=`. -/
def splitValue (arg : String) : String × Option String :=
  match arg.toList.dropWhile (· != '=') with
  | [] => (arg, none)
  | _ :: value => (Text.before '=' arg, some (String.ofList value))

def flagOf? (s : Scope) (name : String) : Option Flag := (flags s).find? (·.name == name)

/-- The mistake of an argument that names no option. After a single dash every letter is an option. -/
def unknown (s : Scope) (arg : String) : Mistake :=
  if Text.startsWith "--" arg then
    let name := (splitValue arg).1
    .unknownOption s name (Text.nearWords ((flags s).map Flag.name) name)
  else .unknownOption s (String.ofList (arg.toList.take 2)) []

def isOption (arg : String) : Bool := Text.startsWith "-" arg && arg ≠ "-"

/-- The options among the arguments. For the program itself the first other argument ends them. -/
def read (s : Scope) : List String → Except Mistake Reading
  | [] => .ok ⟨[], []⟩
  | arg :: rest =>
    if arg = "--" then .ok ⟨[], rest⟩
    else if !isOption arg then
      if s.isNone then .ok ⟨[], arg :: rest⟩ else (read s rest).map (.addOther arg)
    else
      let (name, value?) := splitValue arg
      match flagOf? s name with
      | none => .error (unknown s arg)
      | some f =>
        match f.valueName?, value? with
        | none, none => (read s rest).map (.add f "")
        | none, some _ => .error (.needlessValue name)
        | some _, some value => (read s rest).map (.add f value)
        | some _, none =>
          match rest with
          | value :: rest => (read s rest).map (.add f value)
          | [] => .error (.missingValue name)
termination_by args => args.length

/-- What a command is to do. -/
structure Settings where
  context : Option String
  kubeconfig : Option String
  showSecrets : Bool
  jsonOutput : Bool
  debug : Bool
  deriving DecidableEq, Repr

/-- What the arguments ask for. -/
inductive Request where
  | help (s : Scope)
  | version
  | run (command : Command) (settings : Settings)
  deriving DecidableEq, Repr

def Reading.has (r : Reading) (f : Flag) : Bool := r.given.any (·.1 == f)

/-- The last value of an option. -/
def Reading.value? (r : Reading) (f : Flag) : Option String :=
  (r.given.reverse.find? (·.1 == f)).map (·.2)

/-- Help and version, whichever is asked for first. -/
def Reading.page? (r : Reading) (s : Scope) : Option Request :=
  r.given.findSome? fun
    | (.help, _) => some (.help s)
    | (.version, _) => some .version
    | _ => none

def Reading.settings (r : Reading) : Settings :=
  ⟨r.value? .context, r.value? .kubeconfig, r.has .showSecrets, r.has .jsonOutput, r.has .debug⟩

/-- The arguments of a command. -/
def commandRequest (isDirectory : String → Bool) (command : Command) (args : List String) :
    Except Mistake Request := do
  let r ← read (some command) args
  match r.page? (some command) with
  | some page => return page
  | none =>
    let settings := r.settings
    match settings.kubeconfig.filter isDirectory with
    | some path => throw (.isDirectory command path)
    | none =>
      if r.others.isEmpty then return .run command settings
      else throw (.extraArguments command r.others)

/-- All arguments. Without a command they ask for help. -/
def request (isDirectory : String → Bool) (args : List String) : Except Mistake Request := do
  let r ← read none args
  match r.page? none, r.others with
  | some page, _ => return page
  | none, [] => return .help none
  | none, name :: args =>
    match Command.all.find? (·.name == name) with
    | some command => commandRequest isDirectory command args
    | none => throw (.unknownCommand name (Text.nearWords (Command.all.map Command.name) name))

end ClusterAccess.CommandLine
