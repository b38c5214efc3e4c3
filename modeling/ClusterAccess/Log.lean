/-!
# Log records

What a run has to say besides its result. A record has a level and the channel of the activity that
wrote it.
-/
namespace ClusterAccess.Log

inductive Level where
  | debug
  | warning
  | error
  deriving DecidableEq, Repr

inductive Channel where
  | parsing
  | options
  | discovery
  | merge
  | normalForm
  | serviceAccount
  | resolution
  | tls
  | builder
  deriving DecidableEq, Repr

structure Record where
  level : Level
  channel : Channel
  message : String
  deriving DecidableEq, Repr

def Level.name : Level → String
  | .debug => "DEBUG"
  | .warning => "WARNING"
  | .error => "ERROR"

def Channel.name : Channel → String
  | .parsing => "kubeconfig.parser"
  | .options => "config.env"
  | .discovery => "config.locator"
  | .merge => "config.merge"
  | .normalForm => "config.normalize"
  | .serviceAccount => "config.service_account"
  | .resolution => "config.resolver"
  | .tls => "config.tls"
  | .builder => "config.builder"

/-- A record as one line; `owner` comes before the channel. -/
def Record.line (owner : String) (r : Record) : String :=
  s!"{r.level.name}:{owner}{r.channel.name}:{r.message}"

end ClusterAccess.Log
