import ClusterAccess.ClientKey
import ClusterAccess.Config.Basic
import ClusterAccess.MasterUrl
import ClusterAccess.Options.Probe

/-!
# The normal form of a configuration

The last step of every way to make a configuration. The master URL gets a scheme, `https` when TLS can be
set up for the configuration, and ends with one slash. The client key's algorithm is the one that an
option asks for, or else the one that the key shows.
-/
namespace ClusterAccess

/-- Whether TLS can be set up for a configuration. -/
abbrev TlsCheck := Config → Traced Bool

namespace Config

/-- The master URL in normal form. The check is made only when the scheme is open. -/
def normalUrl (c : Config) (https : TlsCheck) : Traced String :=
  if MasterUrl.hasScheme c.masterUrl then pure (MasterUrl.ensureTrailingSlash c.masterUrl)
  else do
    let available ← https c
    return MasterUrl.ensureTrailingSlash (MasterUrl.ensureScheme c.masterUrl available)

/-- The algorithm that an option asks for, if options count at all. -/
def forcedAlgorithm (probe? : Option Probe) : Except Error (Option KeyAlgorithm) :=
  match probe? with
  | some p => p.keyAlgorithm?
  | none => .ok none

/-- The client key's algorithm, by option if a probe is given, else by the key. -/
def keyAlgorithm (c : Config) (fs : FileSystem) (probe? : Option Probe) : Traced (Option KeyAlgorithm) := do
  match ← Traced.ofExcept (forcedAlgorithm probe?) with
  | some a => return some a
  | none => ClientKey.algorithm fs c.clientKeyFile c.clientKeyData

def normalize (c : Config) (https : TlsCheck) (fs : FileSystem) (probe? : Option Probe) :
    Traced Config := do
  if c.masterUrl = "" then .fail .noMasterUrl
  else
    let url ← c.normalUrl https
    let algorithm ← c.keyAlgorithm fs probe?
    return (c.set .masterUrl url).set .clientKeyAlgorithm algorithm

end Config

end ClusterAccess
