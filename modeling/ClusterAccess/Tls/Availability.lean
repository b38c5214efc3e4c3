import ClusterAccess.ClientKey
import ClusterAccess.NormalForm
import ClusterAccess.Tls.Certificate

/-!
# Whether TLS can be set up

TLS is available when every certificate is trusted anyway, or when the CA bundle that a configuration names
can be used, inline before a file, and so can its client certificate and key if both are in files. Trouble
is logged, and the connection falls back to plain HTTP.
-/
namespace ClusterAccess.Tls

/-- What there is to set up TLS with. -/
structure Library where
  fs : FileSystem
  /-- Whether a client certificate can be used with its key, both in files, and the key's pass phrase. -/
  loadsPair : (certificate key passphrase : String) → Bool

/-- With these files, and no certificate that fits a key. -/
instance : Coe FileSystem Library := ⟨fun fs => ⟨fs, fun _ _ _ => false⟩⟩

/-- An inline bundle, which must be ASCII. -/
def checkData (data : String) : Except Error Bool :=
  let text := ClientKey.decodeData data
  if text.toList.all (·.toNat < 128) then .ok (Certificate.isBundle text)
  else .error .nonAsciiCertificate

def checkFile (fs : FileSystem) (path : String) : Bool :=
  match fs.readText path with
  | .ok text => Certificate.isBundle text
  | .error _ => false

/-- The CA bundle of a configuration can be used; none is as good. -/
def checkBundle (fs : FileSystem) (c : Config) : Except Error Bool :=
  match filled c.caCertData, filled c.caCertFile with
  | some data, _ => checkData data
  | none, some path => .ok (checkFile fs path)
  | none, none => .ok true

/-- The client certificate of a configuration can be used; none is as good, and so is one without a key. -/
def checkPair (l : Library) (c : Config) : Bool :=
  match filled c.clientCertFile, filled c.clientKeyFile with
  | some certificate, some key => l.loadsPair certificate key (c.value .clientKeyPassphrase)
  | _, _ => true

/-- The check with the means of a library. -/
def available (l : Library) : TlsCheck := fun c => do
  if c.trustCerts then return true
  let usable ← Traced.ofExcept (checkBundle l.fs c)
  if usable && checkPair l c then return true
  .warn .tls "SSL setup failed, falling back to an insecure connection"
  return false

end ClusterAccess.Tls
