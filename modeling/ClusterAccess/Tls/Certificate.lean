import ClusterAccess.Tls.Der
import ClusterAccess.Tls.Pem

/-!
# Certificates

An X.509 certificate as a tree of elements: what is certified, the algorithm of the signature, and the
signature. Only this shape is checked; whether a certificate is genuine or still valid does not matter
here. A bundle is a PEM text with at least one certificate and none that is misshapen.
-/
namespace ClusterAccess.Certificate

open Der

def sequenceTag : UInt8 := 0x30

def setTag : UInt8 := 0x31

/-- An integer without needless leading octets. -/
def isInteger (e : Element) : Bool :=
  e.tag == 2 && match e.content with
    | [] => false
    | [_] => true
    | a :: b :: _ => !((a == 0 && b < 128) || (a == 255 && 128 ≤ b))

def isBits (e : Element) : Bool :=
  e.tag == 3 && match e.content with
    | [] => false
    | unused :: rest => unused == 0 || (unused < 8 && !rest.isEmpty)

def isIdentifier (e : Element) : Bool :=
  e.tag == 6 && match e.content.getLast? with
    | none => false
    | some b => b < 128

def isTime (e : Element) : Bool := e.tag == 0x17 || e.tag == 0x18

/-- All parts of an element with the given tag satisfy `p`. -/
def isAllOf (tag : UInt8) (p : Element → Bool) (e : Element) : Bool :=
  match e.parts? tag with
  | some parts => parts.all p
  | none => false

/-- A sequence of parts that satisfy `p` together. -/
def isSequence (p : List Element → Bool) (e : Element) : Bool :=
  match e.parts? sequenceTag with
  | some parts => p parts
  | none => false

def isAlgorithm : Element → Bool := isSequence fun
  | [identifier] => isIdentifier identifier
  | [identifier, _] => isIdentifier identifier
  | _ => false

def isAttribute : Element → Bool := isSequence fun
  | [identifier, _] => isIdentifier identifier
  | _ => false

def isName : Element → Bool := isAllOf sequenceTag (isAllOf setTag isAttribute)

def isValidity : Element → Bool := isSequence fun
  | [start, finish] => isTime start && isTime finish
  | _ => false

def isKey : Element → Bool := isSequence fun
  | [algorithm, key] => isAlgorithm algorithm && isBits key
  | _ => false

def isExtension : Element → Bool := isSequence fun
  | [identifier, value] => isIdentifier identifier && value.tag == 4
  | [identifier, critical, value] =>
    isIdentifier identifier && critical.tag == 1 && critical.content.length == 1 && value.tag == 4
  | _ => false

/-- One element alone in the content of another. -/
def holds (p : Element → Bool) (e : Element) : Bool :=
  match elements e.content with
  | some [inner] => p inner
  | _ => false

/-- Unique identifiers and extensions, all of which may be left out. -/
def areOptions (parts : List Element) : Bool :=
  let rest := parts.dropWhile fun e => e.tag == 0x81
  let rest := rest.dropWhile fun e => e.tag == 0x82
  match rest with
  | [] => true
  | [e] => e.tag == 0xA3 && holds (isAllOf sequenceTag isExtension) e
  | _ => false

/-- What is certified, after the version. -/
def isContent : List Element → Bool
  | serial :: algorithm :: issuer :: validity :: subject :: key :: options =>
    isInteger serial && isAlgorithm algorithm && isName issuer && isValidity validity &&
      isName subject && isKey key && areOptions options
  | _ => false

def isCertified : Element → Bool := isSequence fun
  | [] => false
  | e :: rest => if e.tag == 0xA0 then holds isInteger e && isContent rest else isContent (e :: rest)

def isSigned : Element → Bool := isSequence fun
  | [certified, algorithm, signature] =>
    isCertified certified && isAlgorithm algorithm && isBits signature
  | _ => false

/-- The octets start with a certificate. -/
def isCertificate (octets : List UInt8) : Bool :=
  match element? octets with
  | some (e, _) => isSigned e
  | none => false

def labels : List String := ["CERTIFICATE", "X509 CERTIFICATE"]

/-- The text is a bundle of certificates. -/
def isBundle (s : String) : Bool :=
  match Pem.blocks? s with
  | none => false
  | some blocks =>
    let certificates := blocks.filter (labels.contains ·.label)
    !certificates.isEmpty && certificates.all (isCertificate ·.octets)

end ClusterAccess.Certificate
