import Goodput.FileTree
import Goodput.Tls.Pem
/-!
# TLS material

A server needs a certificate chain and the key of its first certificate, a client the certificates that
it trusts; both come from PEM files. Certificates are read before the key, and files before either.

Of the binary encoding inside only the outermost shape is looked at: one sequence that fills the whole.
-/

namespace Goodput.Tls

/-- Why TLS material cannot be used. -/
inductive TlsError where
  | read (path : String) (cause : FileError)
  | pem
  | noCertificates
  | noPrivateKey
  /-- The files are in order, but what they hold is not. -/
  | rejected
deriving Repr, DecidableEq, Inhabited

/-- The wording of an error. The causes of the last kinds are not kept, so they have none. -/
def TlsError.message? : TlsError → Option String
  | .read path cause => some s!"failed to read {path}: {cause.message}"
  | .noCertificates => some "no certificates found"
  | .noPrivateKey => some "no private key found"
  | .pem | .rejected => none

/-- The number that bytes spell, most significant first. -/
def bigEndian (bs : List UInt8) : Nat := bs.foldl (fun acc b => acc * 256 + b.toNat) 0

/-- The bytes are one sequence whose length fits. -/
def isSequence : List UInt8 → Bool
  | 0x30 :: n :: rest =>
    if n.toNat < 128 then rest.length == n.toNat
    else
      let k := n.toNat - 128
      decide (0 < k) && decide (k ≤ 4) && decide (k ≤ rest.length)
        && (rest.length - k == bigEndian (rest.take k))
  | _ => false

/-- What a server shows and proves its identity with. -/
structure ServerMaterial where
  chain : List (List UInt8)
  key : List UInt8
  /-- The application protocols offered during the handshake. -/
  alpn : List (List UInt8)
deriving Repr, DecidableEq, Inhabited

/-- What a client trusts. -/
structure ClientMaterial where
  roots : List (List UInt8)
  alpn : List (List UInt8)
deriving Repr, DecidableEq, Inhabited

/-- At least one certificate. -/
def chainOf (pem : ByteText) : Except TlsError (List (List UInt8)) :=
  match Pem.certificates? pem with
  | none => .error .pem
  | some [] => .error .noCertificates
  | some certs => .ok certs

def keyOf (pem : ByteText) : Except TlsError (List UInt8) :=
  match Pem.privateKey? pem with
  | none => .error .pem
  | some none => .error .noPrivateKey
  | some (some der) => .ok der

/-- The material of a server from the contents of its two files. -/
def ServerMaterial.ofPem (certPem keyPem : ByteText) (alpn : List (List UInt8)) :
    Except TlsError ServerMaterial := do
  let certs ← chainOf certPem
  let der ← keyOf keyPem
  if (certs.take 1).all isSequence && isSequence der then pure ⟨certs, der, alpn⟩ else throw .rejected

/-- The only application protocol that a client offers. -/
def clientAlpn : List (List UInt8) := [Utf8.encode "h2"]

/-- The material of a client from the content of its file. -/
def ClientMaterial.ofPem (pem : ByteText) : Except TlsError ClientMaterial := do
  let certs ← chainOf pem
  if certs.all isSequence then pure ⟨certs, clientAlpn⟩ else throw .rejected

/-- Read a file, naming its path if that fails. -/
def readFile (files : FileTree) (path : String) : Except TlsError ByteText :=
  match files.read path with
  | .ok content => .ok content
  | .error e => .error (.read path e)

/-- Load the material of a server: both files are read before either is looked at. -/
def ServerMaterial.load (files : FileTree) (cert key : String) (alpn : List (List UInt8)) :
    Except TlsError ServerMaterial := do
  let certPem ← readFile files cert
  let keyPem ← readFile files key
  ofPem certPem keyPem alpn

def ClientMaterial.load (files : FileTree) (ca : String) : Except TlsError ClientMaterial := do
  let pem ← readFile files ca
  ofPem pem

end Goodput.Tls
