import EdgeSetup.Cluster.Metadata
import EdgeSetup.Json.Map
import EdgeSetup.Secret
import EdgeSetup.Text.Quoted

/-!
# Certificates

Key pairs on their way into the cluster: pairs supplied by the operator, pairs from an issuer, and
the TLS secret that carries either. The text of a pair never shows the key.
-/

namespace EdgeSetup

open Json

/-- A key pair supplied by the operator: both parts are base64 of PEM. -/
structure TlsCertificate where
  crt : String
  key : String
  deriving DecidableEq, Repr, Inhabited

namespace TlsCertificate

instance : Decode TlsCertificate where
  decode? source := do
    let record ← Record.ofSource? [["tls.crt"], ["tls.key"]] source
    some ⟨← record.required? 0, ← record.required? 1⟩

instance : Encode TlsCertificate where
  encode pair := .object [("tls.crt", encode pair.crt), ("tls.key", encode pair.key)]

/-- The text of a pair for a log: the size of the certificate and nothing of the key. -/
def text (pair : TlsCertificate) : String :=
  "TlsCertificate \x7b crt_len: " ++ toString pair.crt.utf8ByteSize ++ ", key: " ++
    Text.quoted redacted ++ " \x7d"

end TlsCertificate

/-- The form in which a bundle holds its pair. -/
inductive PemEncoding where
  | plain
  | base64
  deriving DecidableEq, Repr

/-- The written name of an encoding. -/
def PemEncoding.name : PemEncoding → String
  | plain => "Plain"
  | base64 => "Base64"

/-- A key pair to be stored once. -/
structure CertificateBundle where
  cert : String
  key : Secret
  encoding : PemEncoding
  deriving DecidableEq

namespace CertificateBundle

/-- A bundle of plain PEM texts. -/
def pem (cert key : String) : CertificateBundle := ⟨cert, ⟨key⟩, .plain⟩

/-- The bundle of a pair supplied by the operator. -/
def ofCustom (pair : TlsCertificate) : CertificateBundle := ⟨pair.crt, ⟨pair.key⟩, .base64⟩

/-- The text of a bundle for a log. -/
def text (bundle : CertificateBundle) : String :=
  "CertificateBundle \x7b cert_pem: " ++ Text.quoted bundle.cert ++ ", key_pem: " ++
    bundle.key.text ++ ", encoding: " ++ bundle.encoding.name ++ " \x7d"

/-- The member of a TLS secret that holds pairs of an encoding. -/
def secretMember : PemEncoding → String
  | .plain => "stringData"
  | .base64 => "data"

/-- The TLS secret that stores a bundle. The cluster completes its name. -/
def tlsSecret (bundle : CertificateBundle) (inNamespace namePrefix : String) : Value :=
  .object
    [ ("apiVersion", .string "v1"),
      ("kind", .string "Secret"),
      ("metadata", encode (⟨none, some inNamespace, some namePrefix⟩ : ObjectMeta)),
      ("type", .string "kubernetes.io/tls"),
      (secretMember bundle.encoding,
        .object [("tls.crt", .string bundle.cert), ("tls.key", .string bundle.key.expose)]) ]

end CertificateBundle

end EdgeSetup
