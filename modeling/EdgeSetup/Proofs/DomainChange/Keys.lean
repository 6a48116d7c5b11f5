import EdgeSetup.Proofs.Cluster.Tokens
import EdgeSetup.Proofs.DomainChange.Requests
import EdgeSetup.Proofs.DomainChange.Tokens

/-!
# The private keys of a domain change

Two requests may supply the same certificates with other keys (`SameButKeys`). Their domain changes
send the same but for one place of one kind of request: `data`, `tls.key` of the creation of a
secret (`SameButKey`).

The bundle of a supplied pair is made by `certificateFor`, taken by `storeCertificate`, and known to
nothing else. So the two sessions differ where a secret is created (`secretFor_keys`), and what they
learn from it, the name of the secret or an error, is the same. There is one lemma for each session
that takes the request, in the order of the definitions, up to the run as a whole (`run_keys`).

The texts of pairs and bundles do not depend on keys (`TlsCertificate.text_withKey`,
`CertificateBundle.text_withKey`), so they are the same for both requests (`texts_keys`).
-/

namespace EdgeSetup

open Json Http

/-! ## Texts -/

/-- The text of a pair does not depend on its key. -/
theorem TlsCertificate.text_withKey (pair : TlsCertificate) (key : String) :
    { pair with key }.text = pair.text := rfl

/-- The text of a bundle does not depend on its key. -/
theorem CertificateBundle.text_withKey (bundle : CertificateBundle) (key : Secret) :
    { bundle with key }.text = bundle.text := by
  unfold CertificateBundle.text Secret.text
  rfl

/-! ## What differs -/

/-- The value without what is at a place: there, null stands in for it. -/
def Json.Value.blot : List String → Value → Value
  | [], _ => .null
  | key :: place, .object members =>
    .object <| members.map fun member =>
      if member.1 = key then (key, blot place member.2) else member
  | _ :: _, value => value

/-- The requests ask for the same domain and supply pairs of the same certificates for the same
host names. -/
structure DomainChangeRequest.SameButKeys (request request' : DomainChangeRequest) : Prop where
  domain : request.domain = request'.domain
  certs : ∀ hostname, Option.Rel (fun pair pair' => pair.crt = pair'.crt)
    (request.customCerts.get? hostname) (request'.customCerts.get? hostname)

/-- A host name has a pair in both requests, of one certificate, or in none. -/
theorem DomainChangeRequest.SameButKeys.supplied {request request' : DomainChangeRequest}
    (h : request.SameButKeys request') (hostname : String) :
    (request.customCerts.get? hostname = none ∧ request'.customCerts.get? hostname = none) ∨
      ∃ pair pair', request.customCerts.get? hostname = some pair ∧
        request'.customCerts.get? hostname = some pair' ∧ pair.crt = pair'.crt := by
  have hpairs := h.certs hostname
  generalize request.customCerts.get? hostname = given at hpairs
  generalize request'.customCerts.get? hostname = given' at hpairs
  cases hpairs with
  | none => exact .inl ⟨rfl, rfl⟩
  | some hcrt => exact .inr ⟨_, _, rfl, rfl, hcrt⟩

namespace DomainChange

/-- The place of the key in the creation of a secret for a supplied pair. -/
def keyPlace : List String := ["data", "tls.key"]

/-- What is sent is the same, or creates a secret that differs in the supplied key only. -/
inductive SameButKey (change : DomainChange) (request request' : DomainChangeRequest) :
    Request → Request → Prop where
  | same (sent : Request) : SameButKey change request request' sent sent
  | stored {sent : Request} {hostname : String} {pair pair' : TlsCertificate} {body body' : Value}
      (given : request.customCerts.get? hostname = some pair)
      (given' : request'.customCerts.get? hostname = some pair')
      (method : sent.method = .post)
      (url : sent.url = change.client.url change.secretsRef.path)
      (key : body.at? keyPlace = some (.string pair.key))
      (key' : body'.at? keyPlace = some (.string pair'.key))
      (rest : body.blot keyPlace = body'.blot keyPlace) :
      SameButKey change request request' { sent with body := some body }
        { sent with body := some body' }

variable {change : DomainChange} {token : String} {request request' : DomainChangeRequest}

theorem SameButKey.method {sent sent' : Request}
    (h : SameButKey change request request' sent sent') : sent.method = sent'.method := by
  cases h <;> rfl

theorem SameButKey.url {sent sent' : Request}
    (h : SameButKey change request request' sent sent') : sent.url = sent'.url := by
  cases h <;> rfl

/-! ## The secret of a supplied pair -/

theorem tlsSecret_at_keyPlace (pair : TlsCertificate) (inNamespace namePrefix : String) :
    ((CertificateBundle.ofCustom pair).tlsSecret inNamespace namePrefix).at? keyPlace =
      some (.string pair.key) := rfl

theorem tlsSecret_blot {pair pair' : TlsCertificate} (h : pair.crt = pair'.crt)
    (inNamespace namePrefix : String) :
    ((CertificateBundle.ofCustom pair).tlsSecret inNamespace namePrefix).blot keyPlace =
      ((CertificateBundle.ofCustom pair').tlsSecret inNamespace namePrefix).blot keyPlace := by
  simp [CertificateBundle.tlsSecret, CertificateBundle.ofCustom, CertificateBundle.secretMember,
    keyPlace, Value.blot, h]

theorem secretPost_sameButKey {hostname : String} {pair pair' : TlsCertificate}
    (given : request.customCerts.get? hostname = some pair)
    (given' : request'.customCerts.get? hostname = some pair') (hcrt : pair.crt = pair'.crt)
    (namePrefix : String) :
    SameButKey change request request' (change.secretPost token namePrefix (.ofCustom pair))
      (change.secretPost token namePrefix (.ofCustom pair')) :=
  .stored given given' (change.secretPost_method token namePrefix (.ofCustom pair))
    (change.secretPost_url token namePrefix (.ofCustom pair)) (tlsSecret_at_keyPlace pair _ _)
    (tlsSecret_at_keyPlace pair' _ _) (tlsSecret_blot hcrt _ _)

/-! ## The steps that take the request -/

theorem certificateFor_of_given {hostname : String} {pair : TlsCertificate}
    (given : request.customCerts.get? hostname = some pair) :
    certificateFor request hostname = pure (.ofCustom pair) := by
  rw [certificateFor, given]

variable (h : request.SameButKeys request')
include h

theorem secretFor_keys (hostname namePrefix : String) :
    Attempting.Alike (SameButKey change request request')
      (change.secretFor token request hostname namePrefix)
      (change.secretFor token request' hostname namePrefix) := by
  rcases h.supplied hostname with ⟨given, given'⟩ | ⟨pair, pair', given, given', hcrt⟩
  · -- Both ask the issuer, and store what it gives.
    have hsame : certificateFor request hostname = certificateFor request' hostname := by
      rw [certificateFor, certificateFor, given, given']
    rw [secretFor, secretFor, hsame]
    exact .refl .same _
  · -- The bundles differ, and are spent on the creation of the secret.
    rw [secretFor, secretFor, certificateFor_of_given given, certificateFor_of_given given',
      pure_bind, pure_bind]
    exact storeCertificate_of_same change.client
      (secretPost_sameButKey given given' hcrt namePrefix)

theorem secureComponents_keys (components : List Component) (routes : List ComponentRoute) :
    Attempting.Alike (SameButKey change request request')
      (change.secureComponents token request components routes)
      (change.secureComponents token request' components routes) := by
  induction components generalizing routes with
  | nil => exact .pure routes
  | cons component rest ih => exact .bind (secretFor_keys h _ _) fun secret => ih _

/-- The steps after the certificates take nothing of the request. -/
theorem migrate_keys (domains : Dns.ClusterDomains) (ingress : IngressConfig) :
    Attempting.Alike (SameButKey change request request')
      (change.migrate token request domains ingress)
      (change.migrate token request' domains ingress) :=
  .bind (take_alike _ _ (secretFor_keys h _ _)) fun _ =>
  .bind (take_alike _ _ (secureComponents_keys h _ _)) fun _ => .refl .same _

theorem steps_keys :
    Attempting.Alike (SameButKey change request request') (change.steps token request)
      (change.steps token request') := by
  have hdomains : requestedDomains request = requestedDomains request' := by
    rw [requestedDomains, requestedDomains, h.domain]
  rw [steps, steps, hdomains]
  refine .bind (.ofExcept _) fun domains => .bind (.refl .same _) fun ingress => ?_
  split
  · exact .pure _
  · exact migrate_keys h _ _

/-- A domain change is the same under other keys but for the keys of the secrets it creates. -/
theorem run_keys :
    Session.Alike (SameButKey change request request') (change.run token request)
      (change.run token request') :=
  Session.Alike.bind (steps_keys h) fun result => .count (.done result)

/-! ## The texts of supplied pairs -/

/-- The texts of a supplied pair and of its bundle are the same under other keys. -/
theorem texts_keys (hostname : String) :
    Option.Rel (fun pair pair' => pair.text = pair'.text ∧
        (CertificateBundle.ofCustom pair).text = (CertificateBundle.ofCustom pair').text)
      (request.customCerts.get? hostname) (request'.customCerts.get? hostname) := by
  rcases h.supplied hostname with ⟨given, given'⟩ | ⟨pair, pair', given, given', hcrt⟩
  · rw [given, given']
    exact .none
  · have hpair : pair = { pair' with key := pair.key } := by
      rw [← hcrt]
    have hbundle : CertificateBundle.ofCustom pair =
        { CertificateBundle.ofCustom pair' with key := ⟨pair.key⟩ } := by
      rw [CertificateBundle.ofCustom, CertificateBundle.ofCustom, hcrt]
    rw [given, given']
    refine .some ⟨?_, ?_⟩
    · rw [hpair, TlsCertificate.text_withKey]
    · rw [hbundle, CertificateBundle.text_withKey]

end DomainChange

end EdgeSetup
