import EdgeSetup.DomainChange.Run
import EdgeSetup.Json.Writer
import EdgeSetup.Proofs.Session.Alike

/-!
# Scripted clusters

A cluster that answers each attempt by its method, its URL and its number among the attempts at
these, and so answers requests alike that agree on these (`outside_alike`). `compliant` is one that
carries out whatever a domain change asks of it.
-/

namespace EdgeSetup

open Json Http

/-- The answers to the attempts at each method and URL, in order. -/
abbrev Script := Method → String → Nat → Answer

/-- How many attempts there were at each method and URL. -/
abbrev Attempts := Method → String → Nat

namespace Attempts

/-- No attempts so far. -/
def none : Attempts := fun _ _ => 0

/-- One more attempt. -/
def add (attempts : Attempts) (request : Request) : Attempts := fun method url =>
  if method = request.method ∧ url = request.url then attempts method url + 1
  else attempts method url

end Attempts

namespace Script

/-- Answers an attempt. -/
def respond (script : Script) (request : Request) (attempts : Attempts) : Answer × Attempts :=
  (script request.method request.url (attempts request.method request.url), attempts.add request)

/-- The outside of a scripted cluster. -/
def outside (script : Script) (issuer : String → Except SetupError CertificateBundle)
    (policy : RetryPolicy) : Outside Attempts :=
  ⟨script.respond, issuer, policy⟩

/-- A scripted cluster looks at methods and URLs only. -/
theorem outside_alike {same : Request → Request → Prop}
    (hsame : ∀ {sent sent'}, same sent sent' → sent.method = sent'.method ∧ sent.url = sent'.url)
    (script : Script) (issuer : String → Except SetupError CertificateBundle)
    (policy : RetryPolicy) :
    (script.outside issuer policy).Alike same Eq (script.outside issuer policy) where
  policy := rfl
  issuer := rfl
  respond := by
    rintro sent sent' attempts _ hrelated rfl
    obtain ⟨hmethod, hurl⟩ := hsame hrelated
    have hattempts : attempts.add sent = attempts.add sent' := by
      unfold Attempts.add
      rw [hmethod, hurl]
    simp only [outside, respond, hmethod, hurl, hattempts]
    trivial

/-- The script with another answer to all attempts at the method and URL of a request. -/
def override (script : Script) (request : Request) (answer : Answer) : Script :=
  fun method url number =>
    if method = request.method ∧ url = request.url then answer else script method url number

/-! ## A compliant cluster -/

/-- An answer that is there at once. -/
def answer (status : Nat) (body : Value) : Answer := ⟨some 0, .ok ⟨status, [], body.render⟩⟩

/-- A list of the one route of the console. -/
def consoleRouteList (domain : String) : Value :=
  wrap ["items"] <| .array
    [ .object
        [ ("metadata", .object [("name", .string "console"), ("namespace", .string "web")]),
          ("spec", wrap ["host"] (.string ("console." ++ domain))) ] ]

/-- A deployment of one container without variables. -/
def bareDeployment : Value :=
  wrap containersPlace (.array [wrap ["env"] (.array [])])

/-- A cluster of an application domain, at the URL `c`, that carries out whatever is asked. The
secrets that it creates are named by number. -/
def compliant (domain : String) : Script := fun method url number =>
  match method with
  | .get =>
    if url = "c/apis/config.openshift.io/v1/ingresses/cluster" then
      answer 200 (wrap ["spec", "domain"] (.string domain))
    else if url = "c/apis/route.openshift.io/v1/routes?limit=50000" then
      answer 200 (consoleRouteList domain)
    else answer 200 bareDeployment
  | .post => answer 201 (wrap ["metadata", "name"] (.string ("secret-" ++ toString number)))
  | _ => answer 200 .null

theorem compliant_answered (domain : String) (method : Method) (url : String) (number : Nat) :
    (compliant domain method url number).latency ≠ none := by
  unfold compliant
  split
  · split
    · exact nofun
    · split <;> exact nofun
  · exact nofun
  · exact nofun

/-- An issuer of plain key pairs for any host name. -/
def plainIssuer (hostname : String) : Except SetupError CertificateBundle :=
  .ok (.pem ("CERT " ++ hostname) ("KEY " ++ hostname))

end Script

/-- Domain changes of the cluster at the URL `c`. -/
def DomainChange.sample : DomainChange :=
  ⟨⟨"c"⟩, ⟨"setup", "setup-ui", "setup-client", true⟩, "openshift-config"⟩

/-- A compliant cluster moves to another domain, with its one route. -/
theorem DomainChange.sample_migrates :
    ((DomainChange.sample.run "token" ⟨some "new.io", .empty⟩).run
      ((Script.compliant "apps.old.io").outside Script.plainIssuer .standard)
      (.start Attempts.none)).map Prod.fst = some (.ok (.migrated ⟨1, 0⟩)) := by
  decide +kernel

end EdgeSetup
