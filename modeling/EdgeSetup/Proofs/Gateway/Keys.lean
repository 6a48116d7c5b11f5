import EdgeSetup.Proofs.Cluster.Scripts
import EdgeSetup.Proofs.DomainChange.Keys
import EdgeSetup.Proofs.Gateway.Routes

/-!
# Where private keys go

A domain change knows the keys of the supplied pairs from the body of a request
(`Gateway.Brings.serve`). It lets them out at one place only.

**Main theorem (`run_confinesKeys`).** Take two requests for a domain change that differ in the keys
of the supplied pairs only. Whatever the one run meets the other can meet too, with the same
requests but for the keys in new secrets, and it ends with the same result. In worlds that answer
alike both runs do the same at the same times, and the callers get the same response. The texts of
the supplied pairs and of their bundles are the same.
-/

namespace EdgeSetup

open Json Http

variable {token : String} {request request' : DomainChangeRequest}

namespace Gateway

/-- The incoming request is a post with the token that brings a request for a domain change. -/
structure Brings (incoming : Incoming) (token : String) (request : DomainChangeRequest) :
    Prop where
  method : incoming.method = .post
  path : incoming.path = "/changeDomain"
  shown : extractToken? incoming.headers = some token
  length : incoming.body.utf8ByteSize ≤ bodyLimit
  body : decodeText? DomainChangeRequest incoming.body = some request

theorem Brings.serve {incoming : Incoming} (h : Brings incoming token request) (gateway : Gateway)
    (timestamp : String) (health : Health) :
    (gateway.serve timestamp incoming).run health =
      (gateway.domainChange.run token request).bind fun result =>
        .done (gateway.allowing (ofDomainChange result), health) := by
  have hchange : gateway.changeDomain token incoming =
      (gateway.domainChange.run token request).bind fun result =>
        .done (ofDomainChange result) := by
    rw [changeDomain, withBody, if_neg (Nat.not_lt.2 h.length), h.body]
    rfl
  have hendpoint : Endpoint.ofPath? incoming.path = some .changeDomain := by
    rw [h.path]
    rfl
  have hserve : (gateway.serve timestamp incoming).run health =
      (gateway.changeDomain token incoming).bind fun response =>
        .done (gateway.allowing response, health) :=
    serve_post h.method hendpoint rfl h.shown rfl
  rw [hserve, hchange, Session.bind_assoc]
  rfl

end Gateway

namespace DomainChange

/-- What it means that the keys of the supplied pairs go into new secrets and nowhere else. -/
structure ConfinesKeys (change : DomainChange) (token : String)
    (request request' : DomainChangeRequest) : Prop where
  /-- Whatever the one run can meet the other can meet too, up to the keys in new secrets, and the
  result is the same. -/
  histories : ∀ events result, (change.run token request).Runs events result →
    ∃ events', List.Forall₂ (Event.Alike (SameButKey change request request')) events events' ∧
      (change.run token request').Runs events' result
  /-- When the cluster answers alike, the same is done at the same times, up to the keys in new
  secrets, and the result is the same. -/
  plays : ∀ {σ τ : Type} {R : σ → τ → Prop} {outside : Outside σ} {outside' : Outside τ},
    outside.Alike (SameButKey change request request') R outside' →
    ∀ {world : World σ} {world' : World τ},
      World.Alike (SameButKey change request request') R world world' →
      Option.Rel (fun p q => p.1 = q.1 ∧
          World.Alike (SameButKey change request request') R p.2 q.2)
        ((change.run token request).run outside world)
        ((change.run token request').run outside' world')
  /-- The callers get the same response. -/
  served : ∀ {gateway : Gateway} (timestamp : String) (health : Health)
    {incoming incoming' : Incoming}, gateway.domainChange = change →
    Gateway.Brings incoming token request → Gateway.Brings incoming' token request' →
    ∀ {σ τ : Type} {R : σ → τ → Prop} {outside : Outside σ} {outside' : Outside τ},
      outside.Alike (SameButKey change request request') R outside' →
      ∀ {world : World σ} {world' : World τ},
        World.Alike (SameButKey change request request') R world world' →
        Option.Rel (fun p q => p.1 = q.1 ∧
            World.Alike (SameButKey change request request') R p.2 q.2)
          (((gateway.serve timestamp incoming).run health).run outside world)
          (((gateway.serve timestamp incoming').run health).run outside' world')
  /-- The texts of the supplied pairs and of their bundles are the same. -/
  texts : ∀ hostname, Option.Rel (fun pair pair' => pair.text = pair'.text ∧
      (CertificateBundle.ofCustom pair).text = (CertificateBundle.ofCustom pair').text)
    (request.customCerts.get? hostname) (request'.customCerts.get? hostname)

/-- **Private keys flow only into new secrets.** -/
theorem run_confinesKeys (change : DomainChange) (token : String)
    (h : request.SameButKeys request') : change.ConfinesKeys token request request' where
  histories _ _ hruns := (run_keys h).runs hruns
  plays houtside _ _ hworld := (run_keys h).run houtside (fun hsame => hsame.method) hworld
  served := by
    rintro gateway timestamp health incoming incoming' rfl hbrings hbrings' σ τ R outside outside'
      houtside world world' hworld
    have hrun : Session.Alike (SameButKey gateway.domainChange request request')
        (gateway.domainChange.run token request) (gateway.domainChange.run token request') :=
      run_keys h
    rw [hbrings.serve, hbrings'.serve]
    exact (hrun.bind fun _ => .done _).run houtside (fun hsame => hsame.method) hworld
  texts := texts_keys h

/-- A request for a new domain with a key of the operator's for the API. -/
def suppliedKey (key : String) : DomainChangeRequest :=
  ⟨some "new.io", .ofList [("api.new.io", ⟨"Q0VSVA==", key⟩)]⟩

theorem suppliedKey_sameButKeys (key key' : String) :
    (suppliedKey key).SameButKeys (suppliedKey key') where
  domain := rfl
  certs hostname := by
    show Option.Rel _ (Members.get? (Members.insert "api.new.io" _ []) hostname)
      (Members.get? (Members.insert "api.new.io" _ []) hostname)
    by_cases hhost : hostname = "api.new.io"
    · rw [hhost, Members.get?_insert_self, Members.get?_insert_self]
      exact .some rfl
    · rw [Members.get?_insert_of_ne hhost, Members.get?_insert_of_ne hhost]
      exact .none

/-- The keys that a log shows in new secrets. -/
def storedKeys (log : List LogEntry) : List String :=
  log.filterMap fun entry =>
    match entry with
    | .sent _ request => (request.body.bind (·.at? keyPlace)).bind Value.string?
    | .issued _ _ => none

/-- The post of a request for a domain change. -/
def keyPost (key : String) : Incoming :=
  ⟨.post, "/changeDomain", [("authorization", "Bearer token")], (encode (suppliedKey key)).render⟩

/-- Two keys for the API of a compliant cluster: each is stored, and nothing else differs. -/
theorem run_confinesKeys_compliant :
    let gateway : Gateway := ⟨none, .sample, ⟨⟨"c"⟩, ⟨"secret"⟩, ""⟩⟩
    let outside := (Script.compliant "apps.old.io").outside Script.plainIssuer .standard
    let play := fun key => ((gateway.serve "now" (keyPost key)).run .initial).run outside
      (.start Attempts.none)
    DomainChange.sample.ConfinesKeys "token" (suppliedKey "QQ==") (suppliedKey "Qg==") ∧
      ∃ response after after', response.status = 200 ∧
        play "QQ==" = some ((response, .initial), after) ∧
        play "Qg==" = some ((response, .initial), after') ∧
        World.Alike (SameButKey .sample (suppliedKey "QQ==") (suppliedKey "Qg==")) Eq after
          after' ∧
        storedKeys after.log = ["QQ=="] ∧ storedKeys after'.log = ["Qg=="] := by
  intro gateway outside play
  have hconfines := DomainChange.sample.run_confinesKeys "token"
    (suppliedKey_sameButKeys "QQ==" "Qg==")
  refine ⟨hconfines, ?_⟩
  have hbrings : ∀ key ∈ ["QQ==", "Qg=="], Gateway.Brings (keyPost key) "token"
      (suppliedKey key) := by
    intro key hkey
    rcases List.mem_pair.1 hkey with rfl | rfl
    · exact ⟨rfl, by decide +kernel, by decide +kernel, by decide +kernel, by decide +kernel⟩
    · exact ⟨rfl, by decide +kernel, by decide +kernel, by decide +kernel, by decide +kernel⟩
  have hplay : (play "QQ==").map (fun served => (served.1.1.status, served.1.2,
      storedKeys served.2.log)) = some (200, .initial, ["QQ=="]) := by decide +kernel
  have hplay' : (play "Qg==").map (fun served => storedKeys served.2.log) =
      some ["Qg=="] := by decide +kernel
  have houtside : outside.Alike
      (SameButKey .sample (suppliedKey "QQ==") (suppliedKey "Qg==")) Eq outside :=
    Script.outside_alike (fun hsame => ⟨hsame.method, hsame.url⟩) _ _ _
  have halike := hconfines.served "now" .initial (rfl : gateway.domainChange = .sample)
    (hbrings _ (by decide)) (hbrings _ (by decide)) houtside (.start (rfl : Attempts.none = _))
  obtain ⟨⟨⟨response, health⟩, after⟩, hrun, hends⟩ := Option.map_eq_some_iff.1 hplay
  obtain ⟨⟨⟨response', health'⟩, after'⟩, hrun', hends'⟩ := Option.map_eq_some_iff.1 hplay'
  obtain ⟨hstatus, rfl, hkeys⟩ : response.status = 200 ∧ health = .initial ∧
      storedKeys after.log = ["QQ=="] := by simpa using hends
  simp only [play] at hrun hrun'
  rw [hrun, hrun'] at halike
  cases halike with
  | some hsame =>
    obtain ⟨hvalue, hafter⟩ := hsame
    cases hvalue
    exact ⟨response, after, after', hstatus, hrun, hrun', hafter, hkeys, hends'⟩

end DomainChange

end EdgeSetup
