import EdgeSetup.Proofs.Cluster.Scripts
import EdgeSetup.Proofs.DomainChange.BestEffort
import EdgeSetup.Proofs.Session.Coupling

/-!
# Isolation of the best-effort steps

What the cluster answers to best-effort requests does not matter: the other requests of a domain
change and its result are the same, except for the counts of routes.

**Main theorem (`run_isolated`)**: two scripted clusters that differ only in their answers to
best-effort requests see the same decisive requests, with the same certificates issued, and the
runs come to the same result.
-/

namespace EdgeSetup

open Json Http

namespace DomainChange

variable {change : DomainChange} {token : String} {request : DomainChangeRequest}
  {events : List Event}

/-- The answer to the request decides how a domain change goes on. -/
def Decisive (change : DomainChange) (sent : Request) : Prop := sent.url ∈ change.decisiveUrls

/-! ## Decisive events -/

theorem decisive_ingressRead : change.Decisive (change.ingressRead token) :=
  mem_decisiveUrls.2 ⟨ingressRef, by simp, ingressRead_url ..⟩

theorem decisive_ingressWrite (operations : List PatchOp) :
    change.Decisive (change.ingressWrite token operations) :=
  mem_decisiveUrls.2 ⟨ingressRef, by simp, ingressWrite_url ..⟩

theorem decisive_apiServerWrite (document : Value) :
    change.Decisive (change.apiServerWrite token document) :=
  mem_decisiveUrls.2 ⟨apiServerRef, by simp, apiServerWrite_url ..⟩

theorem decisive_secretPost (namePrefix : String) (bundle : CertificateBundle) :
    change.Decisive (change.secretPost token namePrefix bundle) :=
  mem_decisiveUrls.2 ⟨change.secretsRef, by simp, secretPost_url ..⟩

theorem Obtains.decides {hostname namePrefix : String} {bundle : CertificateBundle}
    {obtaining : List Event} {outcome : Outcome} (h : Obtains request hostname bundle obtaining) :
    ∀ event ∈ obtaining ++ [.called (change.secretPost token namePrefix bundle) outcome],
      event.Decides change.Decisive := by
  intro event hmem
  rcases List.mem_append.1 hmem with hobtaining | hpost
  · cases h with
    | supplied given => cases hobtaining
    | issued missing =>
      rw [List.mem_singleton.1 hobtaining]
      exact .issued
  · rw [List.mem_singleton.1 hpost]
    exact .called (decisive_secretPost namePrefix bundle)

theorem Stores.decides {target : Target} {result : Except SetupError StoredPair}
    (h : Stores change token request target events result) :
    ∀ event ∈ events, event.Decides change.Decisive := by
  cases h with
  | unissued missing =>
    intro event hmem
    rw [List.mem_singleton.1 hmem]
    exact .issued
  | refused obtained uncreated => exact obtained.decides
  | stored obtained created => exact obtained.decides

theorem StoresAll.decides {waiting : List Target} {result : Except SetupError (List StoredPair)}
    (h : StoresAll change token request waiting events result) :
    ∀ event ∈ events, event.Decides change.Decisive := by
  induction h with
  | nil => exact nofun
  | failed first => exact first.decides
  | stored first rest ih =>
    intro event hmem
    rcases List.mem_append.1 hmem with hmem | hmem
    · exact first.decides event hmem
    · exact ih event hmem

/-! ## Quiet events -/

theorem Rehosts.quiet {new : String} {old : Option String} {counts : RehostCounts}
    (h : Rehosts change token new old events counts) :
    ∀ event ∈ events, event.IsQuiet (BestEffort change token) := by
  intro event hmem
  rcases h.event event hmem with ⟨_, rfl⟩ | ⟨_, rfl, hroutes⟩ | ⟨_, _, rfl⟩
  · exact .called .listRoutes
  · refine .calledAll fun exchange hexchange => ?_
    obtain ⟨inNamespace, name, host, hsent⟩ := hroutes exchange hexchange
    exact hsent ▸ .moveRoute inNamespace name host
  · exact .counted

theorem RefreshesUi.quiet {setupUiHost : String} {result : Except SetupError Unit}
    (h : RefreshesUi change token setupUiHost events result) :
    ∀ event ∈ events, event.IsQuiet (BestEffort change token) := by
  intro event hmem
  obtain ⟨-, sent, outcome, rfl, hrefreshes⟩ := h.refreshes event hmem
  exact .called (.refresh hrefreshes)

/-! ## Coupled runs -/

/-- The outcomes are the same but for the counts of routes. -/
inductive SameOutcome : DomainChangeOutcome → DomainChangeOutcome → Prop where
  | unchanged : SameOutcome .unchanged .unchanged
  | migrated (counts counts' : RehostCounts) : SameOutcome (.migrated counts) (.migrated counts')

variable {σ τ : Type} {outside : Outside σ} {outside' : Outside τ}
  {R : σ → List LogEntry → τ → List LogEntry → Prop}

theorem rehostStep_coupled
    (coupling : Coupling outside outside' change.Decisive (BestEffort change token) R)
    (old : Option String) (new : String) :
    Attempting.Coupled outside outside' R (fun _ _ => True)
      (DomainStep.rehostRoutes.take ⟨0, 0⟩ (change.rehostRoutes token old new))
      (DomainStep.rehostRoutes.take ⟨0, 0⟩ (change.rehostRoutes token old new)) := by
  have hquiet : ∀ {events result}, Attempting.Runs
      (DomainStep.rehostRoutes.take ⟨0, 0⟩ (change.rehostRoutes token old new)) events result →
        (∃ counts, result = .ok counts) ∧
          ∀ event ∈ events, event.IsQuiet (BestEffort change token) := by
    intro events result h
    obtain ⟨counts, rfl, hrehosts⟩ := rehostStep_runs h
    exact ⟨⟨counts, rfl⟩, hrehosts.quiet⟩
  exact Attempting.coupled_of_quiet coupling hquiet hquiet

theorem refreshStep_coupled
    (coupling : Coupling outside outside' change.Decisive (BestEffort change token) R)
    (setupUiHost : String) :
    Attempting.Coupled outside outside' R (fun _ _ => True)
      (DomainStep.refreshSetupUi.take () (change.refreshSetupUi token setupUiHost))
      (DomainStep.refreshSetupUi.take () (change.refreshSetupUi token setupUiHost)) := by
  have hquiet : ∀ {events result}, Attempting.Runs
      (DomainStep.refreshSetupUi.take () (change.refreshSetupUi token setupUiHost)) events result →
        (∃ value, result = .ok value) ∧
          ∀ event ∈ events, event.IsQuiet (BestEffort change token) := by
    intro events result h
    obtain ⟨value, refreshed, rfl, hrefresh, -⟩ := orElseValue_runs h
    exact ⟨⟨value, rfl⟩, (refreshSetupUi_runs hrefresh).quiet⟩
  exact Attempting.coupled_of_quiet coupling hquiet hquiet

theorem migrate_coupled
    (coupling : Coupling outside outside' change.Decisive (BestEffort change token) R)
    (domains : Dns.ClusterDomains) (ingress : IngressConfig) :
    Attempting.Coupled outside outside' R SameOutcome
      (change.migrate token request domains ingress)
      (change.migrate token request domains ingress) := by
  refine Attempting.Coupled.bind (Attempting.coupled_of_decisive coupling ?_) ?_
  · intro events result h
    obtain ⟨stored, hstored, -⟩ := secretFor_runs h
    exact hstored.decides
  rintro apiSecret _ rfl
  refine Attempting.Coupled.bind (Attempting.coupled_of_decisive coupling ?_) ?_
  · intro events result h
    obtain ⟨stored, hstored, -⟩ := secureComponents_runs h
    exact hstored.decides
  rintro routes _ rfl
  -- From here on the two runs have counts of their own, and nothing depends on them.
  refine Attempting.Coupled.bind (rehostStep_coupled coupling _ _) fun counts counts' _ => ?_
  refine Attempting.Coupled.bind (Attempting.coupled_of_decisive coupling ?_) fun _ _ _ => ?_
  · intro events result h event hmem
    obtain ⟨written, rfl, -⟩ := patchIngress_runs h
    rw [List.mem_singleton.1 hmem]
    exact .called (decisive_ingressWrite _)
  refine Attempting.Coupled.bind (Attempting.coupled_of_decisive coupling ?_) fun _ _ _ => ?_
  · intro events result h event hmem
    obtain ⟨pointed, rfl, -⟩ := patchApiServer_runs h
    rw [List.mem_singleton.1 hmem]
    exact .called (decisive_apiServerWrite _)
  exact Attempting.Coupled.bind (refreshStep_coupled coupling _) fun _ _ _ =>
    Attempting.Coupled.pure (.migrated counts counts')

theorem steps_coupled
    (coupling : Coupling outside outside' change.Decisive (BestEffort change token) R) :
    Attempting.Coupled outside outside' R SameOutcome (change.steps token request)
      (change.steps token request) := by
  refine Attempting.Coupled.bind (Attempting.Coupled.ofExcept _) ?_
  rintro domains _ rfl
  refine Attempting.Coupled.bind (Attempting.coupled_of_decisive coupling ?_) ?_
  · intro events result h event hmem
    obtain ⟨outcome, rfl, -⟩ := Client.getPath_runs h
    rw [List.mem_singleton.1 hmem]
    exact .called decisive_ingressRead
  rintro ingress _ rfl
  by_cases hsame : (ClusterDomainState.ofIngress ingress).ingressDomain = some domains.ingress
  · rw [if_pos hsame]
    exact Attempting.Coupled.pure .unchanged
  · rw [if_neg hsame]
    exact migrate_coupled coupling domains ingress

/-- Runs in related worlds come to the same result. -/
theorem run_coupled
    (coupling : Coupling outside outside' change.Decisive (BestEffort change token) R) :
    Session.Coupled outside outside' R (Attempting.Matches SameOutcome)
      (change.run token request) (change.run token request) := by
  refine Session.Coupled.bind (steps_coupled coupling) fun result result' hsame => ?_
  intro world world' hworld
  exact .some ⟨hsame, hworld⟩

/-! ## Scripted clusters -/

/-- The scripts answer everything alike but best-effort requests, and they answer those at some
time. -/
structure DifferInBestEffort (change : DomainChange) (token : String) (script script' : Script) :
    Prop where
  same : ∀ method url,
    (∀ sent, BestEffort change token sent → ¬ (sent.method = method ∧ sent.url = url)) →
      script method url = script' method url
  answered : ∀ sent, BestEffort change token sent → ∀ number,
    (script sent.method sent.url number).latency ≠ none ∧
      (script' sent.method sent.url number).latency ≠ none

/-- A script with another answer to one request differs in that request only. -/
theorem differInBestEffort_override {script : Script} {sent : Request} {answer : Answer}
    (hsent : BestEffort change token sent)
    (hanswered : ∀ method url number, (script method url number).latency ≠ none)
    (hanswer : answer.latency ≠ none) :
    DifferInBestEffort change token script (script.override sent answer) where
  same := by
    intro method url hother
    funext number
    unfold Script.override
    rw [if_neg fun h => hother sent hsent ⟨h.1.symm, h.2.symm⟩]
  answered := by
    intro other _ number
    refine ⟨hanswered _ _ _, ?_⟩
    unfold Script.override
    split
    · exact hanswer
    · exact hanswered _ _ _

/-- An entry of the log without its time, unless it is of a request that decides nothing. -/
def decisiveEntry? (change : DomainChange) : LogEntry → Option (Request ⊕ String)
  | .sent _ request => if request.url ∈ change.decisiveUrls then some (.inl request) else none
  | .issued _ hostname => some (.inr hostname)

/-- The decisive requests and the issuances of a log, in order. -/
def decisiveLog (change : DomainChange) (log : List LogEntry) : List (Request ⊕ String) :=
  log.filterMap change.decisiveEntry?

/-- All other entries of the log are of best-effort requests. -/
def OthersBestEffort (change : DomainChange) (token : String) (log : List LogEntry) : Prop :=
  ∀ entry ∈ log, change.decisiveEntry? entry = none →
    ∃ now sent, entry = .sent now sent ∧ BestEffort change token sent

/-- What two clusters have seen is the same but for best-effort requests. -/
structure AlikeSeen (change : DomainChange) (token : String) (attempts : Attempts)
    (log : List LogEntry) (attempts' : Attempts) (log' : List LogEntry) : Prop where
  sameAttempts : ∀ method, ∀ url ∈ change.decisiveUrls,
    attempts method url = attempts' method url
  sameLog : change.decisiveLog log = change.decisiveLog log'
  others : OthersBestEffort change token log
  others' : OthersBestEffort change token log'

theorem OthersBestEffort.append {log : List LogEntry} {entry : LogEntry}
    (h : OthersBestEffort change token log)
    (hentry : change.decisiveEntry? entry = none →
      ∃ now sent, entry = .sent now sent ∧ BestEffort change token sent) :
    OthersBestEffort change token (log ++ [entry]) := by
  intro other hmem
  rcases List.mem_append.1 hmem with hmem | hmem
  · exact h other hmem
  · rw [List.mem_singleton.1 hmem]
    exact hentry

theorem decisiveLog_append (log : List LogEntry) (entry : LogEntry) :
    change.decisiveLog (log ++ [entry]) =
      change.decisiveLog log ++ (change.decisiveEntry? entry).toList := by
  rw [decisiveLog, List.filterMap_append]
  cases h : change.decisiveEntry? entry <;> simp [h, decisiveLog]

theorem decisiveEntry?_bestEffort {now : Nat} {sent : Request} (h : BestEffort change token sent) :
    change.decisiveEntry? (.sent now sent) = none :=
  if_neg h.url_not_decisive

theorem decisiveEntry?_decisive (now : Nat) {sent : Request} (h : change.Decisive sent) :
    change.decisiveEntry? (.sent now sent) = some (.inl sent) :=
  if_pos h

theorem Attempts.add_of_ne {attempts : Attempts} {sent : Request} {method : Method} {url : String}
    (hne : url ≠ sent.url) : attempts.add sent method url = attempts method url := by
  unfold Attempts.add
  rw [if_neg fun h => hne h.2]

/-- Scripts that differ in best-effort answers keep what decides alike. -/
theorem script_coupling {script script' : Script}
    (h : DifferInBestEffort change token script script')
    (issuer : String → Except SetupError CertificateBundle) (policy : RetryPolicy) :
    Coupling (script.outside issuer policy) (script'.outside issuer policy) change.Decisive
      (BestEffort change token) (AlikeSeen change token) where
  policy := rfl
  issuer := rfl
  issued := by
    intro hostname now now' attempts log attempts' log' hseen
    refine ⟨hseen.sameAttempts, ?_, hseen.others.append fun hnone => ?_,
      hseen.others'.append fun hnone => ?_⟩
    · rw [decisiveLog_append, decisiveLog_append, hseen.sameLog]
      rfl
    · cases hnone
    · cases hnone
  decides := by
    intro sent hsent now now' attempts log attempts' log' hseen
    have hscript : script sent.method sent.url = script' sent.method sent.url := by
      refine h.same _ _ fun other hother heq => ?_
      exact hother.url_not_decisive (heq.2 ▸ hsent)
    have hnumber := hseen.sameAttempts sent.method sent.url hsent
    refine ⟨?_, ?_, ?_, ?_, ?_⟩
    · show script sent.method sent.url _ = script' sent.method sent.url _
      rw [hscript, hnumber]
    · intro method url hurl
      show attempts.add sent method url = attempts'.add sent method url
      unfold Attempts.add
      rw [hseen.sameAttempts method url hurl]
    · rw [decisiveLog_append, decisiveLog_append, hseen.sameLog,
        decisiveEntry?_decisive now hsent, decisiveEntry?_decisive now' hsent]
    · refine hseen.others.append fun hnone => ?_
      cases (decisiveEntry?_decisive now hsent).symm.trans hnone
    · refine hseen.others'.append fun hnone => ?_
      cases (decisiveEntry?_decisive now' hsent).symm.trans hnone
  quietLeft := by
    intro sent hsent now attempts log attempts' log' hseen
    refine ⟨fun method url hurl => ?_, ?_, hseen.others.append fun _ => ⟨now, sent, rfl, hsent⟩,
      hseen.others'⟩
    · rw [← hseen.sameAttempts method url hurl]
      exact Attempts.add_of_ne fun heq => hsent.url_not_decisive (heq ▸ hurl)
    · rw [decisiveLog_append, decisiveEntry?_bestEffort hsent, ← hseen.sameLog]
      exact List.append_nil _
  quietRight := by
    intro sent hsent now attempts log attempts' log' hseen
    refine ⟨fun method url hurl => ?_, ?_, hseen.others,
      hseen.others'.append fun _ => ⟨now, sent, rfl, hsent⟩⟩
    · rw [hseen.sameAttempts method url hurl]
      exact (Attempts.add_of_ne fun heq => hsent.url_not_decisive (heq ▸ hurl)).symm
    · rw [decisiveLog_append, decisiveEntry?_bestEffort hsent, hseen.sameLog]
      exact (List.append_nil _).symm
  answeredLeft := fun hsent attempts => (h.answered _ hsent _).1
  answeredRight := fun hsent attempts => (h.answered _ hsent _).2

/-- Two plays come to the same but for the counts of routes and the best-effort requests. -/
structure Isolated (change : DomainChange) (token : String)
    (play play' : Except SetupError DomainChangeOutcome × World Attempts) : Prop where
  outcome : Attempting.Matches SameOutcome play.1 play'.1
  sameLog : change.decisiveLog play.2.log = change.decisiveLog play'.2.log
  others : OthersBestEffort change token play.2.log
  others' : OthersBestEffort change token play'.2.log

/-- **Isolation of the best-effort steps**: when two clusters differ in their answers to
best-effort requests only, either neither run ends, or both end with the same outcome but for the
counts of routes, and what they sent and issued is the same but for best-effort requests. And the
deployment of the setup UI is updated whatever becomes of the OAuth client. -/
theorem run_isolated {script script' : Script}
    (h : DifferInBestEffort change token script script')
    (issuer : String → Except SetupError CertificateBundle) (policy : RetryPolicy) :
    Option.Rel (Isolated change token)
      ((change.run token request).run (script.outside issuer policy) (.start Attempts.none))
      ((change.run token request).run (script'.outside issuer policy) (.start Attempts.none)) ∧
    ∀ setupUiHost events result, change.setupUi.refresh = true →
      Attempting.Runs (change.refreshSetupUi token setupUiHost) events result →
        ∃ redirect deployment updated, events = redirect ++ deployment ∧
          UpdatesRedirect change token (redirectUri setupUiHost) redirect updated ∧
            UpdatesDeployment change token setupUiHost deployment result := by
  refine ⟨?_, ?_⟩
  · have hstart : AlikeSeen change token Attempts.none [] Attempts.none [] :=
      ⟨fun _ _ _ => rfl, rfl, nofun, nofun⟩
    have hrun := @run_coupled change token request _ _ _ _ _ (script_coupling h issuer policy)
      (.start Attempts.none) (.start Attempts.none) hstart
    generalize (change.run token request).run (script.outside issuer policy) _ = play at *
    generalize (change.run token request).run (script'.outside issuer policy) _ = play' at *
    cases hrun with
    | none => exact .none
    | some hends =>
      exact .some ⟨hends.1, hends.2.sameLog, hends.2.others, hends.2.others'⟩
  · intro setupUiHost events result henabled hruns
    cases refreshSetupUi_runs hruns with
    | off hdisabled => cases henabled.symm.trans hdisabled
    | on _ hredirect hdeployment => exact ⟨_, _, _, rfl, hredirect, hdeployment⟩

/-- A compliant cluster and one that refuses to list the routes. -/
theorem run_isolated_unlisted :
    let script := Script.compliant "apps.old.io"
    let script' := script.override (sample.routeList "token") (Script.answer 403 .null)
    DifferInBestEffort sample "token" script script' ∧
      Option.Rel (Isolated sample "token")
        ((sample.run "token" ⟨some "new.io", .empty⟩).run
          (script.outside Script.plainIssuer .standard) (.start Attempts.none))
        ((sample.run "token" ⟨some "new.io", .empty⟩).run
          (script'.outside Script.plainIssuer .standard) (.start Attempts.none)) := by
  intro script script'
  have hdiffer : DifferInBestEffort sample "token" script script' :=
    differInBestEffort_override .listRoutes (Script.compliant_answered _) nofun
  exact ⟨hdiffer, (run_isolated hdiffer Script.plainIssuer .standard).1⟩

end DomainChange

end EdgeSetup
