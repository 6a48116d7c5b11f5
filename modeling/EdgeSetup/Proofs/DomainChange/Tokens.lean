import EdgeSetup.DomainChange.Run
import EdgeSetup.Proofs.Cluster.Tokens

/-!
# The token of a domain change

Nothing in a domain change depends on the token that it acts with but the token of its requests:
under two tokens the sessions are alike (`DomainChange.run_alike`). There is one lemma for each
session that takes the token, in the order of the definitions.
-/

namespace EdgeSetup

open Json Http Http.Request

variable {token token' : String}

/-- Storing bundles is alike when the creations of their secrets are. -/
theorem storeCertificate_of_same {same : Request → Request → Prop} (client : Client)
    {inNamespace namePrefix : String} {bundle bundle' : CertificateBundle}
    (hsame : same
      (client.postRequest token (.collection .secret (some inNamespace))
        (bundle.tlsSecret inNamespace namePrefix))
      (client.postRequest token' (.collection .secret (some inNamespace))
        (bundle'.tlsSecret inNamespace namePrefix))) :
    Attempting.Alike same (storeCertificate client token inNamespace namePrefix bundle)
      (storeCertificate client token' inNamespace namePrefix bundle') := by
  refine .bind (.bind (Client.exchange_alike hsame) fun _ => .pure _) fun result => ?_
  cases createdSecret? result with
  | some name => exact .pure name
  | none => exact .throw _

variable (h : IsSendable token) (h' : IsSendable token')
include h h'

theorem storeCertificate_alike (client : Client) (inNamespace namePrefix : String)
    (bundle : CertificateBundle) :
    Attempting.Alike (SameButToken token token')
      (storeCertificate client token inNamespace namePrefix bundle)
      (storeCertificate client token' inNamespace namePrefix bundle) :=
  storeCertificate_of_same client (client.postRequest_same h h' _ _)

namespace DomainChange

variable (change : DomainChange)

omit h h' in
theorem certificateFor_alike {same : Request → Request → Prop} (request : DomainChangeRequest)
    (hostname : String) :
    Attempting.Alike same (certificateFor request hostname) (certificateFor request hostname) := by
  unfold certificateFor
  cases request.customCerts.get? hostname with
  | some pair => exact .pure _
  | none => exact .issue fun result => .done result

theorem secretFor_alike (request : DomainChangeRequest) (hostname namePrefix : String) :
    Attempting.Alike (SameButToken token token')
      (change.secretFor token request hostname namePrefix)
      (change.secretFor token' request hostname namePrefix) :=
  .bind (certificateFor_alike request hostname) fun bundle =>
    storeCertificate_alike h h' _ _ _ bundle

theorem secureComponents_alike (request : DomainChangeRequest) (components : List Component)
    (routes : List ComponentRoute) :
    Attempting.Alike (SameButToken token token')
      (change.secureComponents token request components routes)
      (change.secureComponents token' request components routes) := by
  induction components generalizing routes with
  | nil => exact .pure routes
  | cons component rest ih => exact .bind (change.secretFor_alike h h' _ _ _) fun secret => ih _

theorem rehostRoutes_alike (old : Option String) (new : String) :
    Attempting.Alike (SameButToken token token') (change.rehostRoutes token old new)
      (change.rehostRoutes token' old new) := by
  cases old with
  | none => exact .pure _
  | some old =>
    refine .bind (change.client.list_alike h h' _) fun routes => ?_
    refine .bind (.lift (.sendAll ?_ fun outcomes => .done outcomes)) fun outcomes => ?_
    · exact List.forall₂_map_left_iff.2 <| List.forall₂_map_right_iff.2 <|
        List.forall₂_same.2 fun move _ => change.client.patchRequest_same h h' _ _
    · dsimp only
      split
      · exact .bind (.lift (.count (.done ()))) fun _ => .pure _
      · exact .pure _

theorem patchIngress_alike (ingress : IngressConfig) (domain : String)
    (routes : List ComponentRoute) :
    Attempting.Alike (SameButToken token token') (change.patchIngress token ingress domain routes)
      (change.patchIngress token' ingress domain routes) :=
  .bind (change.client.patch_alike h h' _ _) fun _ => .ofExcept _

theorem patchApiServer_alike (document : Value) :
    Attempting.Alike (SameButToken token token') (change.patchApiServer token document)
      (change.patchApiServer token' document) :=
  .bind (change.client.patch_alike h h' _ _) fun _ => .ofExcept _

theorem updateRedirect_alike (uri : String) :
    Attempting.Alike (SameButToken token token') (change.updateRedirect token uri)
      (change.updateRedirect token' uri) := by
  refine .bind (change.client.getPath_alike h h' _) fun client => ?_
  cases redirectPatch? client uri with
  | none => exact .pure ()
  | some operations => exact .bind (change.client.patch_alike h h' _ _) fun _ => .ofExcept _

theorem updateDeployment_alike (setupUiHost : String) :
    Attempting.Alike (SameButToken token token') (change.updateDeployment token setupUiHost)
      (change.updateDeployment token' setupUiHost) := by
  refine .bind (change.client.getPath_alike h h' _) fun deployment => ?_
  cases containers? deployment with
  | none => exact .throw _
  | some containers =>
    dsimp only
    cases refreshContainers? setupUiHost containers with
    | none => exact .throw _
    | some refreshed => exact .bind (change.client.patch_alike h h' _ _) fun _ => .ofExcept _

omit h h' in
theorem orElseValue_alike {same : Request → Request → Prop} {α : Type} (fallback : α)
    {action action' : Attempting α} (halike : Attempting.Alike same action action') :
    Attempting.Alike same (orElseValue fallback action) (orElseValue fallback action') :=
  halike.tryCatch fun _ => .pure fallback

theorem refreshSetupUi_alike (setupUiHost : String) :
    Attempting.Alike (SameButToken token token') (change.refreshSetupUi token setupUiHost)
      (change.refreshSetupUi token' setupUiHost) := by
  unfold refreshSetupUi
  split
  · exact .bind (orElseValue_alike () (change.updateRedirect_alike h h' _)) fun _ =>
      change.updateDeployment_alike h h' _
  · exact .pure ()

omit h h' in
theorem take_alike {same : Request → Request → Prop} {α : Type} (step : DomainStep) (fallback : α)
    {action action' : Attempting α} (halike : Attempting.Alike same action action') :
    Attempting.Alike same (step.take fallback action) (step.take fallback action') := by
  unfold DomainStep.take
  cases step.policy with
  | failFast => exact halike
  | bestEffort => exact orElseValue_alike fallback halike

theorem migrate_alike (request : DomainChangeRequest) (domains : Dns.ClusterDomains)
    (ingress : IngressConfig) :
    Attempting.Alike (SameButToken token token') (change.migrate token request domains ingress)
      (change.migrate token' request domains ingress) :=
  .bind (take_alike _ _ (change.secretFor_alike h h' _ _ _)) fun _ =>
  .bind (take_alike _ _ (change.secureComponents_alike h h' _ _ _)) fun _ =>
  .bind (take_alike _ _ (change.rehostRoutes_alike h h' _ _)) fun _ =>
  .bind (take_alike _ _ (change.patchIngress_alike h h' _ _ _)) fun _ =>
  .bind (take_alike _ _ (change.patchApiServer_alike h h' _)) fun _ =>
  .bind (take_alike _ _ (change.refreshSetupUi_alike h h' _)) fun _ => .pure _

theorem steps_alike (request : DomainChangeRequest) :
    Attempting.Alike (SameButToken token token') (change.steps token request)
      (change.steps token' request) := by
  refine .bind (.ofExcept _) fun domains => ?_
  refine .bind (change.client.getPath_alike h h' _) fun ingress => ?_
  split
  · exact .pure _
  · exact change.migrate_alike h h' _ _ _

/-- A domain change is the same under two tokens but for the token of its requests. -/
theorem run_alike (request : DomainChangeRequest) :
    Session.Alike (SameButToken token token') (change.run token request)
      (change.run token' request) :=
  Session.Alike.bind (change.steps_alike h h' request) fun result => .count (.done result)

end DomainChange

end EdgeSetup
