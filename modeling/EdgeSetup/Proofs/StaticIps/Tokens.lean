import EdgeSetup.Proofs.Cluster.Tokens
import EdgeSetup.StaticIps

/-!
# The token of a batch of hosts

Nothing in a batch depends on the token that it acts with but the token of its requests: under two
tokens the sessions are alike (`StaticIps.run_alike`).
-/

namespace EdgeSetup

open Http Http.Request

namespace StaticIps

variable {token token' : String} (h : IsSendable token) (h' : IsSendable token') (client : Client)
include h h'

theorem patchPolicy_alike (host : Host) (name : String) :
    Attempting.Alike (SameButToken token token') (patchPolicy client token host name)
      (patchPolicy client token' host name) := by
  refine .bind (.lift (client.patch_alike h h' _ _)) fun result => ?_
  cases result with
  | ok result =>
    dsimp only
    split
    · exact .pure ()
    · exact .throw _
  | error error => exact .throw _

theorem createPolicy_alike (host : Host) :
    Attempting.Alike (SameButToken token token') (createPolicy client token host)
      (createPolicy client token' host) := by
  refine .bind (client.post_alike h h' _ _) fun result => ?_
  split
  · exact .throw _
  · exact .pure ()

theorem applyAll_alike (hosts : List Host) (outcome : StaticIpOutcome) :
    Attempting.Alike (SameButToken token token') (applyAll client token outcome hosts)
      (applyAll client token' outcome hosts) := by
  induction hosts generalizing outcome with
  | nil => exact .pure outcome
  | cons host rest ih =>
    refine .bind (.ofExcept _) fun _ => ?_
    cases existingPolicy? host with
    | some name =>
      exact .bind (patchPolicy_alike h h' client host name) fun _ =>
        .bind (.lift (.count (.done ()))) fun _ => ih _
    | none =>
      exact .bind (createPolicy_alike h h' client host) fun _ =>
        .bind (.lift (.count (.done ()))) fun _ => ih _

/-- A batch of hosts is the same under two tokens but for the token of its requests. -/
theorem run_alike (hosts : List Host) :
    Attempting.Alike (SameButToken token token') (run client token hosts)
      (run client token' hosts) := by
  unfold run
  split
  · exact .throw _
  · exact applyAll_alike h h' client hosts _

end StaticIps

end EdgeSetup
